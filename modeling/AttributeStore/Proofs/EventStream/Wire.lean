import AttributeStore.Proofs.EventStream.Chunks
import AttributeStore.Proofs.Text.Splitting
import AttributeStore.Proofs.Text.Utf8

/-! Streams as they are written. An event is a block of lines and a blank line behind them. Its name and its id have a
line each and its data one for each line of it; comments and fields of other names may stand between these lines, and
each line ends on its own. -/
namespace AttributeStore.EventStream

/-- A line of a stream that is not blank. A field of another name may come without a value. -/
inductive Line where
  | name (value : String)
  | data (value : String)
  | id (value : String)
  | comment (text : String)
  | other (field : String) (value : Option String)
  deriving DecidableEq

/-- A text that a line can hold up to its end: returns before a line feed belong to the end of the line. -/
def IsLine (text : List Char) : Prop := '\n' ∉ text ∧ text.getLast? ≠ some '\r'

instance (text : List Char) : Decidable (IsLine text) := inferInstanceAs (Decidable (_ ∧ _))

/-- A line with its end. The ends LF and CR LF are those with no return and with one. -/
def ended (text : List Char) (returns : Nat) : List Char := text ++ List.replicate returns '\r' ++ ['\n']

namespace Line

def text : Line → String
  | name value => "event: " ++ value
  | data value => "data: " ++ value
  | id value => "id: " ++ value
  | comment text => ":" ++ text
  | other field none => field
  | other field (some value) => field ++ ":" ++ value

def name? : Line → Option String
  | name value => some value
  | _ => none

def data? : Line → Option String
  | data value => some value
  | _ => none

def id? : Line → Option String
  | id value => some value
  | _ => none

/-- A line besides those of an event is a comment or has a field that no event has. -/
def Fits : Line → Prop
  | comment text => IsLine (comment text).text.toList
  | other field value => IsLine (other field value).text.toList ∧ field ≠ "" ∧ ':' ∉ field.toList ∧
      field ∉ ["event", "data", "id"]
  | _ => True

instance : (line : Line) → Decidable line.Fits
  | comment text => inferInstanceAs (Decidable (IsLine (comment text).text.toList))
  | other _ _ => inferInstanceAs (Decidable (_ ∧ _))
  | name _ | data _ | id _ => inferInstanceAs (Decidable True)

end Line

/-- The lines of an event, each with the number of returns at its end, and the blank line behind them. -/
structure Frame where
  lines : List (Line × Nat)
  returns : Nat

namespace Frame

def text (f : Frame) : List Char :=
  f.lines.flatMap (fun (line, returns) => ended line.text.toList returns) ++ ended [] f.returns

/-- The frame has the lines of an event, those of its data in their order, and others that do not matter. -/
structure Writes (f : Frame) (e : Event) : Prop where
  names : f.lines.filterMap (·.1.name?) = e.name.toList
  ids : f.lines.filterMap (·.1.id?) = e.id.toList
  data : (f.lines.filterMap (·.1.data?)).map String.toList = Text.splitAt '\n' e.data.toList
  fits : ∀ line ∈ f.lines, line.1.Fits

end Frame

namespace Event

/-- An event whose name and id are single lines, and whose data has lines that do not end in a return. -/
structure IsWritable (e : Event) : Prop where
  name : ∀ value ∈ e.name, IsLine value.toList
  id : ∀ value ∈ e.id, IsLine value.toList
  data : ∀ line ∈ Text.splitAt '\n' e.data.toList, line.getLast? ≠ some '\r'

/-- The frame without returns and comments. -/
def frame (e : Event) : Frame :=
  let data := (Text.splitAt '\n' e.data.toList).map String.ofList
  ⟨(e.name.toList.map Line.name ++ e.id.toList.map Line.id ++ data.map Line.data).map (·, 0), 0⟩

theorem frame_writes (e : Event) : e.frame.Writes e := by
  obtain ⟨name, data, id⟩ := e
  constructor <;> cases name <;> cases id <;>
    simp [frame, Line.name?, Line.id?, Line.data?, Line.Fits, Function.comp_def]

end Event

/-! Lines. -/

theorem IsLine.append {front text : List Char} (unbroken : '\n' ∉ front) (closed : front.getLast? ≠ some '\r')
    (line : IsLine text) : IsLine (front ++ text) := by
  refine ⟨by simp [unbroken, line.1], ?_⟩
  rw [List.getLast?_append]
  cases last : text.getLast? with
  | none => exact closed
  | some c => simpa [last] using line.2

theorem Frame.Writes.isLine {f : Frame} {e : Event} (written : f.Writes e) (writable : e.IsWritable)
    {line : Line × Nat} (member : line ∈ f.lines) : IsLine line.1.text.toList := by
  obtain ⟨line, returns⟩ := line
  have fits := written.fits _ member
  have listed (part : Line → Option String) {value : String} (its : part line = some value) :
      value ∈ f.lines.filterMap (part ·.1) := List.mem_filterMap.mpr ⟨_, member, its⟩
  cases line with
  | name value =>
    have own := listed Line.name? rfl
    rw [written.names, Option.mem_toList] at own
    rw [Line.text, String.toList_append]
    exact .append (by decide) (by decide) (writable.name value own)
  | id value =>
    have own := listed Line.id? rfl
    rw [written.ids, Option.mem_toList] at own
    rw [Line.text, String.toList_append]
    exact .append (by decide) (by decide) (writable.id value own)
  | data value =>
    have own := List.mem_map_of_mem (f := String.toList) (listed Line.data? rfl)
    rw [written.data] at own
    rw [Line.text, String.toList_append]
    exact .append (by decide) (by decide) ⟨Text.notMem_of_mem_splitAt own, writable.data _ own⟩
  | comment text => exact fits
  | other field value => exact fits.1

namespace Parser

/-- What a line that is not blank leaves of the parser. -/
def take (p : Parser) : Line → Parser
  | .name value => { p with name := some value }
  | .data value => { p with data := p.data ++ [value] }
  | .id value => { p with id := some value }
  | .comment _ | .other _ _ => p

theorem setField_other (p : Parser) {field : String} (unknown : field ∉ ["event", "data", "id"]) (value : String) :
    p.setField field value = p := by
  unfold setField
  split <;> first | rfl | simp at unknown

theorem readLine_field (p : Parser) {field : List Char} (nonempty : field ≠ []) (plain : ':' ∉ field)
    (rest : List Char) : p.readLine (field ++ rest) =
      (p.setField (String.ofList (splitField (field ++ rest)).1)
        (String.ofList (splitField (field ++ rest)).2), none) := by
  obtain ⟨c, field, rfl⟩ := List.exists_cons_of_ne_nil nonempty
  unfold readLine
  split
  case h_1 empty => cases empty
  case h_2 comment =>
    cases comment
    exact absurd List.mem_cons_self plain
  case h_3 => rfl

theorem splitField_value {field : List Char} (plain : ':' ∉ field) (value : List Char) :
    splitField (field ++ ':' :: ' ' :: value) = (field, value) := by
  rw [splitField, Text.splitFirst_append plain]
  rfl

theorem splitField_name {field : List Char} (plain : ':' ∉ field) (value : List Char) :
    (splitField (field ++ ':' :: value)).1 = field := by
  rw [splitField, Text.splitFirst_append plain]
  split <;> simp_all

theorem splitField_alone {field : List Char} (plain : ':' ∉ field) : splitField field = (field, []) := by
  rw [splitField, Text.splitFirst_eq_none.mpr plain]

theorem readLine_value (p : Parser) (field : String) (nonempty : field ≠ "") (plain : ':' ∉ field.toList)
    (value : String) : p.readLine (field ++ ": " ++ value).toList = (p.setField field value, none) := by
  have line : (field ++ ": " ++ value).toList = field.toList ++ ':' :: ' ' :: value.toList := by simp
  rw [line, readLine_field p (by simpa using nonempty) plain, splitField_value plain, String.ofList_toList,
    String.ofList_toList]

theorem readLine_text (p : Parser) {line : Line} (fits : line.Fits) :
    p.readLine line.text.toList = (p.take line, none) := by
  cases line with
  | name value => exact p.readLine_value "event" (by decide) (by decide) value
  | data value => exact p.readLine_value "data" (by decide) (by decide) value
  | id value => exact p.readLine_value "id" (by decide) (by decide) value
  | comment text =>
    rw [Line.text, String.toList_append]
    rfl
  | other field value =>
    obtain ⟨-, nonempty, plain, unknown⟩ := fits
    cases value with
    | none =>
      rw [Line.text, ← List.append_nil field.toList, readLine_field p (by simpa using nonempty) plain,
        List.append_nil, splitField_alone plain, String.ofList_toList, setField_other p unknown]
      rfl
    | some value =>
      have line : (field ++ ":" ++ value).toList = field.toList ++ ':' :: value.toList := by simp
      rw [Line.text, line, readLine_field p (by simpa using nonempty) plain, splitField_name plain,
        String.ofList_toList, setField_other p unknown]
      rfl

/-- What a block of lines leaves: the last name and the last id, and all data. -/
theorem foldl_take (p : Parser) (lines : List (Line × Nat)) :
    lines.foldl (fun p line => p.take line.1) p =
      { p with
        name := (lines.filterMap (·.1.name?)).getLast?.or p.name
        data := p.data ++ lines.filterMap (·.1.data?)
        id := (lines.filterMap (·.1.id?)).getLast?.or p.id } := by
  induction lines generalizing p with
  | nil => simp
  | cons line rest ih =>
    obtain ⟨line, returns⟩ := line
    rw [List.foldl_cons, ih]
    cases line <;> simp [take, Line.name?, Line.data?, Line.id?, List.getLast?_cons]

/-! Blocks of lines. -/

theorem lineText_ended {line : List Char} (whole : line.getLast? ≠ some '\r') (returns : Nat) :
    lineText (Text.toUtf8 (line ++ List.replicate returns '\r')) = line := by
  rw [lineText, Text.fromUtf8_toUtf8, Text.trimEnd, List.reverse_append, List.reverse_replicate,
    List.dropWhile_append_of_pos (by simp), List.dropWhile_eq_self_iff.mpr, List.reverse_reverse]
  intro some
  rw [List.getLast?_eq_head?_reverse, List.head?_eq_some_head (List.ne_nil_of_length_pos some)] at whole
  simpa [List.head_eq_getElem] using whole

theorem drain_ended (p : Parser) (fresh : p.line = []) {line : List Char} (whole : IsLine line) (returns : Nat)
    (rest : List UInt8) : p.drain (Text.toUtf8 (ended line returns) ++ rest) =
      let (next, event) := p.readLine line
      let (last, events) := next.drain rest
      (last, event.toList ++ events) := by
  have unbroken : '\n' ∉ line ++ List.replicate returns '\r' := by simp [whole.1]
  have bytes : Text.toUtf8 (ended line returns) ++ rest =
      Text.toUtf8 (line ++ List.replicate returns '\r') ++ 10 :: rest := by
    rw [ended, Text.toUtf8_append, List.append_assoc]
    rfl
  have opened : { p with line := [] } = p := by rw [← fresh]
  rw [bytes, drain_line p (Text.lineFeed_notMem_toUtf8 unbroken), opened, lineText_ended whole.2]

/-- A block of lines completes no event. -/
theorem drain_lines (p : Parser) (fresh : p.line = []) {lines : List (Line × Nat)}
    (whole : ∀ line ∈ lines, IsLine line.1.text.toList ∧ line.1.Fits) (rest : List UInt8) :
    p.drain (Text.toUtf8 (lines.flatMap fun (line, returns) => ended line.text.toList returns) ++ rest) =
      (lines.foldl (fun p line => p.take line.1) p).drain rest := by
  induction lines generalizing p with
  | nil => rfl
  | cons line more ih =>
    obtain ⟨line, returns⟩ := line
    rw [List.forall_mem_cons] at whole
    obtain ⟨⟨first, fits⟩, others⟩ := whole
    have next : (p.take line).line = [] := by cases line <;> exact fresh
    rw [List.flatMap_cons, Text.toUtf8_append, List.append_assoc, drain_ended p fresh first, readLine_text p fits]
    simp only [Option.toList_none, List.nil_append]
    rw [ih (p.take line) next others]
    rfl

/-- A written event is completed by its blank line, and nothing of it is left. -/
theorem drain_frame {f : Frame} {e : Event} (written : f.Writes e) (writable : e.IsWritable) (rest : List UInt8) :
    ({} : Parser).drain (Text.toUtf8 f.text ++ rest) =
      ((({} : Parser).drain rest).1, e :: (({} : Parser).drain rest).2) := by
  let data := f.lines.filterMap (·.1.data?)
  have nonempty : data.isEmpty = false := by
    have pieces := Text.splitAt_ne_nil '\n' e.data.toList
    rw [← written.data] at pieces
    simpa [data] using pieces
  have joined : "\n".intercalate data = e.data := by
    rw [← String.toList_inj, String.toList_intercalate, written.data]
    exact Text.intercalate_splitAt '\n' e.data.toList
  have block : f.lines.foldl (fun p line => p.take line.1) ({} : Parser) = ⟨[], e.name, data, e.id⟩ := by
    have last (value : Option String) : value.toList.getLast?.or none = value := by cases value <;> rfl
    rw [foldl_take, written.names, written.ids, last, last]
    rfl
  have complete : (⟨[], e.name, data, e.id⟩ : Parser).readLine [] = ({}, some e) := by
    simp only [readLine, dispatch, nonempty, joined, Bool.false_eq_true, if_false]
  rw [Frame.text, Text.toUtf8_append, List.append_assoc,
    drain_lines {} rfl fun line member => ⟨written.isLine writable member, written.fits line member⟩, block,
    drain_ended _ rfl ⟨List.not_mem_nil, nofun⟩, complete]
  rfl

end Parser

/-- The parser inverts the format: whatever frames the events are written in, a fresh parser completes these events from
the bytes of the frames, in their order, and is fresh again. -/
theorem Parser.feed_frames {events : List Event} {frames : List Frame} (writable : ∀ e ∈ events, e.IsWritable)
    (written : List.Forall₂ Frame.Writes frames events) :
    ({} : Parser).feed (Text.toUtf8 (frames.flatMap Frame.text)) = ({}, events) := by
  rw [Parser.feed_eq_drain {} _ List.not_mem_nil, List.reverse_nil, List.nil_append]
  induction written with
  | nil => rw [List.flatMap_nil]; exact Parser.drain_unfinished {} List.not_mem_nil
  | cons first others ih =>
    rw [List.forall_mem_cons] at writable
    rw [List.flatMap_cons, Text.toUtf8_append, Parser.drain_frame first writable.1, ih writable.2]

/-- An intervention among a comment and a field of another name, its fields in no particular order, and an event that is
nothing but an empty line of data. -/
theorem Parser.feed_frames_of_intervention :
    let first : Event := ⟨some "intervention", "a\n\n b: c", some "7"⟩
    let second : Event := ⟨none, "", none⟩
    let text := ": ping\r\ndata: a\r\nid: 7\ndata: \nretry:10\r\nevent: intervention\ndata:  b: c\r\n\r\ndata: \n\n"
    first.IsWritable ∧ second.IsWritable ∧
      ({} : Parser).feed (Text.toUtf8 text.toList) = ({}, [first, second]) := by
  intro first second text
  let frame : Frame :=
    ⟨[(.comment " ping", 1), (.data "a", 1), (.id "7", 0), (.data "", 0), (.other "retry" (some "10"), 1),
      (.name "intervention", 0), (.data " b: c", 1)], 1⟩
  have writable : first.IsWritable ∧ second.IsWritable :=
    ⟨⟨by simp [first, IsLine], by simp [first, IsLine], by decide⟩, ⟨nofun, nofun, by decide⟩⟩
  have written : frame.Writes first := ⟨by decide, by decide, by decide, by decide⟩
  have frames : text.toList = [frame, second.frame].flatMap Frame.text := by decide +kernel
  have all : ∀ e ∈ [first, second], e.IsWritable := by simpa using writable
  have read := Parser.feed_frames all (.cons written (.cons second.frame_writes .nil))
  exact ⟨writable.1, writable.2, frames ▸ read⟩

end AttributeStore.EventStream
