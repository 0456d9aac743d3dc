import AttributeStore.Project.Template
import AttributeStore.Proofs.Models.EventAddress
import AttributeStore.Proofs.Sql.Passages

/-! The text of the first model: comments that name its events, a selection, and a filter with a group of three texts
for each event. Events are printed as they are, without regard to what a quote or a new line does there. -/
namespace AttributeStore

open Sql (Token Leads Reads IsPassage IsWord EndsName)

/-- The character stands nowhere in the event. -/
structure Event.Lacks (e : Event) (c : Char) : Prop where
  vendor : c ∉ e.vendor.toList
  name : c ∉ e.name.toList
  version : c ∉ e.version.toList

namespace Renderer

/-- The lines that name the events, in order. -/
def eventsHeader (references : List String) : String :=
  String.join ((Column.sortNames references).map fun reference => s!"-- {reference}\n")

def sourceText (r : Renderer) : String := "FROM " ++ braces s!"source('{r.source}', '{r.table}')" ++ "\n"

/-- The selection and its source. -/
def eventsSelection (r : Renderer) (d : Draft) (m : Models) : String :=
  selection (r.eventsColumns d m) ++ r.sourceText

def eventsFilter (events : List EventSchema) : String :=
  "WHERE " ++ (if events.isEmpty then "FALSE" else "\n   OR ".intercalate (events.map eventFilter)) ++ "\n"

theorem eventsText_eq (r : Renderer) (d : Draft) (m : Models) : r.eventsText d m =
    eventsHeader d.blueprint.events ++ r.eventsSelection d m ++ eventsFilter m.events.events := by
  apply String.toList_inj.mp
  simp [eventsText, eventsHeader, eventsSelection, sourceText, eventsFilter, String.toList_append]

/-- The line of a comment. -/
def commentLine (reference : String) : List Char := '-' :: '-' :: ' ' :: reference.toList

theorem eventsHeader_toList (references : List String) : (eventsHeader references).toList =
    ((Column.sortNames references).map commentLine).flatMap (· ++ ['\n']) := by
  rw [eventsHeader, String.toList_join, List.flatMap_map, List.flatMap_map]
  refine List.flatMap_congr fun reference _ => ?_
  simp [commentLine, toString, String.toList_append]

/-- A comparison of a column with a text, and what stands behind it. -/
def comparedText (column value : String) (tail : List Char) : List Char :=
  column.toList ++ ' ' :: '=' :: ' ' :: '\'' :: (value.toList ++ '\'' :: tail)

theorem eventFilter_toList (s : EventSchema) (tail : List Char) : (eventFilter s).toList ++ tail =
    '(' :: comparedText "event_vendor" s.vendor (' ' :: ("AND".toList ++ ' ' ::
      comparedText "event_name" s.name (' ' :: ("AND".toList ++ ' ' ::
        comparedText "event_version" s.version (')' :: tail))))) := by
  have opening : "(event_vendor = '".toList = '(' :: ("event_vendor".toList ++ [' ', '=', ' ', '\'']) := by decide
  have second : "' AND event_name = '".toList =
      '\'' :: ' ' :: ("AND".toList ++ ' ' :: ("event_name".toList ++ [' ', '=', ' ', '\''])) := by decide
  have third : "' AND event_version = '".toList =
      '\'' :: ' ' :: ("AND".toList ++ ' ' :: ("event_version".toList ++ [' ', '=', ' ', '\''])) := by decide
  have closing : "')".toList = ['\'', ')'] := by decide
  show ("(event_vendor = '" ++ s.vendor ++ "' AND event_name = '" ++ s.name ++ "' AND event_version = '" ++
    s.version ++ "')").toList ++ tail = _
  rw [String.toList_append, String.toList_append, String.toList_append, String.toList_append, String.toList_append,
    String.toList_append, opening, second, third, closing]
  unfold comparedText
  generalize "event_vendor".toList = vendor, "event_name".toList = name, "event_version".toList = version,
    "AND".toList = conjunction
  simp only [List.append_assoc, List.cons_append, List.nil_append]

theorem intercalate_toList (sep text : String) (texts : List String) :
    (sep.intercalate (text :: texts)).toList = text.toList ++ texts.flatMap fun t => sep.toList ++ t.toList := by
  induction texts generalizing text with
  | nil => simp
  | cons next texts ih => simp [String.intercalate_cons_cons, String.toList_append, ih]

end Renderer

/-! The tokens that the filter should have. -/

namespace Event

def comparisonTokens (column value : String) : List Token := [.word column, .symbol "=", .text value]

/-- One group, with three texts: the event's vendor, name and version. -/
def groupTokens (e : Event) : List Token :=
  [Token.symbol "("] ++ comparisonTokens "event_vendor" e.vendor ++ [Token.word "AND"] ++
    comparisonTokens "event_name" e.name ++ [Token.word "AND"] ++ comparisonTokens "event_version" e.version ++
    [Token.symbol ")"]

/-- One group for each event; without events nothing passes. -/
def filterTokens : List Event → List Token
  | [] => [.word "WHERE", .word "FALSE"]
  | e :: rest => [Token.word "WHERE"] ++ e.groupTokens ++ rest.flatMap fun e => [Token.word "OR"] ++ e.groupTokens

end Event

namespace Renderer

variable {column value : String} {tail : List Char} {e : Event} {more : List Token}

theorem leads_equals (rest : List Char) : Leads (' ' :: '=' :: ' ' :: rest) [.symbol "="] rest :=
  (Leads.space _).trans <| (Leads.token (t := .symbol "=") (fun _ => rfl) le_rfl).trans (Leads.space rest)

theorem leads_column (word : IsWord column) (rest : List Char) :
    Leads (column.toList ++ ' ' :: '=' :: ' ' :: rest) [.word column, .symbol "="] rest :=
  (Leads.word word (EndsName.cons (by decide))).trans (leads_equals rest)

theorem leads_compared (word : IsWord column) (free : '\'' ∉ value.toList) (ends : tail.head? ≠ some '\'') :
    Leads (comparedText column value tail) (Event.comparisonTokens column value) tail :=
  (leads_column word _).trans (Leads.text free ends)

theorem reads_compared (word : IsWord column) (ends : tail.head? ≠ some '\'')
    (reads : Reads (comparedText column value tail) (Event.comparisonTokens column value ++ more)) :
    '\'' ∉ value.toList ∧ Reads tail more :=
  ((leads_column word _).reads reads).text ends

theorem leads_between {s : String} (word : IsWord s) (rest : List Char) :
    Leads (' ' :: (s.toList ++ ' ' :: rest)) [.word s] rest :=
  (Leads.space _).trans <| (Leads.word word (EndsName.cons (by decide))).trans (Leads.space rest)

theorem and_isWord : IsWord "AND" := by decide

theorem vendor_isWord : IsWord "event_vendor" := by decide

theorem name_isWord : IsWord "event_name" := by decide

theorem version_isWord : IsWord "event_version" := by decide

/-- Without a quote in the event, its group is cut into what it should be. -/
theorem isPassage_group (free : e.Lacks '\'') : IsPassage (eventFilter e.schema).toList e.groupTokens := by
  intro rest
  rw [eventFilter_toList]
  simp only [Event.groupTokens, List.append_assoc]
  exact (IsPassage.opening _).trans <| (leads_compared vendor_isWord free.vendor (by simp)).trans <|
    (leads_between and_isWord _).trans <| (leads_compared name_isWord free.name (by simp)).trans <|
    (leads_between and_isWord _).trans <| (leads_compared version_isWord free.version (by simp)).trans <|
    IsPassage.closing rest

/-- And where the group is cut into what it should be, there is no quote in the event. -/
theorem lacks_of_reads_group {rest : List Char}
    (reads : Reads ((eventFilter e.schema).toList ++ rest) (e.groupTokens ++ more)) :
    e.Lacks '\'' ∧ Reads rest more := by
  rw [eventFilter_toList] at reads
  simp only [Event.groupTokens, List.append_assoc] at reads
  obtain ⟨vendor, reads⟩ := reads_compared vendor_isWord (by simp) ((IsPassage.opening _).reads reads)
  obtain ⟨name, reads⟩ := reads_compared name_isWord (by simp) ((leads_between and_isWord _).reads reads)
  obtain ⟨version, reads⟩ := reads_compared version_isWord (by simp) ((leads_between and_isWord _).reads reads)
  exact ⟨⟨vendor, name, version⟩, (IsPassage.closing rest).reads reads⟩

/-- The text of the groups behind the first. -/
def furtherGroups (events : List Event) : List Char :=
  events.flatMap fun e => "\n   OR ".toList ++ (eventFilter e.schema).toList

theorem isPassage_or : IsPassage "\n   OR ".toList [.word "OR"] := by
  have text : "\n   OR ".toList = ['\n'] ++ [' '] ++ [' '] ++ [' '] ++ ("OR".toList ++ [' ']) := by decide
  rw [text]
  exact (((IsPassage.newline.append .space).append .space).append .space).append (.word (by decide) (by decide) .space)

theorem lacks_of_reads_furtherGroups {events : List Event} {rest : List Char}
    (reads : Reads (furtherGroups events ++ rest)
      ((events.flatMap fun e => [Token.word "OR"] ++ e.groupTokens) ++ more)) :
    ∀ e ∈ events, e.Lacks '\'' := by
  induction events with
  | nil => simp
  | cons e events ih =>
    simp only [furtherGroups, List.flatMap_cons, List.append_assoc] at reads
    obtain ⟨first, reads⟩ := lacks_of_reads_group ((isPassage_or _).reads reads)
    exact List.forall_mem_cons.mpr ⟨first, ih reads⟩

theorem eventsFilter_nil : (eventsFilter []).toList = ("WHERE".toList ++ [' ']) ++ ("FALSE".toList ++ ['\n']) := by
  decide

theorem eventsFilter_cons (e : Event) (rest : List Event) :
    (eventsFilter ((e :: rest).map Event.schema)).toList =
      ("WHERE".toList ++ [' ']) ++ ((eventFilter e.schema).toList ++ (furtherGroups rest ++ ['\n'])) := by
  have opening : "WHERE ".toList = "WHERE".toList ++ [' '] := by decide
  have closing : "\n".toList = ['\n'] := by decide
  rw [eventsFilter, String.toList_append, String.toList_append, opening, closing, List.map_cons, List.map_cons,
    List.isEmpty_cons, if_neg Bool.false_ne_true, intercalate_toList, List.flatMap_map, List.flatMap_map, furtherGroups]
  simp only [List.append_assoc]

theorem isPassage_where : IsPassage ("WHERE".toList ++ [' ']) [.word "WHERE"] := .word (by decide) (by decide) .space

theorem isPassage_filter {events : List Event} (free : ∀ e ∈ events, e.Lacks '\'') :
    IsPassage (eventsFilter (events.map Event.schema)).toList (Event.filterTokens events) := by
  cases events with
  | nil =>
    rw [List.map_nil, eventsFilter_nil]
    exact isPassage_where.append (.word (by decide) (by decide) .newline)
  | cons e rest =>
    obtain ⟨first, others⟩ := List.forall_mem_cons.mp free
    have further : IsPassage (furtherGroups rest) (rest.flatMap fun e => [Token.word "OR"] ++ e.groupTokens) :=
      .flatMap fun e member => isPassage_or.append (isPassage_group (others e member))
    have groups := (isPassage_group first).append (further.append .newline)
    rw [eventsFilter_cons, Event.filterTokens, List.append_assoc]
    simpa using isPassage_where.append groups

theorem lacks_of_reads_filter {events : List Event}
    (reads : Reads (eventsFilter (events.map Event.schema)).toList (Event.filterTokens events)) :
    ∀ e ∈ events, e.Lacks '\'' := by
  cases events with
  | nil => simp
  | cons e rest =>
    rw [eventsFilter_cons, Event.filterTokens, List.append_assoc] at reads
    obtain ⟨first, reads⟩ := lacks_of_reads_group ((isPassage_where _).reads reads)
    rw [← List.append_nil (List.flatMap _ rest)] at reads
    exact List.forall_mem_cons.mpr ⟨first, lacks_of_reads_furtherGroups reads⟩

theorem commentLine_iff {e : Event} : '\n' ∈ commentLine e.reference ↔ ¬e.Lacks '\n' := by
  have parts : '\n' ∈ commentLine e.reference ↔
      '\n' ∈ e.vendor.toList ∨ '\n' ∈ e.name.toList ∨ '\n' ∈ e.version.toList := by
    simp [commentLine, Event.reference, toString]
  rw [parts]
  constructor
  · rintro broken ⟨vendor, name, version⟩
    exact broken.elim vendor (·.elim name version)
  · intro broken
    by_contra whole
    rw [not_or, not_or] at whole
    exact broken ⟨whole.1, whole.2.1, whole.2.2⟩

/-- The header gives each event its own line exactly where no event is broken over lines. -/
theorem eventsHeader_lines_iff (events : List Event) :
    Text.splitAt '\n' (eventsHeader (events.map Event.reference)).toList =
      (Column.sortNames (events.map Event.reference)).map commentLine ++ [[]] ↔ ∀ e ∈ events, e.Lacks '\n' := by
  rw [eventsHeader_toList, Text.splitAt_lines_iff]
  simp [Column.sortNames, commentLine_iff]

/-- A header of such lines is no more than comments. -/
theorem isPassage_header {events : List Event} (whole : ∀ e ∈ events, e.Lacks '\n') :
    IsPassage (eventsHeader (events.map Event.reference)).toList [] := by
  have comment : ∀ line ∈ (Column.sortNames (events.map Event.reference)).map commentLine,
      IsPassage (line ++ ['\n']) [] := by
    intro line member
    obtain ⟨reference, listed, rfl⟩ := List.mem_map.mp member
    obtain ⟨e, declared, rfl⟩ := List.mem_map.mp (List.mem_mergeSort.mp listed)
    have oneLine : '\n' ∉ commentLine e.reference := by
      rw [commentLine_iff]
      exact not_not.mpr (whole e declared)
    simp only [commentLine, List.mem_cons, not_or] at oneLine
    exact IsPassage.comment (s := ' ' :: e.reference.toList) (by simpa using oneLine.2.2.2)
  have header := IsPassage.flatMap comment
  rwa [← eventsHeader_toList, List.flatMap_eq_nil_iff.mpr fun _ _ => rfl] at header

/-! The selection between header and filter. Paths of properties stand there as SQL of their own. -/

/-- One of several selected columns: complete before the next one and before the end of the line. -/
def IsItem (s : List Char) (tokens : List Token) : Prop :=
  ∀ c rest, c = ',' ∨ c = '\n' → Leads (s ++ c :: rest) tokens (c :: rest)

theorem isItem_word (word : IsWord column) : IsItem column.toList [.word column] := by
  intro c rest mark
  exact Leads.word word (EndsName.cons (by rcases mark with rfl | rfl <;> decide))

theorem isItem_append {s s' : List Char} {tokens tokens' : List Token} (first : IsPassage s tokens)
    (last : IsItem s' tokens') : IsItem (s ++ s') (tokens ++ tokens') := by
  intro c rest mark
  rw [List.append_assoc]
  exact (first _).trans (last c rest mark)

/-- The text of the columns behind the first. -/
def furtherColumns (columns : List String) : List Char :=
  columns.flatMap fun column => ",\n    ".toList ++ column.toList

theorem separator_toList : ",\n    ".toList = [','] ++ ['\n'] ++ [' '] ++ [' '] ++ [' '] ++ [' '] := by decide

theorem isPassage_separator : IsPassage ",\n    ".toList [.symbol ","] := by
  rw [separator_toList]
  exact ((((IsPassage.comma.append .newline).append .space).append .space).append .space).append .space

/-- Behind a column stands the next comma, or the end of the line. -/
theorem furtherColumns_begin (columns : List String) (rest : List Char) :
    ∃ c behind, (c = ',' ∨ c = '\n') ∧ furtherColumns columns ++ '\n' :: rest = c :: behind := by
  cases columns with
  | nil => exact ⟨_, _, .inr rfl, rfl⟩
  | cons => exact ⟨_, _, .inl rfl, by rw [furtherColumns, List.flatMap_cons, separator_toList]; rfl⟩

theorem leads_furtherColumns {columns : List String} {tokens : List (List Token)}
    (each : List.Forall₂ (fun column tokens => IsItem column.toList tokens) columns tokens) (rest : List Char) :
    Leads (furtherColumns columns ++ '\n' :: rest) (tokens.flatMap (.symbol "," :: ·)) ('\n' :: rest) := by
  induction each with
  | nil => exact IsPassage.nil _
  | @cons column _ columns _ item _ ih =>
    obtain ⟨c, behind, mark, next⟩ := furtherColumns_begin columns rest
    rw [next] at ih
    rw [furtherColumns, List.flatMap_cons, ← furtherColumns, List.append_assoc, List.append_assoc, next]
    exact (isPassage_separator _).trans ((item c behind mark).trans ih)

/-- The tokens of the day's column. -/
def dateTokens (time : String) : List Token :=
  [.word "CAST", .symbol "(", .word time, .word "AS", .word "DATE", .symbol ")", .word "AS", .word "event_date"]

def sourceTokens (r : Renderer) : List Token :=
  [.word "FROM", .symbol "\x7b", .symbol "\x7b", .word "source", .symbol "(", .text r.source, .symbol ",",
    .text r.table, .symbol ")", .symbol "\x7d", .symbol "\x7d"]

/-- The tokens of the selection, from those of the columns of properties. -/
def selectionTokens (r : Renderer) (key : String) (properties : List (List Token)) : List Token :=
  [Token.word "SELECT"] ++ ([Token.word key] ++
    (([[Token.word eventNameColumn], [Token.word r.timestamp], dateTokens r.timestamp] ++ properties).flatMap
      (.symbol "," :: ·) ++ r.sourceTokens))

theorem isItem_date {time : String} (word : IsWord time) :
    IsItem (s!"CAST({time} AS DATE) AS event_date").toList (dateTokens time) := by
  have opening : "CAST(".toList = "CAST".toList ++ ['('] := by decide
  have closing : " AS DATE) AS event_date".toList = [' '] ++ ("AS".toList ++ [' ']) ++ ("DATE".toList ++ [')']) ++
    [' '] ++ ("AS".toList ++ [' ']) ++ "event_date".toList := by decide
  have text : (s!"CAST({time} AS DATE) AS event_date").toList = ("CAST".toList ++ ['(']) ++ (time.toList ++ [' ']) ++
      ("AS".toList ++ [' ']) ++ ("DATE".toList ++ [')']) ++ [' '] ++ ("AS".toList ++ [' ']) ++ "event_date".toList := by
    show ("CAST(" ++ time ++ " AS DATE) AS event_date").toList = _
    rw [String.toList_append, String.toList_append, opening, closing]
    simp only [List.append_assoc]
  have before : IsPassage (time.toList ++ [' ']) [.word time] := .word word (by decide) .space
  have as : IsPassage ("AS".toList ++ [' ']) [.word "AS"] := .word (by decide) (by decide) .space
  have cast : IsPassage ("CAST".toList ++ ['(']) [.word "CAST", .symbol "("] := .word (by decide) (by decide) .opening
  have date : IsPassage ("DATE".toList ++ [')']) [.word "DATE", .symbol ")"] := .word (by decide) (by decide) .closing
  rw [text]
  exact isItem_append (((((cast.append before).append as).append date).append .space).append as)
    (isItem_word (by decide))

theorem isPassage_source {r : Renderer} (source : '\'' ∉ r.source.toList) (table : '\'' ∉ r.table.toList) :
    IsPassage r.sourceText.toList r.sourceTokens := by
  have opening : "FROM ".toList = "FROM".toList ++ [' '] := by decide
  have left : "\x7b\x7b ".toList = ['\x7b'] ++ ['\x7b'] ++ [' '] := by decide
  have call : "source('".toList = "source".toList ++ ['('] ++ ['\''] := by decide
  have middle : "', '".toList = ['\'', ','] ++ [' '] ++ ['\''] := by decide
  have done : "')".toList = ['\'', ')'] := by decide
  have right : " \x7d\x7d".toList = [' '] ++ ['\x7d'] ++ ['\x7d'] := by decide
  have line : "\n".toList = ['\n'] := by decide
  have text : r.sourceText.toList = ("FROM".toList ++ [' ']) ++ ['\x7b'] ++ ['\x7b'] ++ [' '] ++
      ("source".toList ++ ['(']) ++ ('\'' :: (r.source.toList ++ ['\'', ','])) ++ [' '] ++
      ('\'' :: (r.table.toList ++ ['\'', ')'])) ++ [' '] ++ ['\x7d'] ++ ['\x7d'] ++ ['\n'] := by
    show ("FROM " ++ ("\x7b\x7b " ++ ("source('" ++ r.source ++ "', '" ++ r.table ++ "')") ++ " \x7d\x7d") ++
      "\n").toList = _
    simp only [String.toList_append, opening, left, call, middle, done, right, line, List.append_assoc,
      List.cons_append, List.nil_append]
  have from' : IsPassage ("FROM".toList ++ [' ']) [.word "FROM"] := .word (by decide) (by decide) .space
  have brace : IsPassage ['\x7b'] [.symbol "\x7b"] := fun _ => Leads.token (fun _ => rfl) le_rfl
  have close : IsPassage ['\x7d'] [.symbol "\x7d"] := fun _ => Leads.token (fun _ => rfl) le_rfl
  have function : IsPassage ("source".toList ++ ['(']) [.word "source", .symbol "("] :=
    .word (by decide) (by decide) .opening
  rw [text]
  exact ((((((((((from'.append brace).append brace).append .space).append function).append
    (.text source (by decide) .comma)).append .space).append (.text table (by decide) .closing)).append .space).append
      close).append close).append .newline

/-- The selections behind the entity's key. -/
def furtherSelections (r : Renderer) (m : Models) : List String :=
  [eventNameColumn, r.timestamp, s!"CAST({r.timestamp} AS DATE) AS event_date"] ++
    m.events.properties.map fun p => s!"{p.path} AS {p.name}"

theorem eventsSelection_toList (r : Renderer) (d : Draft) (m : Models) : (r.eventsSelection d m).toList =
    "SELECT\n    ".toList ++ (d.blueprint.entityKey.toList ++ (furtherColumns (r.furtherSelections m) ++ '\n' ::
      r.sourceText.toList)) := by
  have columns : r.eventsColumns d m = d.blueprint.entityKey :: r.furtherSelections m := rfl
  have line : "\n".toList = ['\n'] := by decide
  unfold eventsSelection selection
  rw [columns, String.toList_append, String.toList_append, String.toList_append, intercalate_toList, line,
    ← furtherColumns]
  simp only [List.append_assoc, List.singleton_append]

theorem isPassage_select : IsPassage "SELECT\n    ".toList [.word "SELECT"] := by
  have text : "SELECT\n    ".toList = "SELECT".toList ++ ['\n'] ++ [' '] ++ [' '] ++ [' '] ++ [' '] := by decide
  rw [text]
  exact ((((IsPassage.word (by decide) (by decide) .newline).append .space).append .space).append .space).append .space

/-- Where key and time are names and the columns of properties are SQL, so is the selection. -/
theorem isPassage_selection {r : Renderer} {d : Draft} {m : Models} {properties : List (List Token)}
    (key : IsWord d.blueprint.entityKey) (time : IsWord r.timestamp) (source : '\'' ∉ r.source.toList)
    (table : '\'' ∉ r.table.toList) (items : List.Forall₂ (fun (p : Column.Binding) tokens =>
      IsItem (s!"{p.path} AS {p.name}").toList tokens) m.events.properties properties) :
    IsPassage (r.eventsSelection d m).toList (r.selectionTokens d.blueprint.entityKey properties) := by
  have each : List.Forall₂ (fun column tokens => IsItem column.toList tokens) (r.furtherSelections m)
      ([[.word eventNameColumn], [.word r.timestamp], dateTokens r.timestamp] ++ properties) :=
    .cons (isItem_word (by decide)) <| .cons (isItem_word time) <| .cons (isItem_date time) <|
      List.forall₂_map_left_iff.mpr items
  intro rest
  obtain ⟨c, behind, mark, next⟩ := furtherColumns_begin (r.furtherSelections m) (r.sourceText.toList ++ rest)
  have first := isItem_word key c behind mark
  rw [← next] at first
  have columns := leads_furtherColumns each (r.sourceText.toList ++ rest)
  have source := (Leads.newline _).trans (isPassage_source source table rest)
  have text : (r.eventsSelection d m).toList ++ rest = "SELECT\n    ".toList ++ (d.blueprint.entityKey.toList ++
      (furtherColumns (r.furtherSelections m) ++ '\n' :: (r.sourceText.toList ++ rest))) := by
    rw [eventsSelection_toList]
    simp only [List.append_assoc, List.cons_append]
  rw [text, selectionTokens]
  exact (isPassage_select _).trans (first.trans (columns.trans source))

end Renderer

end AttributeStore
