import AttributeStore.EventStream
import Mathlib.Data.List.TakeWhile

/-! Chunks. A parser that takes its bytes one at a time reads what a buffer holds line by line, and where the bytes are
cut into chunks shows neither in the events nor in what it keeps. -/
namespace AttributeStore.EventStream.Parser

/-- The events that some chunks complete, fed one after another. -/
def feedAll (p : Parser) : List (List UInt8) → Parser × List Event
  | [] => (p, [])
  | chunk :: rest =>
    let (next, events) := p.feed chunk
    let (last, more) := next.feedAll rest
    (last, events ++ more)

/-- Takes complete lines out of a buffer, each with its line feed, and reads them in their order. What is behind the
last line feed becomes the unfinished line. -/
def drain (p : Parser) (buffer : List UInt8) : Parser × List Event :=
  match _rest : buffer.dropWhile (· ≠ 10) with
  | [] => ({ p with line := buffer.reverse }, [])
  | _ :: others =>
    let (next, event) := ({ p with line := [] } : Parser).readLine (lineText (buffer.takeWhile (· ≠ 10)))
    let (last, events) := next.drain others
    (last, event.toList ++ events)
termination_by buffer.length
decreasing_by
  have shorter := (buffer.dropWhile_suffix (· ≠ 10)).length_le
  rw [_rest, List.length_cons] at shorter
  omega

theorem feed_append (p : Parser) (first second : List UInt8) :
    p.feed (first ++ second) =
      (((p.feed first).1.feed second).1, (p.feed first).2 ++ ((p.feed first).1.feed second).2) := by
  induction first generalizing p with
  | nil => rfl
  | cons b rest ih =>
    simp only [List.cons_append, feed]
    rw [ih, List.append_assoc]

theorem feedAll_append (p : Parser) (first second : List (List UInt8)) :
    p.feedAll (first ++ second) =
      (((p.feedAll first).1.feedAll second).1, (p.feedAll first).2 ++ ((p.feedAll first).1.feedAll second).2) := by
  induction first generalizing p with
  | nil => rfl
  | cons chunk rest ih =>
    simp only [List.cons_append, feedAll]
    rw [ih, List.append_assoc]

/-- Every event ends with a line feed of its own. -/
theorem length_feed_le (p : Parser) (bytes : List UInt8) : (p.feed bytes).2.length ≤ bytes.length := by
  induction bytes generalizing p with
  | nil => exact Nat.le_refl 0
  | cons b rest ih =>
    have event : (p.feedByte b).2.toList.length ≤ 1 := by cases (p.feedByte b).2 <;> simp
    have others := ih (p.feedByte b).1
    simp only [feed, List.length_append, List.length_cons]
    omega

/-- A line that has been read leaves the unfinished one alone. -/
@[simp] theorem readLine_line (p : Parser) (line : List Char) : (p.readLine line).1.line = p.line := by
  unfold readLine
  split
  · unfold dispatch
    dsimp only
    split <;> rfl
  · rfl
  · dsimp only [setField]
    split <;> rfl

theorem feedByte_feed (p : Parser) :
    p.feedByte 10 = ({ p with line := [] } : Parser).readLine (lineText p.line.reverse) := rfl

theorem feedByte_other (p : Parser) {b : UInt8} (other : b ≠ 10) :
    p.feedByte b = ({ p with line := b :: p.line }, none) :=
  if_neg other

/-- The unfinished line never holds a line feed. -/
theorem feed_line_open (p : Parser) (bytes : List UInt8) (unfinished : 10 ∉ p.line) : 10 ∉ (p.feed bytes).1.line := by
  induction bytes generalizing p with
  | nil => exact unfinished
  | cons b rest ih =>
    have next : 10 ∉ (p.feedByte b).1.line := by
      by_cases feeds : b = 10
      · rw [feeds, feedByte_feed, readLine_line]
        exact List.not_mem_nil
      · rw [feedByte_other p feeds]
        simpa using ⟨Ne.symm feeds, unfinished⟩
    exact ih _ next

/-- The buffer is all that is drained, whatever the unfinished line was. -/
theorem drain_setLine (p : Parser) (line buffer : List UInt8) :
    ({ p with line := line } : Parser).drain buffer = p.drain buffer := by
  rw [drain, drain]

theorem drain_unfinished (p : Parser) {buffer : List UInt8} (unfinished : 10 ∉ buffer) :
    p.drain buffer = ({ p with line := buffer.reverse }, []) := by
  have inside : ∀ b ∈ buffer, decide (b ≠ 10) = true := by
    intro b member
    simpa using fun same : b = 10 => unfinished (same ▸ member)
  rw [drain]
  split
  case h_1 => rfl
  case h_2 found =>
    rw [List.dropWhile_eq_nil_iff.mpr inside] at found
    cases found

theorem drain_line (p : Parser) {line : List UInt8} (unfinished : 10 ∉ line) (rest : List UInt8) :
    p.drain (line ++ 10 :: rest) =
      let (next, event) := ({ p with line := [] } : Parser).readLine (lineText line)
      let (last, events) := next.drain rest
      (last, event.toList ++ events) := by
  have inside : ∀ b ∈ line, decide (b ≠ 10) = true := by
    intro b member
    simpa using fun same : b = 10 => unfinished (same ▸ member)
  have behind : (line ++ 10 :: rest).dropWhile (· ≠ 10) = 10 :: rest := by
    rw [List.dropWhile_append_of_pos inside]
    rfl
  have before : (line ++ 10 :: rest).takeWhile (· ≠ 10) = line := by
    rw [List.takeWhile_append_of_pos inside, List.takeWhile_cons_of_neg (by decide), List.append_nil]
  rw [drain]
  split
  case h_1 found =>
    rw [behind] at found
    cases found
  case h_2 found =>
    rw [behind] at found
    cases found
    rw [before]

/-- The bytes one at a time, and the buffer line by line: the unfinished line is the buffer that is left. -/
theorem feed_eq_drain (p : Parser) (bytes : List UInt8) (unfinished : 10 ∉ p.line) :
    p.feed bytes = p.drain (p.line.reverse ++ bytes) := by
  induction bytes generalizing p with
  | nil =>
    rw [List.append_nil, drain_unfinished p (by simpa using unfinished), List.reverse_reverse]
    rfl
  | cons b rest ih =>
    rw [feed]
    by_cases feeds : b = 10
    · have opened := readLine_line { p with line := [] } (lineText p.line.reverse)
      rw [feeds, drain_line p (by simpa using unfinished), feedByte_feed]
      simp only
      rw [ih _ (by rw [opened]; exact List.not_mem_nil), opened]
      rfl
    · -- the byte moves from what arrives to the unfinished line, and the buffer of both stays the same
      have longer : 10 ∉ b :: p.line := by simpa using ⟨Ne.symm feeds, unfinished⟩
      rw [feedByte_other p feeds]
      simp only [Option.toList_none, List.nil_append]
      rw [ih _ longer, drain_setLine, List.reverse_cons, List.append_assoc, List.singleton_append]

/-- Where a stream is cut does not show: chunks fed one after another complete the events of all their bytes at once
and leave the same parser, which has drained its buffer of complete lines. -/
theorem feedAll_eq_feed_flatten (p : Parser) (chunks : List (List UInt8)) :
    p.feedAll chunks = p.feed chunks.flatten ∧
      (10 ∉ p.line → p.feedAll chunks = p.drain (p.line.reverse ++ chunks.flatten) ∧
        10 ∉ (p.feedAll chunks).1.line) := by
  have together : p.feedAll chunks = p.feed chunks.flatten := by
    induction chunks generalizing p with
    | nil => rfl
    | cons chunk rest ih =>
      rw [List.flatten_cons, feed_append, feedAll]
      simp only [ih]
  refine ⟨together, fun unfinished => ⟨?_, ?_⟩⟩
  · rw [together, feed_eq_drain p _ unfinished]
  · rw [together]
    exact feed_line_open p _ unfinished

/-- An event that is cut inside a character, inside its line end and before its blank line. -/
theorem feedAll_of_cut_character :
    let chunks : List (List UInt8) := [[100, 97, 116, 97, 58, 195], [], [169, 13], [10, 13, 10]]
    10 ∉ ({} : Parser).line ∧ ({} : Parser).feedAll chunks = ({} : Parser).drain chunks.flatten ∧
      (({} : Parser).feedAll chunks).2 = [⟨none, "é", none⟩] :=
  ⟨List.not_mem_nil, ((feedAll_eq_feed_flatten _ _).2 List.not_mem_nil).1, by decide +kernel⟩

end AttributeStore.EventStream.Parser
