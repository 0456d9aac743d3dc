import AttributeStore.Proofs.EventStream.Wire

/-! Blank lines in any bytes, well formed or not. A parser that has read one is as it was before the first byte, so what
stands in front of a blank line shows in no event behind it. -/
namespace AttributeStore.EventStream

/-- Bytes that end with a blank line: it starts them or follows a line feed, and holds nothing but returns. -/
def EndsBlank (bytes : List UInt8) : Prop :=
  ∃ front returns, bytes = front ++ (List.replicate returns 13 ++ [10]) ∧ ∀ b ∈ front.getLast?, b = 10

/-- A line of data, for better or worse: all other lines are names, ids, comments or not understood. -/
def HasData (line : List Char) : Prop := (Parser.splitField line).1 = "data".toList

instance (line : List Char) : Decidable (HasData line) := inferInstanceAs (Decidable (_ = _))

/-- Bytes as the lines that they hold, each with its line feed. -/
def unlines (lines : List (List UInt8)) : List UInt8 := lines.flatMap (· ++ [10])

namespace Parser

/-- Bytes without a line feed only make the unfinished line longer. -/
theorem feed_unfinished (p : Parser) {bytes : List UInt8} (unfinished : 10 ∉ bytes) :
    p.feed bytes = ({ p with line := bytes.reverse ++ p.line }, []) := by
  induction bytes generalizing p with
  | nil => rfl
  | cons b rest ih =>
    simp only [List.mem_cons, not_or] at unfinished
    rw [feed, feedByte_other p (Ne.symm unfinished.1)]
    simp [ih _ unfinished.2]

/-- A line feed reads the line that it ends. -/
theorem feed_line (p : Parser) {line : List UInt8} (unfinished : 10 ∉ line) :
    p.feed (line ++ [10]) =
      ((({ p with line := [] } : Parser).readLine (lineText (p.line.reverse ++ line))).1,
        (({ p with line := [] } : Parser).readLine (lineText (p.line.reverse ++ line))).2.toList) := by
  rw [feed_append, feed_unfinished p unfinished]
  simp [feed, feedByte_feed]

/-- No line is unfinished behind a line feed. -/
theorem feed_line_ended (p : Parser) {front : List UInt8} (ended : front.getLast? = some 10) :
    (p.feed front).1.line = [] := by
  obtain ⟨before, rfl⟩ := List.getLast?_eq_some_iff.mp ended
  rw [feed_append]
  simp [feed, feedByte_feed]

theorem lineText_returns (returns : Nat) : lineText (List.replicate returns 13) = [] := by
  have bytes : List.replicate returns (13 : UInt8) = Text.toUtf8 ([] ++ List.replicate returns '\r') := by
    rw [List.nil_append, Text.toUtf8, List.flatMap_replicate]
    simp [String.utf8EncodeChar]
  rw [bytes]
  exact lineText_ended (by simp) returns

theorem dispatch_fresh (p : Parser) (fresh : p.line = []) : p.dispatch.1 = {} := by
  unfold dispatch
  dsimp only
  split <;> simp [fresh]

/-- A blank line leaves nothing of the lines in front of it. -/
theorem feed_blank (p : Parser) (fresh : p.line = []) {bytes : List UInt8} (blank : EndsBlank bytes) :
    (p.feed bytes).1 = {} := by
  obtain ⟨front, returns, rfl, ended⟩ := blank
  have opened : (p.feed front).1.line = [] := by
    cases last : front.getLast? with
    | none =>
      rw [List.getLast?_eq_none_iff] at last
      simpa [last, feed] using fresh
    | some b => exact feed_line_ended p (by rw [last, ended b last])
  have unbroken : (10 : UInt8) ∉ List.replicate returns 13 := by simp
  rw [feed_append, feed_line _ unbroken, opened]
  simp only [List.reverse_nil, List.nil_append, lineText_returns]
  exact dispatch_fresh _ rfl

/-! Frames without data. -/

/-- A line that is no data adds none, and completes no event where there is none. -/
theorem readLine_dry (p : Parser) (dry : p.data = []) {line : List Char} (other : ¬HasData line) :
    (p.readLine line).1.data = [] ∧ (p.readLine line).2 = none := by
  unfold readLine
  split
  case h_1 => simp [dispatch, dry]
  case h_2 => exact ⟨dry, rfl⟩
  case h_3 =>
    refine ⟨?_, rfl⟩
    have field : String.ofList (splitField line).1 ≠ "data" := by
      intro same
      apply other
      rw [HasData, ← same, String.toList_ofList]
    dsimp only
    unfold setField
    split
    case h_1 => exact dry
    case h_2 same => exact absurd same field
    case h_3 => exact dry
    case h_4 => exact dry

/-- Lines without data complete no event. -/
theorem feed_dry (p : Parser) (fresh : p.line = []) (dry : p.data = []) {lines : List (List UInt8)}
    (others : ∀ line ∈ lines, 10 ∉ line ∧ ¬HasData (lineText line)) :
    (p.feed (unlines lines)).2 = [] := by
  induction lines generalizing p with
  | nil => rfl
  | cons line rest ih =>
    obtain ⟨⟨unfinished, other⟩, others⟩ := List.forall_mem_cons.mp others
    have read := readLine_dry { p with line := [] } dry other
    have opened := readLine_line { p with line := [] } (lineText line)
    have bytes : unlines (line :: rest) = line ++ [10] ++ unlines rest := rfl
    rw [bytes, feed_append, feed_line p unfinished, fresh]
    simp only [List.reverse_nil, List.nil_append, read.2, Option.toList_none]
    exact ih _ opened read.1 others

/-- A blank line cuts a stream, whatever stands in front of it and however it is malformed. A parser that has read the
bytes is fresh, so the events behind them are those that a fresh parser completes; and where a frame between two blank
lines has no data, its events are none, and neither its name nor its id gets into a later one. -/
theorem feed_blank_append (p : Parser) (unfinished : 10 ∉ p.line) {front : List UInt8}
    (blank : EndsBlank (p.line.reverse ++ front)) (rest : List UInt8) :
    (p.feed front).1 = {} ∧
    p.feed (front ++ rest) = ((({} : Parser).feed rest).1, (p.feed front).2 ++ (({} : Parser).feed rest).2) ∧
    ∀ lines, (∀ line ∈ lines, 10 ∉ line ∧ ¬HasData (lineText line)) → EndsBlank (unlines lines) →
      p.feed (front ++ unlines lines ++ rest) = p.feed (front ++ rest) := by
  have fresh : (p.feed front).1 = {} := by
    -- what the parser holds of its line counts among the bytes
    have whole : p.feed front = ({ p with line := [] } : Parser).feed (p.line.reverse ++ front) := by
      rw [feed_eq_drain p front unfinished, feed_eq_drain { p with line := [] } _ List.not_mem_nil,
        drain_setLine p [], List.reverse_nil, List.nil_append]
    rw [whole]
    exact feed_blank _ rfl blank
  have append (more : List UInt8) : p.feed (front ++ more) =
      ((({} : Parser).feed more).1, (p.feed front).2 ++ (({} : Parser).feed more).2) := by
    rw [feed_append, fresh]
  refine ⟨fresh, append rest, fun lines others closed => ?_⟩
  have silent := feed_dry {} rfl rfl others
  have reset := feed_blank {} rfl closed
  rw [List.append_assoc, append, append, feed_append, silent, reset, List.nil_append]

/-- A stream that breaks off inside a character, a name and an id without data, and an event of its own. -/
theorem feed_blank_append_of_broken_line :
    let front : List UInt8 := [100, 97, 116, 97, 58, 195, 10, 13, 10]
    let frame := [Text.toUtf8 "event: ping".toList, Text.toUtf8 "id: 7\r".toList, [13]]
    let rest := Text.toUtf8 "data: a\n\n".toList
    EndsBlank front ∧ EndsBlank (unlines frame) ∧
      (({} : Parser).feed (front ++ unlines frame ++ rest)).2 = [⟨none, "\uFFFD", none⟩, ⟨none, "a", none⟩] := by
  intro front frame rest
  have blank : EndsBlank front := ⟨[100, 97, 116, 97, 58, 195, 10], 1, rfl, by simp⟩
  have closed : EndsBlank (unlines frame) :=
    ⟨unlines [Text.toUtf8 "event: ping".toList, Text.toUtf8 "id: 7\r".toList], 1, rfl, by decide +kernel⟩
  have cut := (feed_blank_append {} List.not_mem_nil blank rest).2
  have others : ∀ line ∈ frame, 10 ∉ line ∧ ¬HasData (lineText line) := by decide
  refine ⟨blank, closed, ?_⟩
  rw [cut.2 frame others closed, cut.1]
  decide +kernel

end Parser

end AttributeStore.EventStream
