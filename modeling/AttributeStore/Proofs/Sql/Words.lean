import AttributeStore.Proofs.Column.Bare
import AttributeStore.Proofs.Sql.Reading

/-! Bare names as operands. Reserved words and the words that the grammar gives a meaning are listed apart from each
other: a name that is not reserved is read as a column, or as one of three values that a session has, or it is one of
two words that are never names and cannot stand alone. -/
namespace AttributeStore

namespace Column

theorem isNameChar_ascii {c : Char} (named : isNameChar c) : c.toNat < 128 := by
  simp only [isNameChar, Text.isLetter, Text.isDigit, Char.le_def, UInt32.le_iff_toNat_le, Bool.or_eq_true,
    Bool.and_eq_true, decide_eq_true_eq] at named
  rcases named with ((⟨-, high⟩ | ⟨-, high⟩) | ⟨-, high⟩) | rfl
  · exact Nat.lt_of_le_of_lt high (by decide)
  · exact Nat.lt_of_le_of_lt high (by decide)
  · exact Nat.lt_of_le_of_lt high (by decide)
  · decide

theorem isAlphabetic_nameChar {c : Char} (named : isNameChar c) (undigited : ¬Text.isDigit c) :
    Text.isAlphabetic c || c = '_' := by
  rw [Text.isAlphabetic, if_pos (isNameChar_ascii named), ← Text.isLetter]
  simpa [isNameChar, undigited] using named

theorem continuesName_nameChar {c : Char} (named : isNameChar c) : Sql.Lexer.continuesName c := by
  by_cases digit : Text.isDigit c
  · simp [Sql.Lexer.continuesName, digit]
  · have begins := isAlphabetic_nameChar named digit
    simp only [Bool.or_eq_true] at begins
    rcases begins with letter | underscore <;> simp_all [Sql.Lexer.continuesName]

/-- Capitals and small letters are forms of each other. -/
theorem lowerAscii_upper {s : List Char} (spelled : ∀ c ∈ s, isNameChar c) :
    Text.lowerAscii (Text.upper s) = Text.lowerAscii s := by
  have ascii : ∀ n : Fin 128, Text.lowerAscii (Text.upperChar (Char.ofNat n)) = Text.lowerAscii [Char.ofNat n] := by
    decide +kernel
  induction s with
  | nil => rfl
  | cons c rest ih =>
    have own : Text.lowerAscii (Text.upperChar c) = Text.lowerAscii [c] := by
      simpa using ascii ⟨c.toNat, isNameChar_ascii (spelled c (by simp))⟩
    have others := ih fun d member => spelled d (List.mem_cons_of_mem c member)
    rw [Text.upper, List.flatMap_cons, Text.lowerAscii_append, own, ← Text.upper, others, ← Text.lowerAscii_append]
    rfl

namespace IsBare

variable {name : String}

theorem isWord (bare : IsBare name) : Sql.IsWord name := by
  obtain ⟨c, rest, split⟩ := List.exists_cons_of_ne_nil (mt String.toList_eq_nil_iff.mp bare.nonempty)
  have spelled := bare.spelled
  have undigited := bare.undigited
  rw [split] at spelled undigited
  refine ⟨?_, ?_⟩
  · rw [split]
    exact isAlphabetic_nameChar (spelled c (by simp)) (undigited c (by simp))
  · rw [split]
    exact List.all_eq_true.mpr fun d member => continuesName_nameChar (spelled d (List.mem_cons_of_mem c member))

/-- Whether a name is reserved can be told from its keyword. -/
theorem isReserved_keyword (bare : IsBare name) : isReserved (Sql.Token.word name).keyword = isReserved name := by
  have spelled : (Sql.Token.word name).keyword.toList = Text.upper name.toList := String.toList_ofList
  rw [isReserved, isReserved, spelled, lowerAscii_upper bare.spelled]

end IsBare

end Column

namespace Sql.Grammar

open Reader

/-- Values that a session has, which are read by their names. -/
def sessionWords : List String := ["CURRENT_CATALOG", "LOCALTIME", "LOCALTIMESTAMP"]

/-- Words that are never names and that the list of reserved words lacks. -/
def unlistedWords : List String := ["STRUCT", "TRIM"]

theorem meaningful_reserved : ∀ w ∈ meaningful, w ∉ sessionWords → w ∉ unlistedWords → Column.isReserved w := by
  decide +kernel

theorem primary_session {p : String} {rest : List Lexeme} (fuel depth : Nat) (pos : Option Position)
    (current : (Token.word p).keyword ∈ sessionWords) (ends : Stops rest) :
    primary (fuel + 4) depth (⟨.word p, pos⟩ :: rest) = .ok (.form p [], rest) := by
  have typeless : ∀ w ∈ sessionWords, w ∉ ["ARRAY", "INTERVAL", "STRUCT"] := by decide
  refine primary_word fuel depth pos (typeless _ current) ends ?_
  have meant : special (fuel + 2) depth (⟨.word p, pos⟩ :: rest) = .ok (some (.form p []), rest) := by
    rw [special.eq_def]
    simp only [run_bind, run_next, List.headD_cons, List.drop_succ_cons, List.drop_zero]
    generalize (Token.word p).keyword = w at current
    simp only [sessionWords, List.mem_cons, List.not_mem_nil, or_false] at current
    rcases current with rfl | rfl | rfl
    · rfl
    all_goals
      simp (disch := decide) only [run_bind, ends.sawSymbol, Bool.false_eq_true, if_false]
      rfl
  rw [wordExpr.eq_def]
  dsimp only
  rw [meant]

/-- A bare name is an operand, unless it is one of the two words. -/
theorem exists_isOperand {p : String} (bare : Column.IsBare p) (other : (Token.word p).keyword ∉ unlistedWords) :
    ∃ e, IsOperand p e := by
  by_cases current : (Token.word p).keyword ∈ sessionWords
  · have unmarked : ∀ w ∈ sessionWords, w ∉ marks := by decide
    exact ⟨.form p [], bare.isWord, unmarked _ current,
      fun fuel depth pos ends => primary_session fuel depth pos current ends⟩
  · refine ⟨.column [p], IsColumn.isOperand ⟨bare.isWord, fun meant => bare.free ?_⟩⟩
    rw [← bare.isReserved_keyword]
    exact meaningful_reserved _ meant current other

end Sql.Grammar

end AttributeStore
