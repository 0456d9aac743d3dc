import AttributeStore.Plan.Basic
import AttributeStore.Proofs.Column.Case

/-! Names that can stand bare in SQL. A reserved word is never left as a name: paths that end in one are marked, a
number behind a name makes none, and no aggregation begins one. -/
namespace AttributeStore

/-- What is said of the characters of a name is decided on these, not on all the characters there are. -/
instance (priority := high) decidableCharacters (p : Char → Prop) [DecidablePred p] (s : List Char) :
    Decidable (∀ c ∈ s, p c) :=
  List.decidableBAll p s

instance (priority := high) decidableCharacter (p : Char → Prop) [DecidablePred p] (c : Option Char) :
    Decidable (∀ d ∈ c, p d) :=
  Option.decidableForallMem c

namespace Fold

theorem name_isNameChar (fold : Fold) : ∀ c ∈ fold.name.toList, Column.isNameChar c := by
  cases fold <;> decide

theorem name_begins (fold : Fold) : ∃ c rest, fold.name.toList = c :: rest ∧ Text.isLetter c := by
  cases fold <;> exact ⟨_, _, rfl, by decide⟩

end Fold

namespace Column

/-- A name that can stand bare in SQL. -/
structure IsBare (name : String) : Prop where
  nonempty : name ≠ ""
  spelled : ∀ c ∈ name.toList, isNameChar c
  undigited : ∀ c ∈ name.toList.head?, ¬Text.isDigit c
  free : ¬isReserved name

theorem isReserved_iff {name : String} : isReserved name ↔ ∃ word ∈ reservedWords, word.toList = folded name := by
  rw [isReserved, List.contains_iff_mem]
  constructor
  · exact fun reserved => ⟨_, reserved, by rw [String.toList_ofList, folded]⟩
  · rintro ⟨word, listed, same⟩
    rwa [← folded, ← same, String.ofList_toList]

theorem reservedWords_undigited : ∀ word ∈ reservedWords, ∀ c ∈ word.toList, ¬c.isDigit := by
  decide +kernel

theorem reservedWords_unmarked : ∀ word ∈ reservedWords, ¬"_col".toList <:+ word.toList := by
  decide +kernel

theorem reservedWords_unlike_folds : ∀ word ∈ reservedWords, ∀ fold ∈ Fold.all, ¬fold.name.toList <+: word.toList := by
  decide +kernel

/-- A number behind a name makes no reserved word of it. -/
theorem numbered_free (name : String) (k : Nat) : ¬isReserved s!"{name}_{k}" := by
  rw [isReserved_iff]
  rintro ⟨word, listed, same⟩
  rw [folded_numbered] at same
  have last := List.getLast_mem (Nat.toDigits_ne_nil (b := 10) (n := k))
  refine reservedWords_undigited word listed _ (same ▸ ?_) (Nat.isDigit_of_mem_toDigits (by decide) (by decide) last)
  exact List.mem_append_right _ (List.mem_cons_of_mem _ last)

/-- What a path is cleaned to is no reserved word: one is marked. -/
theorem ofPath_free (path : String) : ¬isReserved (ofPath path) := by
  unfold ofPath
  dsimp only
  split
  case isFalse free => exact free
  case isTrue =>
    rw [isReserved_iff]
    rintro ⟨word, listed, same⟩
    rw [folded, String.toList_append, Text.lowerAscii_append] at same
    exact reservedWords_unmarked word listed ⟨_, same.symm⟩

/-- A name in the characters of bare names that begins with a fold is bare. -/
theorem isBare_of_fold {fold : Fold} {name : String} {more : List Char}
    (begins : name.toList = fold.name.toList ++ more) (spelled : ∀ c ∈ name.toList, isNameChar c) : IsBare name := by
  obtain ⟨c, rest, split, letter⟩ := fold.name_begins
  refine ⟨?_, spelled, ?_, ?_⟩
  · rintro rfl
    simp [split] at begins
  · rw [begins, split]
    simpa using isDigit_letter letter
  · rw [isReserved_iff]
    rintro ⟨word, listed, same⟩
    have small : Text.lowerAscii fold.name.toList = fold.name.toList := by cases fold <;> decide
    rw [folded, begins, Text.lowerAscii_append, small] at same
    exact reservedWords_unlike_folds word listed fold (by cases fold <;> decide) ⟨_, same.symm⟩

theorem fullName_fold (a : Attribute) (fold : Fold) (property : Option String) :
    ∃ more, (fullName a fold.name property).toList = fold.name.toList ++ more := by
  obtain ⟨c, rest, split, letter⟩ := fold.name_begins
  exact fullName_prefix a property split letter fun d member =>
    fold.name_isNameChar d (split ▸ List.mem_cons_of_mem c member)

end Column

end AttributeStore
