import AttributeStore.Proofs.Plan.BareColumns
import AttributeStore.Proofs.Plan.Stability

/-! Safe names. Cleaning is a projection: what it gives is safe in every warehouse, and what is safe it leaves alone.
The numbers that tell columns apart keep them safe. -/
namespace AttributeStore.Column

/-- A name in the characters of bare names that is no reserved word, whatever the case of its letters. -/
structure IsSafe (name : String) : Prop where
  spelled : ∀ c ∈ name.toList, isNameChar c
  free : ∀ word ∈ reservedWords, folded name ≠ folded word

theorem folded_reservedWords : ∀ word ∈ reservedWords, folded word = word.toList := by
  decide +kernel

theorem isSafe_iff {name : String} : IsSafe name ↔ (∀ c ∈ name.toList, isNameChar c) ∧ ¬isReserved name := by
  constructor
  · intro safe
    refine ⟨safe.spelled, fun reserved => ?_⟩
    obtain ⟨word, listed, same⟩ := isReserved_iff.mp reserved
    apply safe.free word listed
    rw [folded_reservedWords word listed, same]
  · intro ⟨spelled, free⟩
    refine ⟨spelled, fun word listed same => free ?_⟩
    rw [folded_reservedWords word listed] at same
    exact isReserved_iff.mpr ⟨word, listed, same.symm⟩

theorem ofPath_isSafe (path : String) : IsSafe (ofPath path) :=
  isSafe_iff.mpr ⟨ofPath_isNameChar path, ofPath_free path⟩

/-- A safe name is its own end: it has neither a colon nor a point, so not even its case changes. -/
theorem pathEnd_of_spelled {name : List Char} (spelled : ∀ c ∈ name, isNameChar c) : pathEnd name = name := by
  have absent (mark : Char) (odd : ¬isNameChar mark) : mark ∉ name := fun member => odd (spelled mark member)
  have colon := Text.splitFirst_eq_none.mpr (absent ':' (by decide))
  have point := Text.afterLast_eq_none.mpr (absent '.' (by decide))
  simp [pathEnd, colon, point]

theorem safe_of_spelled {name : List Char} (spelled : ∀ c ∈ name, isNameChar c) : safe name = name := by
  have kept : ∀ c ∈ name, (if isNameChar c then c else '_') = c := fun c member => if_pos (spelled c member)
  simp [safe, List.map_congr_left kept]

theorem ofPath_of_isSafe {name : String} (safe : IsSafe name) : ofPath name = name := by
  obtain ⟨spelled, free⟩ := isSafe_iff.mp safe
  simp [ofPath, pathEnd_of_spelled spelled, safe_of_spelled spelled, free]

theorem ofPath_eq_self_iff {name : String} : ofPath name = name ↔ IsSafe name := by
  constructor
  · intro same
    rw [← same]
    exact ofPath_isSafe name
  · exact ofPath_of_isSafe

theorem Suits.isSafe {path name : String} (suits : Suits path name) : IsSafe name :=
  isSafe_iff.mpr ⟨suits.spelled, suits.free⟩

/-- Cleaning is a projection onto the safe names: every path is cleaned to one, and exactly these are left as they are,
so that cleaning twice is cleaning once. And whatever has been called on a ledger before, the column that it returns
for a path is safe, with or without a number behind it. -/
theorem ofPath_projection :
    (∀ path, IsSafe (ofPath path) ∧ ofPath (ofPath path) = ofPath path) ∧
    (∀ name, ofPath name = name ↔ IsSafe name) ∧
    ∀ (calls : List Ledger.Call) (path : String), IsSafe ((Ledger.after calls).register path).2 := by
  refine ⟨fun path => ?_, fun name => ofPath_eq_self_iff, fun calls path => ?_⟩
  · exact ⟨ofPath_isSafe path, ofPath_of_isSafe (ofPath_isSafe path)⟩
  · have tidy := (Ledger.after_tidy calls).register path
    rw [Ledger.register_eq]
    exact (tidy.columnIn_suits path).isSafe

/-- A letter that is lowered to two characters, a reserved word behind a colon, and one that is split in two. -/
example : ofPath "page.İ" = "i_" ∧ ofPath "ctx:Order" = "order_col" ∧ ofPath "Group By" = "Group_By" := by
  decide +kernel

end AttributeStore.Column
