import AttributeStore.Column.Name

/-! The order of conditions in names. A filter is named by its conditions sorted by what they print, so two filters with
the same conditions in another order have one name, and so have the columns of their attributes. -/
namespace AttributeStore

/-- The same conditions in each group, in any order. -/
structure Criteria.Reordered (c c' : Criteria) : Prop where
  all : c.all.Perm c'.all
  any : c.any.Perm c'.any

namespace Criteria.Reordered

variable {c c' : Criteria} (same : c.Reordered c')

include same

theorem symm : c'.Reordered c := ⟨same.all.symm, same.any.symm⟩

theorem perm : (c.all ++ c.any).Perm (c'.all ++ c'.any) := same.all.append same.any

theorem all_nil : c.all = [] ↔ c'.all = [] := by rw [← List.isEmpty_iff, ← List.isEmpty_iff, same.all.isEmpty_eq]

theorem any_nil : c.any = [] ↔ c'.any = [] := by rw [← List.isEmpty_iff, ← List.isEmpty_iff, same.any.isEmpty_eq]

theorem isEmpty : c.isEmpty = c'.isEmpty := by
  rw [Criteria.isEmpty, Criteria.isEmpty, same.all.isEmpty_eq, same.any.isEmpty_eq]

theorem usesAny : c.usesAny = c'.usesAny := by
  rw [Criteria.usesAny, Criteria.usesAny, same.all.isEmpty_eq, same.any.isEmpty_eq]

theorem active : c.active.Perm c'.active := by
  rw [Criteria.active, Criteria.active, same.usesAny]
  split
  · exact same.any
  · exact same.all

end Criteria.Reordered

namespace Column

theorem sortNames_eq_of_perm {names others : List String} (same : names.Perm others) :
    sortNames names = sortNames others := by
  have ascending (names : List String) : (sortNames names).Pairwise (· ≤ ·) := by
    have sorted : (sortNames names).Pairwise fun a b => decide (a ≤ b) :=
      List.pairwise_mergeSort (fun _ _ _ => by simpa using String.le_trans)
        (fun a b => by simpa using String.le_total a b) names
    exact sorted.imp of_decide_eq_true
  have perm : (sortNames names).Perm (sortNames others) :=
    (List.mergeSort_perm names _).trans (same.trans (List.mergeSort_perm others _).symm)
  exact perm.eq_of_pairwise (fun _ _ _ _ => String.le_antisymm) (ascending names) (ascending others)

variable {c c' : Criteria} (same : c.Reordered c')

include same

theorem ofCriteria_reordered : ofCriteria c = ofCriteria c' := by
  rw [ofCriteria, ofCriteria, same.usesAny, sortNames_eq_of_perm (same.active.map ofCriterion)]

theorem fullName_reordered (a : Attribute) (aggregation : String) (property : Option String) :
    fullName { a with criteria := some c } aggregation property =
      fullName { a with criteria := some c' } aggregation property := by
  have part : ((some c).filter fun c : Criteria => !c.isEmpty).toList.map ofCriteria =
      ((some c').filter fun c : Criteria => !c.isEmpty).toList.map ofCriteria := by
    cases empty : c'.isEmpty <;> simp [Option.filter, same.isEmpty, empty, ofCriteria_reordered same]
  simp only [fullName, Attribute.activeCriteria, part]

theorem daily_reordered (a : Attribute) (aggregation : String) (property : Option String) :
    daily { a with criteria := some c } aggregation property =
      daily { a with criteria := some c' } aggregation property := by
  rw [daily, daily, fullName_reordered same]

end Column

end AttributeStore
