import AttributeStore.Proofs.Disk.Tree

/-! The last name of a path. Wherever a path leads, it leads to something of that name, so paths with different last
names never lead to one place. -/
namespace AttributeStore

namespace Path

/-- What stands behind the last slash of a path, or all of it. -/
def fileName (path : String) : String := String.ofList ((Text.afterLast '/' path.toList).getD path.toList)

theorem fileName_of_uncut {s : String} (uncut : '/' ∉ s.toList) : fileName s = s := by
  simp [fileName, Text.afterLast_of_not_mem uncut]

/-- A text with a slash in it is cut at the last one. -/
theorem exists_last_slash {chars : List Char} (cut : '/' ∈ chars) :
    ∃ front last, chars = front ++ '/' :: last ∧ '/' ∉ last := by
  obtain ⟨last, front, split, uncut⟩ := List.eq_append_cons_of_mem (List.mem_reverse.mpr cut)
  refine ⟨front.reverse, last.reverse, ?_, by simpa using uncut⟩
  rw [← List.reverse_reverse chars, split]
  simp

/-- The front of a path does not show in its last name. -/
theorem fileName_slash (a b : String) : fileName (a ++ "/" ++ b) = fileName b := by
  have chars : (a ++ "/" ++ b).toList = a.toList ++ '/' :: b.toList := by simp [String.toList_append]
  by_cases cut : '/' ∈ b.toList
  · obtain ⟨front, last, split, uncut⟩ := exists_last_slash cut
    have whole : a.toList ++ '/' :: (front ++ '/' :: last) = (a.toList ++ '/' :: front) ++ '/' :: last := by simp
    rw [fileName, fileName, chars, split, whole, Text.afterLast_append uncut, Text.afterLast_append uncut]
    rfl
  · simp [fileName, chars, Text.afterLast_append cut, Text.afterLast_of_not_mem cut]

/-- What is put behind a path makes its last name longer. -/
theorem fileName_append (a : String) {s : String} (uncut : '/' ∉ s.toList) : fileName (a ++ s) = fileName a ++ s := by
  by_cases cut : '/' ∈ a.toList
  · obtain ⟨front, last, split, uncut'⟩ := exists_last_slash cut
    have longer : '/' ∉ last ++ s.toList := by simp [uncut, uncut']
    apply String.toList_injective
    simp [fileName, String.toList_append, split, Text.afterLast_append uncut', Text.afterLast_append longer]
  · have longer : '/' ∉ (a ++ s).toList := by simp [String.toList_append, cut, uncut]
    rw [fileName_of_uncut cut, fileName_of_uncut longer]

theorem fileName_join (a : String) {b : String} (inner : IsInner b) : fileName (join a b) = fileName b := by
  rw [join_eq a inner]
  split
  · rfl
  · split
    case isTrue closed =>
      obtain ⟨chars, same⟩ := List.getLast?_eq_some_iff.mp closed
      have cut : a = String.ofList chars ++ "/" := String.toList_injective (by simp [String.toList_append, same])
      rw [cut, fileName_slash]
    case isFalse => exact fileName_slash a b

/-- The last name is the last piece that is looked up. -/
theorem exists_pieces (path : String) : ∃ front, Disk.pieces path = front ++ [fileName path] := by
  by_cases cut : '/' ∈ path.toList
  · obtain ⟨front, last, split, uncut⟩ := exists_last_slash cut
    have whole : path = String.ofList front ++ "/" ++ String.ofList last :=
      String.toList_injective (by simp [String.toList_append, split])
    have uncut' : '/' ∉ (String.ofList last).toList := by simpa using uncut
    refine ⟨Disk.pieces (String.ofList front), ?_⟩
    rw [whole, fileName_slash, fileName_of_uncut uncut', pieces_slash, pieces_of_uncut uncut']
  · exact ⟨[], by rw [pieces_of_uncut cut, fileName_of_uncut cut, List.nil_append]⟩

end Path

namespace Disk

variable {d d' : Disk} {path : String} {p : Place}

/-- A path leads to something of its last name. -/
theorem getLast?_of_locate (plain : IsPlain (Path.fileName path)) (located : d.locate path = .ok p) :
    p.getLast? = some (.text (Path.fileName path)) := by
  obtain ⟨front, split⟩ := Path.exists_pieces path
  obtain ⟨-, -, walked⟩ := locate_eq_ok.mp located
  rw [split, List.foldlM_append, bind_eq_ok_iff] at walked
  obtain ⟨base, -, last⟩ := walked
  obtain ⟨next, led, same⟩ := walk_cons.mp last
  cases same
  rw [below_of_descend plain led]
  simp [below]

/-- Paths with different last names never lead to one place. -/
theorem fileName_eq_of_locate {other : String} (plain : IsPlain (Path.fileName path))
    (plain' : IsPlain (Path.fileName other)) (first : d.locate path = .ok p) (second : d'.locate other = .ok p) :
    Path.fileName path = Path.fileName other := by
  have ends := (getLast?_of_locate plain first).symm.trans (getLast?_of_locate plain' second)
  simpa using ends

end Disk

end AttributeStore
