import AttributeStore.Disk.Files
import AttributeStore.Proofs.Text.Splitting
import Mathlib.Data.List.Basic

/-! Paths made of names. Joined to the path of a directory, they are cut into the directory's own pieces and the
names. -/
namespace AttributeStore

/-- A name that leads one level down: no mark for this directory or the one above, and nothing that cuts a path. -/
structure Disk.IsName (s : String) : Prop where
  nonempty : s ≠ ""
  plain : s ≠ "." ∧ s ≠ ".."
  uncut : '/' ∉ s.toList
  noNul : '\x00' ∉ s.toList
  short : s.utf8ByteSize ≤ maxName

instance (s : String) : Decidable (Disk.IsName s) :=
  decidable_of_iff (s ≠ "" ∧ (s ≠ "." ∧ s ≠ "..") ∧ '/' ∉ s.toList ∧ '\x00' ∉ s.toList ∧ s.utf8ByteSize ≤ Disk.maxName)
    ⟨fun ⟨nonempty, plain, uncut, noNul, short⟩ => ⟨nonempty, plain, uncut, noNul, short⟩,
      fun ⟨nonempty, plain, uncut, noNul, short⟩ => ⟨nonempty, plain, uncut, noNul, short⟩⟩

/-- A name that is no mark for this directory or the one above. -/
def Disk.IsPlain (s : String) : Prop := s ≠ "" ∧ s ≠ "." ∧ s ≠ ".."

instance (s : String) : Decidable (Disk.IsPlain s) := inferInstanceAs (Decidable (_ ∧ _))

theorem Disk.IsName.isPlain {s : String} (named : IsName s) : IsPlain s := ⟨named.nonempty, named.plain⟩

/-- A plain name that is one piece of a path. -/
structure Disk.IsComponent (s : String) : Prop where
  plain : IsPlain s
  uncut : '/' ∉ s.toList

namespace Path

open Disk (IsName IsPlain pieces)

theorem startsWith_slash {s : String} : s.startsWith "/" = true ↔ s.toList.head? = some '/' := by
  rw [String.startsWith_string_iff]
  cases s.toList <;> simp [List.cons_prefix_cons, eq_comm]

theorem endsWith_slash {s : String} : s.endsWith "/" = true ↔ s.toList.getLast? = some '/' := by
  rw [← String.endsWith_toSlice, String.Slice.endsWith_string_iff, String.copy_toSlice, List.getLast?_eq_some_iff]
  exact exists_congr fun _ => eq_comm

theorem toList_ne_nil {s : String} (nonempty : s ≠ "") : s.toList ≠ [] := mt String.toList_eq_nil_iff.mp nonempty

/-- A path with a beginning and an end, neither of them a slash. -/
structure IsInner (s : String) : Prop where
  nonempty : s ≠ ""
  start : s.toList.head? ≠ some '/'
  finish : s.toList.getLast? ≠ some '/'

theorem isInner_of_uncut {s : String} (nonempty : s ≠ "") (uncut : '/' ∉ s.toList) : IsInner s where
  nonempty := nonempty
  start slash := uncut (List.mem_of_head? slash)
  finish slash := uncut (List.mem_of_getLast? slash)

theorem isInner_of_isName {s : String} (named : IsName s) : IsInner s := isInner_of_uncut named.nonempty named.uncut

theorem append_ne_empty {a b : String} (nonempty : b ≠ "") : a ++ b ≠ "" := by
  intro none
  have parts := congrArg String.toList none
  rw [String.toList_append] at parts
  exact toList_ne_nil nonempty (List.append_eq_nil_iff.mp parts).2

theorem getLast?_append {a b : String} (nonempty : b ≠ "") : (a ++ b).toList.getLast? = b.toList.getLast? := by
  rw [String.toList_append, List.getLast?_append_of_ne_nil _ (toList_ne_nil nonempty)]

/-- Between a beginning and an end anything may stand. -/
theorem IsInner.around {a c : String} (first : IsInner a) (last : IsInner c) (b : String) : IsInner (a ++ b ++ c) where
  nonempty := append_ne_empty last.nonempty
  start := by
    rw [String.toList_append, String.toList_append, List.append_assoc,
      List.head?_append_of_ne_nil _ (toList_ne_nil first.nonempty)]
    exact first.start
  finish := by
    rw [getLast?_append last.nonempty]
    exact last.finish

theorem IsInner.append {a b : String} (first : IsInner a) (second : IsInner b) : IsInner (a ++ "/" ++ b) :=
  first.around second "/"

theorem join_eq (a : String) {b : String} (inner : IsInner b) : join a b =
    if a = "" then b else if a.toList.getLast? = some '/' then a ++ b else a ++ "/" ++ b := by
  have start : b.startsWith "/" = false := Bool.eq_false_iff.mpr (mt startsWith_slash.mp inner.start)
  rw [join, start, Bool.false_or]
  simp only [String.isEmpty_iff, endsWith_slash]

theorem getLast?_join (a : String) {b : String} (inner : IsInner b) :
    (join a b).toList.getLast? = b.toList.getLast? := by
  rw [join_eq a inner]
  split
  · rfl
  · split <;> exact getLast?_append inner.nonempty

theorem join_ne_empty (a : String) {b : String} (inner : IsInner b) : join a b ≠ "" := by
  rw [join_eq a inner]
  split
  · exact inner.nonempty
  · split <;> exact append_ne_empty inner.nonempty

/-- The path of something in a directory that is itself given by a joined path. -/
theorem join_join_eq (a : String) {b c : String} (middle : IsInner b) (last : IsInner c) :
    join (join a b) c = join a b ++ "/" ++ c := by
  rw [join_eq _ last, if_neg (join_ne_empty a middle), getLast?_join a middle, if_neg middle.finish]

/-- Joining twice is joining once to what is joined. -/
theorem join_join (a : String) {b c : String} (middle : IsInner b) (last : IsInner c) :
    join (join a b) c = join a (b ++ "/" ++ c) := by
  rw [join_join_eq a middle last, join_eq a middle, join_eq a (middle.append last)]
  split
  · rfl
  · split <;> simp only [String.append_assoc]

/-- The directory of a joined path. -/
theorem parent_join (a : String) {b c : String} (middle : IsInner b) (last : IsName c) :
    parent (join a (b ++ "/" ++ c)) = join a b := by
  have chars : (join a b ++ "/" ++ c).toList = (join a b).toList ++ '/' :: c.toList := by
    simp [String.toList_append]
  have count : ((join a b).toList ++ '/' :: c.toList).length - c.toList.length - 1 = (join a b).toList.length := by
    rw [List.length_append, List.length_cons]
    omega
  rw [← join_join a middle (isInner_of_isName last), join_join_eq a middle (isInner_of_isName last), parent, chars,
    Text.afterLast_append last.uncut]
  dsimp only
  rw [count, List.take_left, String.ofList_toList]

/-- Names one below the other. -/
def ofNames (names : List String) : String := "/".intercalate names

theorem ofNames_cons {name : String} {names : List String} (more : names ≠ []) :
    ofNames (name :: names) = name ++ "/" ++ ofNames names := String.intercalate_cons_of_ne_nil more

theorem ofNames_append {names others : List String} (some : names ≠ []) (more : others ≠ []) :
    ofNames (names ++ others) = ofNames names ++ "/" ++ ofNames others :=
  String.intercalate_append_of_ne_nil some more

theorem ofNames_isInner {names : List String} (named : ∀ name ∈ names, IsName name) (some : names ≠ []) :
    IsInner (ofNames names) := by
  induction names with
  | nil => exact absurd rfl some
  | cons name names ih =>
    have first := isInner_of_isName (named name (by simp))
    cases names with
    | nil => exact first
    | cons other rest =>
      rw [ofNames_cons (by simp)]
      exact first.append (ih (fun name member => named name (List.mem_cons_of_mem _ member)) (by simp))

theorem pieces_of_uncut {s : String} (uncut : '/' ∉ s.toList) : pieces s = [s] := by
  simp [pieces, Text.splitAt_of_not_mem uncut]

theorem pieces_ne_nil (path : String) : pieces path ≠ [] := by
  simp [pieces, Text.splitAt_ne_nil]

theorem pieces_slash (a b : String) : pieces (a ++ "/" ++ b) = pieces a ++ pieces b := by
  have chars : (a ++ "/" ++ b).toList = a.toList ++ '/' :: b.toList := by simp [String.toList_append]
  rw [pieces, chars, Text.splitAt_append_cons, List.map_append]
  rfl

theorem pieces_ofNames {names : List String} (named : ∀ name ∈ names, IsName name) (some : names ≠ []) :
    pieces (ofNames names) = names := by
  induction names with
  | nil => exact absurd rfl some
  | cons name names ih =>
    have first : pieces name = [name] := pieces_of_uncut (named name (by simp)).uncut
    cases names with
    | nil => exact first
    | cons other rest =>
      have later := ih (fun name member => named name (List.mem_cons_of_mem _ member)) (by simp)
      rw [ofNames_cons (by simp), pieces_slash, first, later]
      rfl

/-- The pieces that a path begins with when something is joined to it: its own, but for the nothing after a slash at the
end. -/
def front (a : String) : List String :=
  if a = "" then [] else if a.toList.getLast? = some '/' then (pieces a).dropLast else pieces a

theorem pieces_of_slash {a : String} {chars : List Char} (closed : a.toList = chars ++ ['/']) :
    pieces a = (Text.splitAt '/' chars).map String.ofList ++ [""] := by
  rw [pieces, closed, Text.splitAt_append_cons, List.map_append]
  rfl

theorem pieces_eq_front {a : String} (nonempty : a ≠ "") : pieces a = front a ∨ pieces a = front a ++ [""] := by
  rw [front, if_neg nonempty]
  split
  case isTrue closed =>
    obtain ⟨chars, same⟩ := List.getLast?_eq_some_iff.mp closed
    exact .inr (by rw [pieces_of_slash same, List.dropLast_concat])
  case isFalse => exact .inl rfl

/-- A joined path begins with the pieces of the directory. -/
theorem pieces_join_inner (a : String) {b : String} (inner : IsInner b) : pieces (join a b) = front a ++ pieces b := by
  rw [join_eq a inner, front]
  split
  case isTrue => rfl
  case isFalse =>
    split
    case isTrue closed =>
      obtain ⟨chars, same⟩ := List.getLast?_eq_some_iff.mp closed
      have cut : a = String.ofList chars ++ "/" := String.toList_injective (by simp [String.toList_append, same])
      have ending : pieces "" = [""] := pieces_of_uncut (by simp)
      have whole : pieces a = pieces (String.ofList chars) ++ [""] := by
        rw [← ending, ← pieces_slash, String.append_empty, ← cut]
      rw [whole, List.dropLast_concat, cut, pieces_slash]
    case isFalse => exact pieces_slash a b

theorem pieces_join (a : String) {names : List String} (named : ∀ name ∈ names, IsName name) (some : names ≠ []) :
    pieces (join a (ofNames names)) = front a ++ names := by
  rw [pieces_join_inner a (ofNames_isInner named some), pieces_ofNames named some]

theorem startsWith_join (a : String) {b : String} (inner : IsInner b) :
    (join a b).startsWith "/" = a.startsWith "/" := by
  rw [Bool.eq_iff_iff, startsWith_slash, startsWith_slash, join_eq a inner]
  split
  case isTrue none =>
    subst none
    exact iff_of_false inner.start nofun
  case isFalse nonempty =>
    have head (more : String) : (a ++ more).toList.head? = a.toList.head? := by
      rw [String.toList_append, List.head?_append_of_ne_nil _ (toList_ne_nil nonempty)]
    split
    · rw [head]
    · rw [String.append_assoc, head]

theorem mem_join (a : String) {b : String} (inner : IsInner b) {c : Char} (member : c ∈ a.toList) :
    c ∈ (join a b).toList := by
  rw [join_eq a inner]
  split
  case isTrue none =>
    subst none
    cases member
  case isFalse => split <;> simp [String.toList_append, member]

theorem noNul_ofNames {names : List String} (named : ∀ name ∈ names, IsName name) :
    '\x00' ∉ (ofNames names).toList := by
  induction names with
  | nil => simp [ofNames]
  | cons name names ih =>
    cases names with
    | nil => exact (named name (by simp)).noNul
    | cons other rest =>
      rw [ofNames_cons (by simp), String.toList_append, String.toList_append]
      have later := ih fun name member => named name (List.mem_cons_of_mem _ member)
      simp [(named name (by simp)).noNul, later]

theorem noNul_join {a : String} (clear : '\x00' ∉ a.toList) {names : List String}
    (named : ∀ name ∈ names, IsName name) (some : names ≠ []) : '\x00' ∉ (join a (ofNames names)).toList := by
  have later := noNul_ofNames named
  rw [join_eq a (ofNames_isInner named some)]
  split
  · exact later
  · split <;> simp [String.toList_append, clear, later]

end Path

end AttributeStore
