import AttributeStore.Column.Binding
import Mathlib.Data.List.Nodup
import Mathlib.Data.List.Perm.Subperm

/-! Resolution of colliding names. Every binding ends with a name of its own, its path stays where it was, and what
is appended later changes nothing before it: a column is fixed while the bindings behind it are still unknown. -/
namespace AttributeStore.Column

theorem toDigits_injective : Function.Injective (Nat.toDigits 10) := by
  intro m n same
  have value := congrArg (Nat.ofDigitChars 10 · 0) same
  simpa only [Nat.ofDigitChars_ten_toDigits] using value

theorem toList_numbered (name : String) (k : Nat) :
    (s!"{name}_{k}" : String).toList = name.toList ++ '_' :: Nat.toDigits 10 k := by
  simp [toString, String.toList_append]

theorem numbered_injective (name : String) : Function.Injective fun k : Nat => s!"{name}_{k}" := by
  intro m n same
  have texts := congrArg String.toList same
  rw [toList_numbered, toList_numbered] at texts
  exact toDigits_injective (List.tail_eq_of_cons_eq (List.append_cancel_left texts))

/-- One candidate more than there are taken names: some candidate is free. -/
theorem exists_free [DecidableEq α] {candidate : Nat → α} (injective : Function.Injective candidate) (taken : List α) :
    ∃ k ∈ List.range' 2 (taken.length + 1), candidate k ∉ taken := by
  by_contra covered
  push Not at covered
  have distinct : ((List.range' 2 (taken.length + 1)).map candidate).Nodup :=
    List.Nodup.map injective List.nodup_range'
  have among : (List.range' 2 (taken.length + 1)).map candidate ⊆ taken := by
    intro name member
    obtain ⟨k, inRange, rfl⟩ := List.mem_map.mp member
    exact covered k inRange
  have short := (List.subperm_of_subset distinct among).length_le
  rw [List.length_map, List.length_range'] at short
  omega

/-- A name that is given out is the name itself or the first numbered one that is free. -/
theorem fresh_cases (taken : List String) (name : String) :
    (name ∉ taken ∧ fresh taken name = name) ∨
    (name ∈ taken ∧ ((List.range' 2 (taken.length + 1)).map fun k : Nat => s!"{name}_{k}").find? (· ∉ taken) =
      some (fresh taken name)) := by
  unfold fresh
  split
  case isFalse new => exact .inl ⟨new, rfl⟩
  case isTrue again =>
    refine .inr ⟨again, ?_⟩
    obtain ⟨k, inRange, free⟩ := exists_free (numbered_injective name) taken
    dsimp only
    cases found : ((List.range' 2 (taken.length + 1)).map fun k : Nat => s!"{name}_{k}").find? (· ∉ taken) with
    | none =>
      exact absurd (List.find?_eq_none.mp found _ (List.mem_map_of_mem inRange)) (by simpa using free)
    | some numbered => rfl

theorem fresh_eq_or (taken : List String) (name : String) :
    fresh taken name = name ∨ ∃ k : Nat, fresh taken name = s!"{name}_{k}" := by
  rcases fresh_cases taken name with ⟨-, same⟩ | ⟨-, found⟩
  · exact .inl same
  · obtain ⟨k, -, numbered⟩ := List.mem_map.mp (List.mem_of_find?_eq_some found)
    exact .inr ⟨k, numbered.symm⟩

theorem fresh_not_mem (taken : List String) (name : String) : fresh taken name ∉ taken := by
  rcases fresh_cases taken name with ⟨new, same⟩ | ⟨-, found⟩
  · rwa [same]
  · simpa using List.find?_some found

@[simp] theorem resolveAfter_paths (taken : List String) (bindings : List Binding) :
    (resolveAfter taken bindings).map (·.path) = bindings.map (·.path) := by
  induction bindings generalizing taken with
  | nil => rfl
  | cons b rest ih => simp [resolveAfter, ih]

/-- The names given out so far are what later bindings have to avoid. -/
theorem resolveAfter_append (taken : List String) (first second : List Binding) :
    resolveAfter taken (first ++ second) = resolveAfter taken first ++
      resolveAfter (((resolveAfter taken first).map (·.name)).reverse ++ taken) second := by
  induction first generalizing taken with
  | nil => simp [resolveAfter]
  | cons b rest ih => simp [resolveAfter, ih]

theorem resolveAfter_names (taken : List String) (bindings : List Binding) :
    ((resolveAfter taken bindings).map (·.name)).Nodup ∧
      ∀ name ∈ (resolveAfter taken bindings).map (·.name), name ∉ taken := by
  induction bindings generalizing taken with
  | nil => simp [resolveAfter]
  | cons b rest ih =>
    obtain ⟨distinct, apart⟩ := ih (fresh taken b.name :: taken)
    simp only [resolveAfter, List.map_cons, List.nodup_cons, List.mem_cons, forall_eq_or_imp]
    refine ⟨⟨fun again => apart _ again (List.mem_cons_self ..), distinct⟩, fresh_not_mem taken b.name, ?_⟩
    exact fun name member old => apart name member (List.mem_cons_of_mem _ old)

@[simp] theorem resolve_paths (bindings : List Binding) :
    (resolve bindings).map (·.path) = bindings.map (·.path) :=
  resolveAfter_paths [] bindings

theorem resolve_names_nodup (bindings : List Binding) : ((resolve bindings).map (·.name)).Nodup :=
  (resolveAfter_names [] bindings).1

theorem resolve_prefix (first second : List Binding) : resolve first <+: resolve (first ++ second) :=
  ⟨_, (resolveAfter_append [] first second).symm⟩

theorem column?_eq_none {path : String} {bindings : List Binding} :
    column? path bindings = none ↔ path ∉ bindings.map (·.path) := by
  rw [← resolve_paths bindings, column?, Option.map_eq_none_iff, List.find?_eq_none]
  simp only [List.mem_map, not_exists, not_and, beq_iff_eq]

/-- Whatever is appended later, a path keeps its column. -/
theorem column?_append {path column : String} {bindings : List Binding} (more : List Binding)
    (known : column? path bindings = some column) : column? path (bindings ++ more) = some column := by
  obtain ⟨rest, split⟩ := resolve_prefix bindings more
  obtain ⟨b, found, rfl⟩ := Option.map_eq_some_iff.mp known
  simp [column?, ← split, List.find?_append, found]

/-- Where no path is bound twice, the entry with the path is the only one. -/
theorem filter_path_of_column? {path column : String} {bindings : List Binding}
    (once : (bindings.map (·.path)).Nodup) (known : column? path bindings = some column) :
    (resolve bindings).filter (·.path == path) = [⟨path, column⟩] := by
  rw [← resolve_paths] at once
  rw [column?] at known
  generalize resolve bindings = entries at once known
  induction entries with
  | nil => simp at known
  | cons b rest ih =>
    obtain ⟨absent, once⟩ := List.nodup_cons.mp once
    by_cases here : b.path = path
    · have others : rest.filter (·.path == path) = [] := by
        refine List.filter_eq_nil_iff.mpr fun c member same => absent ?_
        exact List.mem_map.mpr ⟨c, member, (eq_of_beq same).trans here.symm⟩
      obtain rfl : b.name = column := by simpa [here] using known
      rw [List.filter_cons_of_pos (by simpa using here), others, ← here]
    · simp only [List.find?_cons, beq_eq_false_iff_ne.mpr here] at known
      simp [here, ih once known]

end AttributeStore.Column
