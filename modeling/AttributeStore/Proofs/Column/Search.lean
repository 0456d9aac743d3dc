import AttributeStore.Proofs.Column.Resolution
import Mathlib.Data.Nat.Init

/-! The search for free names. A name that is taken is tried again with one number after another, from two on and without
a limit; since the numbered names are all different, the search ends, and resolution gives out the names it ends with. -/
namespace AttributeStore.Column

/-- A search that stands at a candidate, with the number of the next one, and what it ends with. -/
inductive Search (taken : List String) (name : String) : String → Nat → String → Prop
  | free : candidate ∉ taken → Search taken name candidate k candidate
  | next : candidate ∈ taken → Search taken name s!"{name}_{k}" (k + 1) found → Search taken name candidate k found

/-- The name itself, or, if it is taken, the name with the least number from two on that is not. -/
def IsFirstFree (taken : List String) (name found : String) : Prop :=
  if name ∈ taken then
    ∃ k : Nat, 2 ≤ k ∧ found = s!"{name}_{k}" ∧ found ∉ taken ∧ ∀ j : Nat, 2 ≤ j → j < k → s!"{name}_{j}" ∈ taken
  else found = name

variable {taken : List String} {name found : String}

theorem Search.unique {candidate other : String} {k : Nat} (first : Search taken name candidate k found)
    (second : Search taken name candidate k other) : found = other := by
  induction first with
  | free free =>
    cases second with
    | free => rfl
    | next again => exact absurd again free
  | next again _ ih =>
    cases second with
    | free free => exact absurd again free
    | next _ second => exact ih second

/-- From a number on, all of whose followers are taken up to a free one, the search goes up to it. -/
theorem search_numbered {k m : Nat} (below : k ≤ m) (covered : ∀ j : Nat, k ≤ j → j < m → s!"{name}_{j}" ∈ taken)
    (free : s!"{name}_{m}" ∉ taken) : Search taken name s!"{name}_{k}" (k + 1) s!"{name}_{m}" := by
  induction below using Nat.decreasingInduction with
  | self => exact .free free
  | of_succ k less ih => exact .next (covered k (Nat.le_refl k) less) (ih fun j low => covered j (Nat.le_of_lt low))

theorem IsFirstFree.search (first : IsFirstFree taken name found) : Search taken name name 2 found := by
  unfold IsFirstFree at first
  split at first
  case isTrue again =>
    obtain ⟨m, low, rfl, free, covered⟩ := first
    exact .next again (search_numbered low covered free)
  case isFalse free =>
    rw [first]
    exact .free free

theorem fresh_isFirstFree (taken : List String) (name : String) : IsFirstFree taken name (fresh taken name) := by
  unfold IsFirstFree
  rcases fresh_cases taken name with ⟨new, same⟩ | ⟨again, numbered⟩
  · rwa [if_neg new]
  · rw [if_pos again]
    rw [List.find?_map, Option.map_eq_some_iff] at numbered
    obtain ⟨k, least, written⟩ := numbered
    obtain ⟨free, inRange, covered⟩ := List.find?_range'_eq_some.mp least
    refine ⟨k, (List.mem_range'_1.mp inRange).1, written.symm, fresh_not_mem taken name, fun j low less => ?_⟩
    simpa using covered j low less

/-- The order of taken names does not matter. -/
theorem isFirstFree_reverse : IsFirstFree taken.reverse name found ↔ IsFirstFree taken name found := by
  simp only [IsFirstFree, List.mem_reverse]

theorem length_resolve (bindings : List Binding) : (resolve bindings).length = bindings.length := by
  rw [← List.length_map (·.path), resolve_paths, List.length_map]

theorem resolve_take (bindings : List Binding) (n : Nat) : resolve (bindings.take n) = (resolve bindings).take n := by
  have before := resolve_prefix (bindings.take n) (bindings.drop n)
  rw [List.take_append_drop] at before
  rw [List.prefix_iff_eq_take.mp before, length_resolve, List.length_take, ← length_resolve bindings]
  exact (List.take_eq_take_min ..).symm

theorem resolve_getElem? {bindings : List Binding} {i : Nat} {b : Binding} (here : bindings[i]? = some b) :
    ∃ found, (resolve bindings)[i]? = some ⟨b.path, found⟩ ∧
      IsFirstFree (((resolve bindings).take i).map (·.name)) b.name found := by
  obtain ⟨front, back, rfl, rfl⟩ : ∃ front back, bindings = front ++ b :: back ∧ front.length = i := by
    obtain ⟨inside, same⟩ := List.getElem?_eq_some_iff.mp here
    refine ⟨bindings.take i, bindings.drop (i + 1), ?_, List.length_take_of_le (Nat.le_of_lt inside)⟩
    rw [← same, List.getElem_cons_drop, List.take_append_drop]
  have before : (resolve (front ++ b :: back)).take front.length = resolve front := by
    rw [← resolve_take, List.take_left]
  let earlier := (resolve front).map (·.name)
  refine ⟨fresh earlier.reverse b.name, ?_, ?_⟩
  · rw [resolve, resolveAfter_append, ← length_resolve front, resolve, List.getElem?_append_right (Nat.le_refl _)]
    simp [resolveAfter, earlier, resolve]
  · rw [before]
    exact isFirstFree_reverse.mp (fresh_isFirstFree earlier.reverse b.name)

/-- What resolution gives out: every binding keeps its place and its path and has a name of its own, the first that is
free of those before it, which is where the search for it ends. -/
theorem resolve_firstFree (bindings : List Binding) :
    (resolve bindings).length = bindings.length ∧
    (resolve bindings).map (·.path) = bindings.map (·.path) ∧
    ((resolve bindings).map (·.name)).Nodup ∧
    (∀ (i : Nat) (b : Binding), bindings[i]? = some b → ∃ found, (resolve bindings)[i]? = some ⟨b.path, found⟩ ∧
      let earlier := ((resolve bindings).take i).map (·.name)
      IsFirstFree earlier b.name found ∧ ∀ other, Search earlier b.name b.name 2 other ↔ other = found) ∧
    ∀ n, resolve (bindings.take n) = (resolve bindings).take n := by
  refine ⟨length_resolve bindings, resolve_paths bindings, resolve_names_nodup bindings, fun i b here => ?_,
    resolve_take bindings⟩
  obtain ⟨found, there, first⟩ := resolve_getElem? here
  refine ⟨found, there, first, fun other => ⟨fun search => search.unique first.search, ?_⟩⟩
  rintro rfl
  exact first.search

/-- Two paths with one name, between two whose name looks as if it were numbered. -/
def idBindings : List Binding :=
  [⟨"page.id_2", "id_2"⟩, ⟨"user.id", "id"⟩, ⟨"visitor.id", "id"⟩, ⟨"order.id_2", "id_2"⟩]

theorem idBindings_firstFree : (resolve idBindings).map (·.name) = ["id_2", "id", "id_3", "id_2_2"] ∧
    IsFirstFree ["id_2", "id"] "id" "id_3" ∧ Search ["id_2", "id"] "id" "id" 2 "id_3" := by
  have names : resolve idBindings =
      [⟨"page.id_2", "id_2"⟩, ⟨"user.id", "id"⟩, ⟨"visitor.id", "id_3"⟩, ⟨"order.id_2", "id_2_2"⟩] := by
    decide +kernel
  obtain ⟨-, -, -, each, -⟩ := resolve_firstFree idBindings
  obtain ⟨found, there, first, search⟩ := each 2 ⟨"visitor.id", "id"⟩ rfl
  rw [names] at there first search
  cases there
  exact ⟨by rw [names]; rfl, first, (search _).mpr rfl⟩

end AttributeStore.Column
