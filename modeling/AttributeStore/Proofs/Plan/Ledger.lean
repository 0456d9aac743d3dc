import AttributeStore.Plan.Ledger
import AttributeStore.Proofs.Column.Name
import Mathlib.Data.List.Induction

/-! The bindings of a ledger. Registering paths one after another leaves one binding for each path with a name, in
the order of first use, and the column of a path is settled as soon as the path is there. -/
namespace AttributeStore.Column

/-- A path that can be registered: something is left of it to be a name. -/
def HasName (path : String) : Prop := ofPath path ≠ ""

instance (path : String) : Decidable (HasName path) := inferInstanceAs (Decidable (_ ≠ _))

/-- The binding of a path before collisions are resolved. -/
def bindingOf (path : String) : Binding := ⟨path, ofPath path⟩

def register (bindings : List Binding) (path : String) : List Binding := (add path (ofPath path) bindings).1

/-- The bindings after some paths have been registered. -/
def registerAll (bindings : List Binding) (paths : List String) : List Binding := paths.foldl register bindings

/-- The column of a path; one that is not bound has its cleaned name. -/
def columnIn (bindings : List Binding) (path : String) : String := (column? path bindings).getD (ofPath path)

/-- What every ledger holds: each binding as its path is cleaned, no path twice, none without a name. -/
structure Tidy (bindings : List Binding) : Prop where
  cleaned : bindings = (bindings.map (·.path)).map bindingOf
  once : (bindings.map (·.path)).Nodup
  named : ∀ path ∈ bindings.map (·.path), HasName path

theorem Tidy.empty : Tidy [] := ⟨rfl, List.nodup_nil, by simp⟩

theorem Tidy.mem_iff (tidy : Tidy bindings) : bindingOf path ∈ bindings ↔ path ∈ bindings.map (·.path) := by
  constructor
  · exact fun member => List.mem_map.mpr ⟨_, member, rfl⟩
  · intro member
    rw [tidy.cleaned]
    exact List.mem_map_of_mem member

theorem HasName.nonempty (named : HasName path) : path ≠ "" := by
  rintro rfl
  exact named (by decide)

/-- Registering a path binds it behind the others, unless it has no name or is bound already. -/
theorem Tidy.register_eq (tidy : Tidy bindings) (path : String) : register bindings path =
    if HasName path ∧ path ∉ bindings.map (·.path) then bindings ++ [bindingOf path] else bindings := by
  have bound : (⟨path, ofPath path⟩ : Binding) ∈ bindings ↔ path ∈ bindings.map (·.path) := tidy.mem_iff
  unfold register add
  by_cases named : HasName path
  · have empty : ¬((path.isEmpty || (ofPath path).isEmpty) = true) := by
      simpa using ⟨named.nonempty, named⟩
    simp only [if_neg empty, bound, named, true_and]
    split <;> simp_all [bindingOf]
  · have empty : ofPath path = "" := not_not.mp named
    simp [empty, named]

theorem Tidy.register (tidy : Tidy bindings) (path : String) : Tidy (register bindings path) := by
  rw [tidy.register_eq]
  split
  case isFalse => exact tidy
  case isTrue new =>
    constructor
    · simpa [bindingOf] using tidy.cleaned
    · have apart : ∀ b ∈ bindings, b.path ≠ path := fun b member same => new.2 (List.mem_map.mpr ⟨b, member, same⟩)
      simpa [List.nodup_append, bindingOf] using ⟨tidy.once, apart⟩
    · intro other member
      rw [List.map_append, List.mem_append] at member
      rcases member with old | last
      · exact tidy.named other old
      · obtain rfl : other = path := by simpa [bindingOf] using last
        exact new.1

theorem Tidy.registerAll (tidy : Tidy bindings) (paths : List String) : Tidy (registerAll bindings paths) := by
  induction paths generalizing bindings with
  | nil => exact tidy
  | cons path rest ih => exact ih (tidy.register path)

theorem Tidy.prefix_registerAll (tidy : Tidy bindings) (paths : List String) :
    bindings <+: Column.registerAll bindings paths := by
  induction paths generalizing bindings with
  | nil => exact List.prefix_rfl
  | cons path rest ih =>
    refine List.IsPrefix.trans ?_ (ih (tidy.register path))
    rw [tidy.register_eq]
    split
    · exact List.prefix_append ..
    · exact List.prefix_rfl

theorem registerAll_append (bindings : List Binding) (first second : List String) :
    registerAll bindings (first ++ second) = registerAll (registerAll bindings first) second :=
  List.foldl_append

theorem Tidy.mem_registerAll (tidy : Tidy bindings) (paths : List String) (member : path ∈ paths)
    (named : HasName path) : path ∈ (Column.registerAll bindings paths).map (·.path) := by
  obtain ⟨before, after, rfl⟩ := List.append_of_mem member
  rw [registerAll_append]
  have middle := tidy.registerAll before
  refine ((middle.register path).prefix_registerAll after).map _ |>.subset ?_
  rw [middle.register_eq]
  split
  case isTrue => simp [bindingOf]
  case isFalse bound => exact not_not.mp fun absent => bound ⟨named, absent⟩

/-- The bound paths are those with a name, once each, in the order of first use. -/
theorem registerAll_paths (paths : List String) :
    (registerAll [] paths).map (·.path) = (paths.filter (HasName ·)).eraseDups := by
  induction paths using List.reverseRecOn with
  | nil => rfl
  | append_singleton first path ih =>
    have tidy := Tidy.empty.registerAll first
    rw [registerAll_append, List.filter_append, List.eraseDups_append, ← ih]
    show (register _ path).map (·.path) = _
    rw [tidy.register_eq]
    have bound : path ∈ (first.filter (HasName ·)).eraseDups ↔ path ∈ first ∧ HasName path := by
      simp [List.mem_eraseDups]
    simp only [ih, bound]
    by_cases named : HasName path
    · by_cases again : path ∈ first
      · simp [named, again, List.removeAll, ih]
      · simp [named, again, List.removeAll, ih, bindingOf, List.eraseDups_cons]
    · simp [named, List.removeAll, ih]

/-- A path that has been registered keeps its column, whatever is registered after it. -/
theorem Tidy.columnIn_registerAll (tidy : Tidy bindings) (path : String) (more : List String)
    (known : HasName path → path ∈ bindings.map (·.path)) :
    columnIn (Column.registerAll bindings more) path = columnIn bindings path := by
  unfold columnIn
  obtain ⟨rest, appended⟩ := tidy.prefix_registerAll more
  cases column : column? path bindings with
  | some name => rw [← appended, column?_append rest column]
  | none =>
    -- only a path without a name is never bound, and it is bound nowhere
    have unnamed : ¬HasName path := fun named => column?_eq_none.mp column (known named)
    have unbound : path ∉ (Column.registerAll bindings more).map (·.path) :=
      fun member => unnamed ((tidy.registerAll more).named path member)
    rw [column?_eq_none.mpr unbound]

theorem Tidy.name_eq (tidy : Tidy bindings) {b : Binding} (member : b ∈ bindings) : b.name = ofPath b.path := by
  rw [tidy.cleaned] at member
  obtain ⟨path, -, rfl⟩ := List.mem_map.mp member
  simp only [bindingOf]

theorem Tidy.resolve_isNameChar (tidy : Tidy bindings) :
    ∀ b ∈ resolve bindings, ∀ c ∈ b.name.toList, isNameChar c := by
  apply resolveAfter_isNameChar
  intro b member
  rw [tidy.name_eq member]
  exact ofPath_isNameChar b.path

/-- The column of a path is the name the path is bound to, or what the path is cleaned to if it is not bound. -/
theorem columnIn_cases (bindings : List Binding) (path : String) :
    columnIn bindings path = ofPath path ∨ ∃ b ∈ resolve bindings, b.path = path ∧ columnIn bindings path = b.name := by
  unfold columnIn
  cases column : column? path bindings with
  | none =>
    left
    exact Option.getD_none
  | some name =>
    right
    obtain ⟨b, found, named⟩ := Option.map_eq_some_iff.mp column
    refine ⟨b, List.mem_of_find?_eq_some found, by simpa using List.find?_some found, ?_⟩
    rw [Option.getD_some, named]

/-- A column is as nameless as its path. -/
theorem Tidy.hasName_of_columnIn (tidy : Tidy bindings) (nonempty : columnIn bindings path ≠ "") : HasName path := by
  rcases columnIn_cases bindings path with free | ⟨b, member, rfl, -⟩
  · rwa [free] at nonempty
  · refine tidy.named b.path ?_
    rw [← resolve_paths]
    exact List.mem_map_of_mem member

theorem Tidy.columnIn_isNameChar (tidy : Tidy bindings) (path : String) :
    ∀ c ∈ (columnIn bindings path).toList, isNameChar c := by
  rcases columnIn_cases bindings path with free | ⟨b, member, -, bound⟩
  · rw [free]
    exact ofPath_isNameChar path
  · rw [bound]
    exact tidy.resolve_isNameChar b member

end AttributeStore.Column
