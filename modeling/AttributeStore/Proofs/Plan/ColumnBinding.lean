import AttributeStore.Proofs.Models.Daily
import AttributeStore.Proofs.Plan.Compilation

/-! Columns of paths. All attributes of a list read a path from one column, the one that the list's properties give
it, and no two paths share a column. -/
namespace AttributeStore

namespace Attribute

/-- The conditions that filter an attribute, as declared. -/
def declared (a : Attribute) : List Criterion := a.activeCriteria.toList.flatMap (·.active)

theorem validate_property {a : Attribute} (valid : a.validate = .ok ()) (required : a.aggregation.requiresProperty) :
    ∃ path, a.propertyPath = some path := by
  unfold validate at valid
  split at valid
  · cases valid
  · cases declared : a.propertyPath with
    | none => simp [required, declared] at valid
    | some path => exact ⟨path, rfl⟩

theorem fold_eq_ok_iff {a : Attribute} {fold : Fold} :
    a.fold = .ok fold ↔ Fold.ofAggregation? a.aggregation = some fold := by
  unfold Attribute.fold
  split <;> simp_all

theorem requiresProperty_of_isPositional {a : Attribute} {fold : Fold} (known : a.fold = .ok fold)
    (positional : fold.isPositional) : a.aggregation.requiresProperty := by
  rw [fold_eq_ok_iff] at known
  cases kind : a.aggregation <;> rw [kind] at known <;> cases known <;> first | rfl | cases positional

end Attribute

namespace Plan

/-- A plan that reads every path of its attribute from the column that a table gives it. -/
structure ReadsFrom (column : String → String) (a : Attribute) (p : Plan) : Prop where
  property : p.filtered.column = a.propertyPath.map column
  conditions : ∃ c, p.daily.criteria = some c ∧
    c.all ++ c.any = a.eventCondition :: a.declared.map fun d => { d with property := column d.property }
  /-- The column of a first or last value, too: it is what the daily name says behind its mark. -/
  positional : ∀ fold, a.fold = .ok fold → fold.isPositional → ∃ path, a.propertyPath = some path ∧
    p.dailyEntry = .ok (fold, ⟨fold.name ++ "_" ++ column path, fold.name, column path⟩)

theorem positionalColumn_marked (fold : Fold) (column : String) :
    positionalColumn fold (fold.name ++ "_" ++ column) = ⟨fold.name ++ "_" ++ column, fold.name, column⟩ := by
  have marked : (fold.name ++ "_" ++ column).startsWith (fold.name ++ "_") = true := by
    rw [String.startsWith_string_iff]
    simp
  have rest : (fold.name ++ "_" ++ column).toList.drop (fold.name ++ "_").length = column.toList := by
    rw [String.toList_append, ← String.length_toList, List.drop_left]
  simp only [positionalColumn, marked, rest, if_true, String.ofList_toList]

end Plan

namespace Attribute

theorem criteriaIn_conditions (a : Attribute) (bindings : List Column.Binding) :
    (a.criteriaIn bindings).all ++ (a.criteriaIn bindings).any =
      a.eventCondition :: a.declared.map (rebind bindings) := by
  unfold criteriaIn declared
  cases a.activeCriteria with
  | none => rfl
  | some c =>
    simp only [Option.toList_some, List.flatMap_cons, List.flatMap_nil, List.append_nil]
    split <;> simp

theorem dailyEntry_positional {a : Attribute} {bindings : List Column.Binding} {p : Plan} {fold : Fold}
    (planned : a.planIn bindings = .ok p) (known : a.fold = .ok fold) (positional : fold.isPositional) :
    ∃ path, a.propertyPath = some path ∧ p.dailyEntry =
      .ok (fold, ⟨fold.name ++ "_" ++ Column.columnIn bindings path, fold.name, Column.columnIn bindings path⟩) := by
  obtain ⟨fold', daily, known', valid, named, rfl⟩ := planIn_eq_ok_iff.mp planned
  obtain rfl : fold = fold' := Except.ok.inj (known.symm.trans known')
  obtain ⟨path, declared⟩ := validate_property valid (requiresProperty_of_isPositional known positional)
  refine ⟨path, declared, ?_⟩
  obtain rfl : fold.name ++ "_" ++ Column.columnIn bindings path = daily := by
    simpa [dailyColumn, positional, declared, toString] using named
  simp only [Plan.dailyEntry, assemble, Step.foldOf, Step.columnOf, Bind.bind, Except.bind, positional, if_true,
    Plan.positionalColumn_marked]
  rfl

theorem readsFrom_of_planIn {a : Attribute} {bindings : List Column.Binding} {p : Plan}
    (planned : a.planIn bindings = .ok p) : p.ReadsFrom (Column.columnIn bindings) a where
  property := by
    obtain ⟨_, _, _, _, _, rfl⟩ := planIn_eq_ok_iff.mp planned
    rfl
  conditions := by
    obtain ⟨_, _, _, _, _, rfl⟩ := planIn_eq_ok_iff.mp planned
    exact ⟨_, rfl, a.criteriaIn_conditions bindings⟩
  positional _ := dailyEntry_positional planned

end Attribute

namespace Column

/-- The columns of bound paths are the names that resolution gives out, each to one path. -/
theorem Tidy.filter_resolve (tidy : Tidy bindings) (bound : path ∈ bindings.map (·.path)) :
    (resolve bindings).filter (·.path == path) = [⟨path, columnIn bindings path⟩] := by
  cases known : column? path bindings with
  | none => exact absurd bound (column?_eq_none.mp known)
  | some column =>
    rw [filter_path_of_column? tidy.once known]
    simp [columnIn, known]

theorem Tidy.columnIn_injective (tidy : Tidy bindings) (first : path₁ ∈ bindings.map (·.path))
    (second : path₂ ∈ bindings.map (·.path)) (same : columnIn bindings path₁ = columnIn bindings path₂) :
    path₁ = path₂ := by
  have entry₁ : ⟨path₁, columnIn bindings path₁⟩ ∈ resolve bindings :=
    List.mem_of_mem_filter (by rw [tidy.filter_resolve first]; exact List.mem_singleton_self _)
  have entry₂ : ⟨path₂, columnIn bindings path₂⟩ ∈ resolve bindings :=
    List.mem_of_mem_filter (by rw [tidy.filter_resolve second]; exact List.mem_singleton_self _)
  have entries := List.inj_on_of_nodup_map (resolve_names_nodup bindings) entry₁ entry₂ same
  exact congrArg Binding.path entries

end Column

/-- The columns of a list of attributes. Its properties hold every declared path with a name once, in the order of
first use; what they say is the column that every plan reads the path from, and no other path has that column. -/
theorem Blueprint.ofAttributes_columns {attributes : List Attribute} {entityKey : String} {b : Blueprint}
    (built : ofAttributes attributes entityKey = .ok b) : ∃ column : String → String,
    (∀ a ∈ attributes, ∀ path ∈ a.paths, Column.HasName path →
      b.properties.filter (·.path == path) = [⟨path, column path⟩]) ∧
    List.Forall₂ (fun a p => p.ReadsFrom column a) attributes b.plans ∧
    (∀ m, DailyModel.ofPlans b.plans = .ok m → ∀ a ∈ attributes, ∀ fold, a.fold = .ok fold → fold.isPositional →
      ∀ path, a.propertyPath = some path →
        ⟨fold.name ++ "_" ++ column path, fold.name, column path⟩ ∈ m.listOf fold) ∧
    (∀ a₁ ∈ attributes, ∀ a₂ ∈ attributes, ∀ path₁ ∈ a₁.paths, ∀ path₂ ∈ a₂.paths,
      Column.HasName path₁ → Column.HasName path₂ → column path₁ = column path₂ → path₁ = path₂) ∧
    b.properties.map (·.path) = ((attributes.flatMap (·.paths)).filter (Column.HasName ·)).eraseDups := by
  obtain ⟨plans, planned, rfl⟩ := ofAttributes_eq_ok_iff.mp built
  have bindings := Ledger.enterAll_bindings {} attributes
  have tidy := Ledger.enterAll_tidy attributes
  have bound : ∀ a ∈ attributes, ∀ path ∈ a.paths, Column.HasName path →
      path ∈ (Ledger.enterAll {} attributes).bindings.map (·.path) := by
    intro a member path declared named
    rw [bindings]
    exact Column.Tidy.empty.mem_registerAll _ (List.mem_flatMap.mpr ⟨a, member, declared⟩) named
  refine ⟨Column.columnIn (Ledger.enterAll {} attributes).bindings, ?properties, ?plans, ?daily, ?apart, ?order⟩
  case properties =>
    exact fun a member path declared named => tidy.filter_resolve (bound a member path declared named)
  case plans =>
    exact planned.imp fun a p plan => Attribute.readsFrom_of_planIn plan
  case daily =>
    intro m daily a member fold known positional path property
    obtain ⟨p, listed, plan⟩ := (exists_of_mapM_eq_ok (mapM_eq_ok_iff.mpr planned)).1 a member
    obtain ⟨path', property', entry⟩ := Attribute.dailyEntry_positional plan known positional
    obtain rfl : path = path' := Option.some.inj (property.symm.trans property')
    exact DailyModel.mem_listOf daily listed entry
  case apart =>
    intro a₁ member₁ a₂ member₂ path₁ declared₁ path₂ declared₂ named₁ named₂ same
    exact tidy.columnIn_injective (bound a₁ member₁ path₁ declared₁ named₁)
      (bound a₂ member₂ path₂ declared₂ named₂) same
  case order =>
    show (Column.resolve _).map (·.path) = _
    rw [Column.resolve_paths, bindings]
    exact Column.registerAll_paths _

/-- The last page of a session whose user is known: two paths that end alike. -/
def lastPageOfKnownUser : Attribute where
  name := "last_page"
  valueType := none
  aggregation := .last
  property := some "page.id"
  events := [⟨"com.acme", "page_view", "1-0-0"⟩]
  criteria := some ⟨[⟨"user.id", .notEq, .str "anonymous"⟩, ⟨"page.id", .like, .str "home"⟩], []⟩
  period := none
  description := none
  defaultValue := none

theorem Blueprint.ofAttributes_columns_of_known_user :
    ∃ b, ofAttributes [lastPageOfKnownUser] "user_key" = .ok b ∧
      b.properties = [⟨"page.id", "id"⟩, ⟨"user.id", "id_2"⟩] ∧
      ∃ column : String → String, List.Forall₂ (fun a p => p.ReadsFrom column a) [lastPageOfKnownUser] b.plans :=
  ⟨_, rfl, by decide +kernel, (ofAttributes_columns rfl).imp fun _ columns => columns.2.1⟩

end AttributeStore
