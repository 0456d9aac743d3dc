import AttributeStore.Proofs.Plan.ColumnBinding
import AttributeStore.Proofs.Sql.Clauses

/-! What an attribute brings into a daily model: a column that bears the attribute's daily name, and either is the
column of its property or folds the rows that pass its filter. -/
namespace AttributeStore

namespace Attribute

variable {bindings : List Column.Binding} {a : Attribute} {fold : Fold} {column : DailyColumn}

/-- The filter of an attribute as SQL. -/
def filterIn (bindings : List Column.Binding) (a : Attribute) : Except CompileError String :=
  Sql.clause a.name (a.criteriaIn bindings)

/-- The column of an attribute's property. -/
def propertyIn (bindings : List Column.Binding) (a : Attribute) : Option String :=
  a.propertyPath.map (Column.columnIn bindings)

/-- The fold of an attribute and the name of its daily column. -/
def HasDaily (bindings : List Column.Binding) (a : Attribute) (fold : Fold) (name : String) : Prop :=
  a.fold = .ok fold ∧ a.dailyColumn fold (a.propertyIn bindings) = .ok name

theorem HasDaily.unique {fold' : Fold} {name name' : String} (has : a.HasDaily bindings fold name)
    (has' : a.HasDaily bindings fold' name') : fold = fold' ∧ name = name' := by
  obtain rfl := Except.ok.inj (has.1.symm.trans has'.1)
  exact ⟨rfl, Except.ok.inj (has.2.symm.trans has'.2)⟩

/-- The daily column that an attribute brings into a model. -/
def Brings (bindings : List Column.Binding) (a : Attribute) (fold : Fold) (column : DailyColumn) : Prop :=
  ∃ p, a.planIn bindings = .ok p ∧ p.dailyEntry = .ok (fold, column)

theorem Brings.hasDaily (brings : a.Brings bindings fold column) : a.HasDaily bindings fold column.name := by
  obtain ⟨p, planned, entry⟩ := brings
  have written := Plan.dailyEntry_name entry
  obtain ⟨_, daily, known, -, named, rfl⟩ := planIn_eq_ok_iff.mp planned
  obtain ⟨_, sameFold, -⟩ := Plan.dailyEntry_eq_ok_iff.mp entry
  cases sameFold
  cases written
  exact ⟨known, named⟩

theorem Brings.function (brings : a.Brings bindings fold column) : column.function = Sql.dailyFunction fold := by
  obtain ⟨p, -, entry⟩ := brings
  exact Plan.dailyEntry_function entry

theorem Brings.positional (brings : a.Brings bindings fold column) (positional : fold.isPositional) :
    ∃ name, a.propertyIn bindings = some name ∧ column = ⟨fold.name ++ "_" ++ name, fold.name, name⟩ := by
  have known := brings.hasDaily.1
  obtain ⟨p, planned, entry⟩ := brings
  obtain ⟨path, declared, entry'⟩ := dailyEntry_positional planned known positional
  refine ⟨Column.columnIn bindings path, ?_, congrArg Prod.snd (Except.ok.inj (entry.symm.trans entry'))⟩
  rw [propertyIn, declared, Option.map_some]

theorem Brings.folded (brings : a.Brings bindings fold column) (folds : ¬fold.isPositional) :
    ∃ clause, a.filterIn bindings = .ok clause ∧ Sql.validate a.name clause = .ok () ∧
      Sql.rowExpression a.name fold clause (a.propertyIn bindings) = .ok column.expression := by
  obtain ⟨p, planned, entry⟩ := brings
  obtain ⟨_, daily, -, -, -, rfl⟩ := planIn_eq_ok_iff.mp planned
  obtain ⟨name, sameFold, -, entry⟩ := Plan.dailyEntry_eq_ok_iff.mp entry
  cases sameFold
  rw [if_neg folds] at entry
  obtain ⟨clause, expression, written, valid, folded, rfl⟩ := Plan.foldedColumn_eq_ok_iff.mp entry
  exact ⟨clause, written, valid, folded⟩

/-- A filter asks for the attribute's events first. -/
theorem criteriaIn_event (a : Attribute) (bindings : List Column.Binding) :
    ∃ others, (a.criteriaIn bindings).all = a.eventCondition :: others := by
  unfold criteriaIn
  split
  · exact ⟨_, rfl⟩
  · dsimp only
    split <;> exact ⟨_, rfl⟩

/-- The filter of an attribute is never empty: it names the attribute's events. -/
theorem filterIn_nonempty {clause : String} (written : a.filterIn bindings = .ok clause) : clause ≠ "" := by
  obtain ⟨others, listed⟩ := criteriaIn_event a bindings
  exact Sql.clause_nonempty written (by rw [listed]; exact List.cons_ne_nil _ _)

theorem propertyIn_isNameChar (tidy : Column.Tidy bindings) :
    ∀ p ∈ a.propertyIn bindings, ∀ c ∈ p.toList, Column.isNameChar c := by
  intro p declared
  obtain ⟨path, -, rfl⟩ := Option.map_eq_some_iff.mp declared
  exact tidy.columnIn_isNameChar path

end Attribute

namespace DailyModel

variable {attributes : List Attribute} {bindings : List Column.Binding} {plans : List Plan} {m : DailyModel}

theorem mem_columns_iff_brings (planned : List.Forall₂ (fun a p => a.planIn bindings = .ok p) attributes plans)
    (built : ofPlans plans = .ok m) {column : DailyColumn} :
    column ∈ m.columns ↔ ∃ a ∈ attributes, ∃ fold, a.Brings bindings fold column := by
  obtain ⟨plan, origin⟩ := exists_of_mapM_eq_ok (mapM_eq_ok_iff.mpr planned)
  rw [mem_columns built]
  constructor
  · rintro ⟨p, listed, fold, entry⟩
    obtain ⟨a, member, plan⟩ := origin p listed
    exact ⟨a, member, fold, p, plan, entry⟩
  · rintro ⟨a, member, fold, p, plan', entry⟩
    obtain ⟨p', listed, plan''⟩ := plan a member
    obtain rfl := Except.ok.inj (plan'.symm.trans plan'')
    exact ⟨p, listed, fold, entry⟩

/-- In a model that could be built every attribute has its daily column. -/
theorem exists_brings (planned : List.Forall₂ (fun a p => a.planIn bindings = .ok p) attributes plans)
    (built : ofPlans plans = .ok m) {a : Attribute} (member : a ∈ attributes) :
    ∃ fold column, a.Brings bindings fold column ∧ column ∈ m.listOf fold := by
  obtain ⟨p, listed, plan⟩ := (exists_of_mapM_eq_ok (mapM_eq_ok_iff.mpr planned)).1 a member
  obtain ⟨entries, read, -⟩ := map_eq_ok_iff.mp (ofPlans_eq plans ▸ built)
  obtain ⟨⟨fold, column⟩, -, entry⟩ := (exists_of_mapM_eq_ok read).1 p listed
  exact ⟨fold, column, ⟨p, plan, entry⟩, mem_listOf built listed entry⟩

theorem exists_column (planned : List.Forall₂ (fun a p => a.planIn bindings = .ok p) attributes plans)
    (built : ofPlans plans = .ok m) {a : Attribute} (member : a ∈ attributes) {fold : Fold} {name : String}
    (has : a.HasDaily bindings fold name) :
    ∃ column ∈ m.columns, a.Brings bindings fold column ∧ column.name = name := by
  obtain ⟨fold', column, brings, -⟩ := exists_brings planned built member
  obtain ⟨rfl, named⟩ := brings.hasDaily.unique has
  exact ⟨column, (mem_columns_iff_brings planned built).mpr ⟨a, member, fold', brings⟩, brings, named⟩

end DailyModel

end AttributeStore
