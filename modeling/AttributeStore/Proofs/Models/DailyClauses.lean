import AttributeStore.Proofs.Models.Validity
import AttributeStore.Proofs.Sql.RowValidity

/-! Clauses of daily columns. Of a folded column only the filter is checked before it becomes a case, and of a first
or last value nothing is. A clause is valid SQL, unless nothing is left of the path of its column, or the column is
called `struct` or `trim`. -/
namespace AttributeStore

/-- The levels that lists in a filter may stand inside each other, so that there is one left for a case. -/
def Sql.roomInCase : Nat := Grammar.maxNesting - 8

namespace Attribute

/-- An attribute none of whose columns begins with a digit, which filters by paths that leave names, and whose lists are
not nested to the limit. -/
structure IsTame (a : Attribute) : Prop where
  property : ∀ path ∈ a.propertyPath, ∀ c ∈ (Column.ofPath path).toList.head?, ¬Text.isDigit c
  conditions : ∀ c ∈ a.declared, Column.HasName c.property ∧
    ∀ d ∈ (Column.ofPath c.property).toList.head?, ¬Text.isDigit d
  shallow : ∀ c ∈ a.declared, c.value.nesting ≤ Sql.roomInCase

/-- What stands in front of the clause in a daily column. -/
def markOf (fold : Fold) : String := if fold = .uniqueList then "DISTINCT " else ""

variable {bindings : List Column.Binding} {a : Attribute} {fold : Fold} {column : DailyColumn}

theorem IsTame.propertyIn_bare (tame : a.IsTame) (tidy : Column.Tidy bindings) :
    ∀ name ∈ a.propertyIn bindings, name ≠ "" → Column.IsBare name := by
  intro name declared nonempty
  obtain ⟨path, stated, rfl⟩ := Option.map_eq_some_iff.mp declared
  exact (tidy.columnIn_suits path).bare (tidy.hasName_of_columnIn nonempty) (tame.property path stated)

theorem IsTame.shallow_of_criteriaIn (tame : a.IsTame) (bindings : List Column.Binding) :
    ∀ c ∈ (a.criteriaIn bindings).all ++ (a.criteriaIn bindings).any, c.value.nesting ≤ Sql.roomInCase := by
  rw [criteriaIn_conditions, List.forall_mem_cons]
  refine ⟨?event, fun c member => ?declared⟩
  case event =>
    have scalars : ∀ item ∈ a.events.map (fun e => Operand.str e.name), item.IsScalar := by simp [Operand.IsScalar]
    simp [eventCondition, Operand.nesting, (Operand.scalars_facts scalars).2, Sql.roomInCase, Sql.Grammar.maxNesting]
  case declared =>
    obtain ⟨d, declared, rfl⟩ := List.mem_map.mp member
    exact tame.shallow d declared

/-- The clause of a first or last value is its column and nothing else. -/
theorem Brings.positional_clause (brings : a.Brings bindings fold column) (tidy : Column.Tidy bindings)
    (positional : fold.isPositional) : ∃ name, a.propertyIn bindings = some name ∧ column.expression = name ∧
      (a.IsTame → name ≠ "" → ∀ subject, Sql.validate subject name = .ok () ↔
        (Sql.Token.word name).keyword ∉ Sql.Grammar.unlistedWords) := by
  obtain ⟨name, declared, rfl⟩ := brings.positional positional
  refine ⟨name, declared, rfl, fun tame nonempty subject => ?_⟩
  exact Sql.validate_column_iff (tame.propertyIn_bare tidy name declared nonempty)

/-- The clause of a folded column is a case of the filter. -/
theorem Brings.folded_clause (brings : a.Brings bindings fold column) (tidy : Column.Tidy bindings)
    (folds : ¬fold.isPositional) : ∃ clause ≠ "", column.expression = markOf fold ++ clause ∧
      (a.IsTame → ∀ subject, Sql.validate subject clause = .ok () ↔
        fold = .count ∨ ∀ name ∈ a.propertyIn bindings,
          name ≠ "" ∧ (Sql.Token.word name).keyword ∉ Sql.Grammar.unlistedWords) := by
  obtain ⟨filter, written, valid, expression⟩ := brings.folded folds
  rw [Sql.rowExpression_filtered (filterIn_nonempty written)] at expression
  split at expression
  case h_2 => cases expression
  case h_1 result counted =>
    obtain ⟨others, listed⟩ := criteriaIn_event a bindings
    refine ⟨_, Sql.caseWhen_ne_empty filter result (Sql.otherwise fold), (Except.ok.inj expression).symm,
      fun tame subject => ?_⟩
    exact Sql.validate_case_iff (bare_of_criteriaIn tidy tame.conditions) (tame.shallow_of_criteriaIn bindings)
      (by decide) (by simp [listed]) written valid counted (tame.propertyIn_bare tidy)

end Attribute

/-- The clause of every daily column. It is empty exactly if it is the first or last value of a path that leaves no
name; and over tame paths and lists it is valid exactly if it counts rows, or its column has a name, which is none of
the two words that are never names. -/
theorem Models.daily_clauses_valid_iff {attributes : List Attribute} {entityKey : String} {b : Blueprint} {m : Models}
    (compiled : Blueprint.ofAttributes attributes entityKey = .ok b) (built : ofBlueprint b = .ok m)
    {column : DailyColumn} (member : column ∈ m.daily.columns) :
    let bindings := (Ledger.enterAll {} attributes).bindings
    ∃ a ∈ attributes, ∃ fold clause, a.Brings bindings fold column ∧
      column.expression = Attribute.markOf fold ++ clause ∧
      (clause = "" ↔ fold.isPositional ∧ a.propertyIn bindings = some "") ∧
      (a.IsTame → ∀ subject, clause ≠ "" ∧ Sql.validate subject clause = .ok () ↔
        fold = .count ∨ ∀ name ∈ a.propertyIn bindings,
          name ≠ "" ∧ (Sql.Token.word name).keyword ∉ ["STRUCT", "TRIM"]) := by
  intro bindings
  obtain ⟨plans, planned, rfl⟩ := Blueprint.ofAttributes_eq_ok_iff.mp compiled
  obtain ⟨-, daily, -⟩ := ofBlueprint_eq_ok_iff.mp built
  have tidy : Column.Tidy bindings := Ledger.enterAll_tidy attributes
  have brought : ∃ a ∈ attributes, ∃ fold, a.Brings bindings fold column :=
    (DailyModel.mem_columns_iff_brings planned daily).mp member
  obtain ⟨a, listed, fold, brings⟩ := brought
  refine ⟨a, listed, fold, ?_⟩
  by_cases positional : fold.isPositional
  · obtain ⟨name, declared, expression, valid⟩ := brings.positional_clause tidy positional
    have unmarked : Attribute.markOf fold = "" := by cases fold <;> first | rfl | cases positional
    have folds : fold ≠ .count := by
      rintro rfl
      cases positional
    refine ⟨name, brings, by rw [unmarked, expression, String.empty_append], by simp [positional, declared],
      fun tame subject => ?_⟩
    rw [declared, or_iff_right folds]
    simp only [Option.mem_some_iff, forall_eq']
    exact and_congr_right fun nonempty => valid tame nonempty subject
  · obtain ⟨clause, nonempty, expression, valid⟩ := brings.folded_clause tidy positional
    refine ⟨clause, brings, expression, by simp [nonempty, positional], fun tame subject => ?_⟩
    exact (and_iff_right nonempty).trans (valid tame subject)

/-- What readers spent on orders that are not new, the titles that they saw from some places, and their last page. -/
def readersAttributes : List Attribute :=
  let views := [⟨"com.acme", "page_view", "1-0-0"⟩]
  [{ Attribute.ofEvents "spent" .sum [⟨"com.acme", "order", "1-0-0"⟩] with
      property := some "order.total"
      criteria := some ⟨[⟨"order.total", .gtEq, .int 75⟩], [⟨"page.order", .notEq, .str "it's new"⟩]⟩ },
    { Attribute.ofEvents "titles" .uniqueList views with
      property := some "page.title"
      criteria := some ⟨[⟨"geo.country", .isIn, .list [.str "AT", .list [.str "CH", .int 41]]⟩], []⟩ },
    { Attribute.ofEvents "last_page" .last views with property := some "page.url" }]

theorem readersAttributes_tame : ∀ a ∈ readersAttributes, a.IsTame := by
  have property : ∀ a ∈ readersAttributes, ∀ path ∈ a.propertyPath,
      ∀ c ∈ (Column.ofPath path).toList.head?, ¬Text.isDigit c := by decide +kernel
  have conditions : ∀ a ∈ readersAttributes, ∀ c ∈ a.declared, Column.HasName c.property ∧
      ∀ d ∈ (Column.ofPath c.property).toList.head?, ¬Text.isDigit d := by decide +kernel
  have shallow : ∀ a ∈ readersAttributes, ∀ c ∈ a.declared, c.value.nesting ≤ Sql.roomInCase := by decide +kernel
  exact fun a member => ⟨property a member, conditions a member, shallow a member⟩

theorem Models.readers_clauses_valid : ∃ b m, Blueprint.ofAttributes readersAttributes "user_id" = .ok b ∧
    ofBlueprint b = .ok m ∧ m.daily.columns.map (·.function) = ["sum", "array_agg", "last"] ∧
    ∀ column ∈ m.daily.columns, ∃ fold clause, column.expression = Attribute.markOf fold ++ clause ∧ clause ≠ "" ∧
      ∀ subject, Sql.validate subject clause = .ok () := by
  have run : ((Blueprint.ofAttributes readersAttributes "user_id" >>= ofBlueprint).map
      fun m => m.daily.columns.map (·.function)).toOption = some ["sum", "array_agg", "last"] := by
    decide +kernel
  have columns : ∀ a ∈ readersAttributes, ∀ name ∈ a.propertyIn (Ledger.enterAll {} readersAttributes).bindings,
      name ≠ "" ∧ (Sql.Token.word name).keyword ∉ ["STRUCT", "TRIM"] := by decide +kernel
  obtain ⟨b, m, compiled, built, functions⟩ := exists_of_run run
  refine ⟨b, m, compiled, built, functions, fun column member => ?_⟩
  obtain ⟨a, listed, fold, clause, -, expression, -, valid⟩ := daily_clauses_valid_iff compiled built member
  have valid (subject : String) := (valid (readersAttributes_tame a listed) subject).mpr (.inr (columns a listed))
  exact ⟨fold, clause, expression, (valid "").1, fun subject => (valid subject).2⟩

/-- The last and the least value of a path that ends in a word of SQL, and the last one of a path without an end. -/
def unreadable : List Attribute :=
  let views := [⟨"com.acme", "page_view", "1-0-0"⟩]
  [{ Attribute.ofEvents "last_trim" .last views with property := some "page.trim" },
    { Attribute.ofEvents "least_trim" .min views with property := some "page.trim" },
    { Attribute.ofEvents "last_page" .last views with property := some "page:" }]

/-- Models are built of columns whose clauses are no SQL, or nothing at all. -/
theorem Models.unreadable_clauses : ∃ b m, Blueprint.ofAttributes unreadable "user_id" = .ok b ∧
    ofBlueprint b = .ok m ∧
    m.daily.aggregates = [⟨"min_trim_page_view", "min",
      "CASE WHEN event_name IN('page_view') THEN trim ELSE NULL END"⟩] ∧
    m.daily.lastValues = [⟨"last_trim", "last", "trim"⟩, ⟨"last_", "last", ""⟩] ∧
    Sql.validate "least_trim" "CASE WHEN event_name IN('page_view') THEN trim ELSE NULL END" ≠ .ok () ∧
    Sql.validate "last_trim" "trim" ≠ .ok () := by
  have run : ((Blueprint.ofAttributes unreadable "user_id" >>= ofBlueprint).map
      fun m => (m.daily.aggregates, m.daily.lastValues)).toOption =
      some ([⟨"min_trim_page_view", "min", "CASE WHEN event_name IN('page_view') THEN trim ELSE NULL END"⟩],
        [⟨"last_trim", "last", "trim"⟩, ⟨"last_", "last", ""⟩]) := by
    decide +kernel
  have least : (Sql.validate "least_trim"
      "CASE WHEN event_name IN('page_view') THEN trim ELSE NULL END").toOption = none := by decide +kernel
  have last : (Sql.validate "last_trim" "trim").toOption = none := by decide +kernel
  have refused {clause subject : String} (none : (Sql.validate subject clause).toOption = .none) :
      Sql.validate subject clause ≠ .ok () := by
    intro valid
    rw [valid] at none
    cases none
  obtain ⟨b, m, compiled, built, columns⟩ := exists_of_run run
  obtain ⟨aggregates, lastValues⟩ := Prod.mk.inj columns
  exact ⟨b, m, compiled, built, aggregates, lastValues, refused least, refused last⟩

end AttributeStore
