import AttributeStore.Proofs.Models.Buckets
import AttributeStore.Proofs.Models.DailyColumns
import AttributeStore.Proofs.Models.Days

/-! Filters over days. A fold takes nothing from a row that its filter refuses. A first or last value does: its daily
column is the bare property, and the row that it comes from is picked by time alone. -/
namespace AttributeStore

namespace Attribute

variable {bindings : List Column.Binding} {a : Attribute} {fold : Fold} {column : DailyColumn}

/-- A row that passes the filter of an attribute: its events and its conditions, read as SQL, are true there. -/
def Passes (bindings : List Column.Binding) (a : Attribute) (W : Sql.Warehouse) (row : W.Row) : Prop :=
  ∃ clause tree, a.filterIn bindings = .ok clause ∧ Sql.Expr.parse clause = .ok tree ∧
    W.holds (tree.eval W row) = some true

/-- An attribute over plain columns and values, whose property is not the name of its events. -/
structure IsPlain (bindings : List Column.Binding) (a : Attribute) : Prop where
  all : ∀ c ∈ (a.criteriaIn bindings).all, c.IsPlain
  any : ∀ c ∈ (a.criteriaIn bindings).any, c.IsPlain
  property : ∀ name ∈ a.propertyIn bindings, Sql.Grammar.IsColumn name ∧ name ≠ eventNameColumn

/-- A fold reads nothing off a row that does not pass. -/
theorem Brings.reads_folded (brings : a.Brings bindings fold column) (tidy : Column.Tidy bindings)
    (folds : ¬fold.isPositional) (W : Sql.Warehouse) : ∃ read, W.Reads column.expression read ∧
      ∀ r s, ¬a.Passes bindings W r → ¬a.Passes bindings W s → read r = read s := by
  obtain ⟨clause, written, valid, expression⟩ := brings.folded folds
  have filters := filterIn_nonempty written
  obtain ⟨tree, parsed⟩ := Sql.validate_parsed filters valid
  rw [Sql.rowExpression_filtered filters] at expression
  split at expression
  case h_2 => cases expression
  case h_1 result counts =>
    have simple := Sql.Warehouse.simple_counted (propertyIn_isNameChar tidy) counts
    obtain ⟨value, read⟩ := W.reads_guarded fold parsed simple
    rw [Except.ok.inj expression] at read
    refine ⟨_, read, fun r s refused refused' => ?_⟩
    have other (row : W.Row) (refused : ¬a.Passes bindings W row) :
        W.choose tree (W.term result) (fun _ => value) row = value :=
      if_neg fun holds => refused ⟨clause, tree, written, parsed, holds⟩
    rw [other r refused, other s refused']

/-- A first or last value reads its property, whatever the filter. -/
theorem Brings.reads_positional (brings : a.Brings bindings fold column) (tidy : Column.Tidy bindings)
    (positional : fold.isPositional) (W : Sql.Warehouse) : a.propertyIn bindings = some column.expression ∧
      (column.function = "first" ∨ column.function = "last") ∧
      W.Reads column.expression (W.term column.expression) := by
  obtain ⟨name, declared, rfl⟩ := brings.positional positional
  refine ⟨declared, ?_, .term (Sql.Warehouse.simple_of_isNameChar (propertyIn_isNameChar tidy name declared))⟩
  cases fold <;> cases positional
  · exact .inl rfl
  · exact .inr rfl

theorem IsPlain.holds_of_passes (plain : a.IsPlain bindings) {W : Sql.Warehouse} {row : W.Row}
    (passes : a.Passes bindings W row) : (a.criteriaIn bindings).holds W row = some true := by
  obtain ⟨clause, tree, written, parsed, holds⟩ := passes
  have meant := Sql.parse_clause plain.all plain.any written
  cases known : Sql.clauseTree? (a.criteriaIn bindings) with
  | none =>
    obtain ⟨others, listed⟩ := criteriaIn_event a bindings
    simp [Sql.clauseTree?_eq_none.mp known] at listed
  | some tree' =>
    rw [known] at meant
    obtain rfl := Except.ok.inj (parsed.symm.trans meant)
    rw [← Sql.holds_clauseTree W row plain.all plain.any known, holds]

/-- A row of no event passes no filter. -/
theorem IsPlain.not_passes (plain : a.IsPlain bindings) {W : Sql.Warehouse} {row : W.Row}
    (unnamed : row eventNameColumn = none) : ¬a.Passes bindings W row := by
  intro passes
  obtain ⟨others, listed⟩ := criteriaIn_event a bindings
  have holds := plain.holds_of_passes passes
  rw [Criteria.holds, listed, List.map_cons, Sql.Truth.all, List.foldr_cons] at holds
  have event := (Sql.Truth.and_eq_true.mp (Sql.Truth.and_eq_true.mp holds).1).1
  refine Sql.Truth.any_unknown ?_ event
  intro t member
  obtain ⟨item, -, rfl⟩ := List.mem_map.mp member
  simp [eventCondition, Sql.Warehouse.equals, Sql.Warehouse.order, unnamed]

/-- A first or last value over plain columns does not honour its filter, whatever that is. -/
theorem IsPlain.not_honours (plain : a.IsPlain bindings) {W : Sql.Warehouse} (D : Sql.Days W) {name : String}
    (declared : a.propertyIn bindings = some name) (function : column.function = "first" ∨ column.function = "last") :
    ¬D.Honours column (W.term name) (a.Passes bindings W) (a.propertyIn bindings) := by
  obtain ⟨isColumn, other⟩ := plain.property name declared
  rw [D.honours_positional_iff function]
  intro unread
  have same := unread (fun _ => none) (fun c => if c = name then some (W.int 0) else none) {
    before := plain.not_passes rfl
    after := plain.not_passes (if_neg other.symm)
    others := fun c different => by
      rw [if_neg]
      rintro rfl
      exact different declared }
  rw [W.term_column isColumn, W.term_column isColumn, if_pos rfl] at same
  cases same

end Attribute

/-- Every fold honours its attribute's filter. A first or last value is the bare property of the row that is picked,
and honours the filter only where it could not be told from other rows that do not pass; over plain columns it never
does. -/
theorem Models.days_honour_filters_iff {attributes : List Attribute} {entityKey : String} {b : Blueprint} {m : Models}
    (compiled : Blueprint.ofAttributes attributes entityKey = .ok b) (built : ofBlueprint b = .ok m) {a : Attribute}
    (member : a ∈ attributes) (W : Sql.Warehouse) (D : Sql.Days W) :
    let bindings := (Ledger.enterAll {} attributes).bindings
    let passes := a.Passes bindings W
    let property := a.propertyIn bindings
    ∃ fold column read, a.HasDaily bindings fold column.name ∧ column ∈ m.daily.listOf fold ∧
      W.Reads column.expression read ∧
      (¬fold.isPositional → D.Honours column read passes property) ∧
      (fold.isPositional → property = some column.expression ∧
        (D.Honours column read passes property ↔ ∀ r s, Sql.Days.Exchanged passes property r s → read r = read s)) ∧
      (a.IsPlain bindings → (D.Honours column read passes property ↔ ¬fold.isPositional)) := by
  intro bindings passes property
  obtain ⟨plans, planned, rfl⟩ := Blueprint.ofAttributes_eq_ok_iff.mp compiled
  obtain ⟨-, daily, -⟩ := ofBlueprint_eq_ok_iff.mp built
  have tidy : Column.Tidy bindings := Ledger.enterAll_tidy attributes
  obtain ⟨fold, column, brings, listed⟩ := DailyModel.exists_brings planned daily member
  by_cases positional : fold.isPositional
  · obtain ⟨declared, function, reads⟩ := brings.reads_positional tidy positional W
    refine ⟨fold, column, _, brings.hasDaily, listed, reads, fun folds => absurd positional folds,
      fun _ => ⟨declared, D.honours_positional_iff function⟩, fun plain => ?_⟩
    exact iff_of_false (plain.not_honours D declared function) (not_not.mpr positional)
  · obtain ⟨read, reads, unread⟩ := brings.reads_folded tidy positional W
    have honours : D.Honours column read passes property :=
      D.honours_of_read column fun r s exchanged => unread r s exchanged.before exchanged.after
    exact ⟨fold, column, read, brings.hasDaily, listed, reads, fun _ => honours, fun folds => absurd folds positional,
      fun _ => iff_of_true honours positional⟩

/-- The first referrer of a visitor, of visits from one country. -/
def firstReferrerFromUS : Attribute :=
  { Attribute.ofEvents "first_referrer_us" .first [⟨"com.acme", "page_view", "1-0-0"⟩] with
    property := some "page.referrer"
    criteria := some ⟨[⟨"geo.country", .eq, .str "US"⟩], []⟩ }

theorem firstReferrerFromUS_plain :
    firstReferrerFromUS.IsPlain (Ledger.enterAll {} [firstReferrerFromUS]).bindings := by
  have criteria : firstReferrerFromUS.criteriaIn (Ledger.enterAll {} [firstReferrerFromUS]).bindings =
      ⟨[⟨"event_name", .isIn, .list [.str "page_view"]⟩, ⟨"country", .eq, .str "US"⟩], []⟩ := rfl
  have property : firstReferrerFromUS.propertyIn (Ledger.enterAll {} [firstReferrerFromUS]).bindings =
      some "referrer" := rfl
  constructor
  · rw [criteria]
    simp only [List.forall_mem_cons, List.not_mem_nil, false_imp_iff, implies_true, and_true]
    exact ⟨⟨by decide, .inr ⟨_, rfl, by simp, by simp [Operand.IsScalar]⟩⟩, ⟨by decide, .inl trivial⟩⟩
  · rw [criteria]
    simp
  · rw [property]
    simp only [Option.mem_some_iff, forall_eq']
    exact ⟨by decide, by decide⟩

theorem firstReferrerFromUS_run : ∃ b m, Blueprint.ofAttributes [firstReferrerFromUS] "user_id" = .ok b ∧
    Models.ofBlueprint b = .ok m ∧ m.daily.firstValues = [⟨"first_referrer", "first", "referrer"⟩] := by
  have run : ((Blueprint.ofAttributes [firstReferrerFromUS] "user_id" >>= Models.ofBlueprint).map
      fun m => m.daily.firstValues).toOption = some [⟨"first_referrer", "first", "referrer"⟩] := by
    decide +kernel
  exact Models.exists_of_run run

theorem Models.days_of_first_referrer : ∃ b m, Blueprint.ofAttributes [firstReferrerFromUS] "user_id" = .ok b ∧
    ofBlueprint b = .ok m ∧ ∀ (W : Sql.Warehouse) (D : Sql.Days W),
      let bindings := (Ledger.enterAll {} [firstReferrerFromUS]).bindings
      ∃ fold column read, column ∈ m.daily.listOf fold ∧ W.Reads column.expression read ∧
        (D.Honours column read (firstReferrerFromUS.Passes bindings W) (firstReferrerFromUS.propertyIn bindings) ↔
          ¬fold.isPositional) := by
  obtain ⟨b, m, compiled, built, -⟩ := firstReferrerFromUS_run
  refine ⟨b, m, compiled, built, fun W D => ?_⟩
  obtain ⟨fold, column, read, -, listed, reads, -, -, plain⟩ :=
    days_honour_filters_iff compiled built (List.mem_singleton_self firstReferrerFromUS) W D
  exact ⟨fold, column, read, listed, reads, plain firstReferrerFromUS_plain⟩

/-- The first referrer of visits from one country is that of any visit. -/
theorem Models.first_referrer_from_anywhere :
    ∃ b m, Blueprint.ofAttributes [firstReferrerFromUS] "user_id" = .ok b ∧ ofBlueprint b = .ok m ∧
      m.daily.firstValues = [⟨"first_referrer", "first", "referrer"⟩] ∧ ∀ (W : Sql.Warehouse) (D : Sql.Days W),
        ¬D.Honours ⟨"first_referrer", "first", "referrer"⟩ (W.term "referrer")
          (firstReferrerFromUS.Passes (Ledger.enterAll {} [firstReferrerFromUS]).bindings W) (some "referrer") := by
  obtain ⟨b, m, compiled, built, columns⟩ := firstReferrerFromUS_run
  exact ⟨b, m, compiled, built, columns, fun W D => firstReferrerFromUS_plain.not_honours D rfl (.inl rfl)⟩

end AttributeStore
