import AttributeStore.Proofs.Models.Faults
import AttributeStore.Proofs.Plan.BareColumns
import AttributeStore.Proofs.Plan.Reachable
import AttributeStore.Proofs.Sql.Validity

/-! Filters of compiled attributes. Where a filter's values fit their operators and its paths leave names, it can be
written, and what is written is valid SQL, unless it stands on a column called `struct` or `trim`: these two are never
names to SQL, and nothing keeps columns from them. -/
namespace AttributeStore

theorem Criterion.Fits.writes {c : Criterion} (fits : c.Fits) (subject : String) (e : CompileError) :
    Sql.condition subject c ≠ .error e := by
  intro fails
  obtain ⟨ordering, unordered, -⟩ := Sql.condition_eq_error_iff.mp fails
  unfold Fits at fits
  cases operator : c.operator <;> rw [operator] at ordering fits <;> try cases ordering
  all_goals cases value : c.value <;> rw [value] at fits unordered <;> first | exact fits.elim | exact unordered rfl

theorem Sql.exists_clause (subject : String) {c : Criteria} (fits : ∀ d ∈ c.all ++ c.any, d.Fits) :
    ∃ text, clause subject c = .ok text := by
  cases written : clause subject c with
  | ok text => exact ⟨text, rfl⟩
  | error e =>
    obtain ⟨d, member, fails⟩ := clause_eq_error written
    exact absurd fails ((fits d member).writes subject e)

namespace Attribute

variable {a : Attribute}

theorem fits_of_criteriaIn (events : a.events ≠ []) (fits : ∀ c ∈ a.declared, c.Fits) (bindings : List Column.Binding) :
    ∀ c ∈ (a.criteriaIn bindings).all ++ (a.criteriaIn bindings).any, c.Fits := by
  rw [criteriaIn_conditions, List.forall_mem_cons]
  refine ⟨?event, ?declared⟩
  case event => exact .inr ⟨_, rfl, by simpa using events, by simp [Operand.IsScalar]⟩
  case declared =>
    intro c member
    obtain ⟨d, declared, rfl⟩ := List.mem_map.mp member
    exact fits d declared

theorem bare_of_criteriaIn {bindings : List Column.Binding} (tidy : Column.Tidy bindings)
    (named : ∀ c ∈ a.declared, Column.HasName c.property ∧
      ∀ d ∈ (Column.ofPath c.property).toList.head?, ¬Text.isDigit d) :
    ∀ c ∈ (a.criteriaIn bindings).all ++ (a.criteriaIn bindings).any, Column.IsBare c.property := by
  rw [criteriaIn_conditions, List.forall_mem_cons]
  refine ⟨eventNameColumn_bare, fun c member => ?_⟩
  obtain ⟨d, declared, rfl⟩ := List.mem_map.mp member
  obtain ⟨leavesName, undigited⟩ := named d declared
  exact (tidy.columnIn_suits d.property).bare leavesName undigited

/-- The filter of a compiled attribute is valid exactly if none of its columns is one of the two words that are never
names. -/
theorem filter_valid_iff {l : Ledger} (reached : l.Reachable) {p : Plan} (accepted : (a.compile.run.run l).1 = .ok p)
    (events : a.events ≠ []) (named : ∀ c ∈ a.declared, Column.HasName c.property ∧
      ∀ d ∈ (Column.ofPath c.property).toList.head?, ¬Text.isDigit d) (fits : ∀ c ∈ a.declared, c.Fits) :
    ∃ criteria clause, p.daily.criteria = some criteria ∧ Sql.clause a.name criteria = .ok clause ∧
      (Sql.validate a.name clause = .ok () ↔
        ∀ c ∈ criteria.all ++ criteria.any, (Sql.Token.word c.property).keyword ∉ ["STRUCT", "TRIM"]) := by
  obtain ⟨l', run, -⟩ := compile_run a l reached.tidy
  rw [run] at accepted
  obtain ⟨fold, daily, -, -, -, rfl⟩ := planIn_eq_ok_iff.mp accepted
  have tidy : Column.Tidy (l.enter a).bindings := reached.tidy.registerAll a.paths
  have fitting := fits_of_criteriaIn events fits (l.enter a).bindings
  obtain ⟨clause, written⟩ := Sql.exists_clause a.name fitting
  have filters : (a.criteriaIn (l.enter a).bindings).all ≠ [] := by
    obtain ⟨others, listed⟩ := criteriaIn_event a (l.enter a).bindings
    simp [listed]
  exact ⟨_, clause, rfl, written, Sql.validate_clause_iff (bare_of_criteriaIn tidy named) fitting filters written⟩

/-- Page views of readers who went on, or who came from two countries. -/
def engagedViews : Attribute :=
  { Attribute.ofEvents "engaged_views" .counter [⟨"com.acme", "page_view", "1-0-0"⟩] with
    criteria := some ⟨[], [⟨"page.depth", .gtEq, .int 75⟩, ⟨"page.order", .notEq, .str "it's new"⟩,
      ⟨"geo.country", .isIn, .list [.str "AT", .str "CH"]⟩]⟩ }

theorem engagedViews_valid : ∃ p criteria clause, (engagedViews.compile.run.run {}).1 = .ok p ∧
    p.daily.criteria = some criteria ∧ Sql.clause "engaged_views" criteria = .ok clause ∧
    Sql.validate "engaged_views" clause = .ok () := by
  have run : ((engagedViews.compile.run.run {}).1.map fun p => p.daily.criteria.map fun criteria =>
      (criteria.all ++ criteria.any).map (·.property)).toOption =
      some (some ["event_name", "depth", "order_col", "country"]) := by decide +kernel
  obtain ⟨p, accepted, columns⟩ := map_eq_ok_iff.mp (eq_ok_of_toOption run)
  have fits : ∀ c ∈ engagedViews.declared, c.Fits := by
    have declared : engagedViews.declared = [⟨"page.depth", .gtEq, .int 75⟩, ⟨"page.order", .notEq, .str "it's new"⟩,
      ⟨"geo.country", .isIn, .list [.str "AT", .str "CH"]⟩] := rfl
    rw [declared]
    simp only [List.forall_mem_cons, List.not_mem_nil, false_imp_iff, implies_true, and_true]
    exact ⟨trivial, trivial, .inr ⟨_, rfl, by simp, by simp [Operand.IsScalar]⟩⟩
  obtain ⟨criteria, clause, carried, written, valid⟩ :=
    filter_valid_iff .empty accepted (by decide) (by decide +kernel) fits
  refine ⟨p, criteria, clause, accepted, carried, written, valid.mpr fun c member => ?_⟩
  have other : ∀ name ∈ ["event_name", "depth", "order_col", "country"],
      (Sql.Token.word name).keyword ∉ ["STRUCT", "TRIM"] := by decide +kernel
  rw [carried] at columns
  exact other _ (Option.some.inj columns ▸ List.mem_map_of_mem member)

/-- Page views with a filter on a path that ends in a word of SQL. -/
def trimmedViews : Attribute :=
  { Attribute.ofEvents "trimmed_views" .counter [⟨"com.acme", "page_view", "1-0-0"⟩] with
    criteria := some ⟨[⟨"page.trim", .eq, .str "x"⟩], []⟩ }

theorem trimmedViews_invalid : ∃ p criteria clause, (trimmedViews.compile.run.run {}).1 = .ok p ∧
    trimmedViews.events ≠ [] ∧ (∀ c ∈ trimmedViews.declared, Column.HasName c.property ∧
      (∀ d ∈ (Column.ofPath c.property).toList.head?, ¬Text.isDigit d) ∧ c.Fits) ∧
    p.daily.criteria = some criteria ∧ Sql.clause "trimmed_views" criteria = .ok clause ∧
    clause = "event_name IN('page_view') AND trim = 'x'" ∧ Sql.validate "trimmed_views" clause ≠ .ok () := by
  have run : ((trimmedViews.compile.run.run {}).1.toOption.bind fun p => p.daily.criteria.bind fun criteria =>
      (Sql.clause "trimmed_views" criteria).toOption) = some "event_name IN('page_view') AND trim = 'x'" := by
    decide +kernel
  have invalid : (Sql.validate "trimmed_views" "event_name IN('page_view') AND trim = 'x'").toOption = none := by
    decide +kernel
  obtain ⟨p, accepted, filter⟩ := Option.bind_eq_some_iff.mp run
  obtain ⟨criteria, carried, written⟩ := Option.bind_eq_some_iff.mp filter
  have declared : trimmedViews.declared = [⟨"page.trim", .eq, .str "x"⟩] := rfl
  refine ⟨p, criteria, _, eq_ok_of_toOption accepted, by decide, ?_, carried, eq_ok_of_toOption written, rfl, ?_⟩
  · rw [declared, List.forall_mem_singleton]
    exact ⟨by decide +kernel, by decide +kernel, trivial⟩
  · intro valid
    rw [valid] at invalid
    cases invalid

end Attribute

end AttributeStore
