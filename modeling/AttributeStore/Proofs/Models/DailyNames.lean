import AttributeStore.Proofs.Column.Bare
import AttributeStore.Proofs.Models.Buckets
import AttributeStore.Proofs.Models.DailyColumns
import AttributeStore.Proofs.Sql.RowExpression

/-! Names of daily columns. First and last values never share a name with one another; folded days share one where
the names put together for them meet, and an attribute that falls back on its own name may meet any other. -/
namespace AttributeStore

theorem Fold.positional_name_injective {fold fold' : Fold} (first : fold.isPositional) (second : fold'.isPositional)
    {name name' : String} (same : fold.name ++ "_" ++ name = fold'.name ++ "_" ++ name') :
    fold = fold' ∧ name = name' := by
  cases fold <;> cases first <;> cases fold' <;> cases second
  case first.refl.first.refl | last.refl.last.refl => exact ⟨rfl, (String.append_right_inj _).mp same⟩
  all_goals
    have texts := congrArg String.toList same
    simp [Fold.name] at texts

namespace Attribute

variable {bindings : List Column.Binding} {a b : Attribute} {fold fold' : Fold} {column column' : DailyColumn}

/-- The name put together for the attribute's days would be too long. -/
def Overlong (bindings : List Column.Binding) (a : Attribute) (fold : Fold) : Prop :=
  Column.maxLength < (Column.fullName a fold.name (a.propertyIn bindings)).utf8ByteSize

/-- Two attributes whose days are the same fold of the same rows, and of the same column unless rows are counted. -/
structure FoldsLike (bindings : List Column.Binding) (a b : Attribute) : Prop where
  fold : a.fold = b.fold
  filter : ∃ clause, a.filterIn bindings = .ok clause ∧ b.filterIn bindings = .ok clause
  property : a.fold ≠ .ok .count → a.propertyIn bindings = b.propertyIn bindings

/-- First and last values that share a name are one. -/
theorem Brings.eq_of_positional (first : a.Brings bindings fold column) (second : b.Brings bindings fold' column')
    (positional : fold.isPositional) (positional' : fold'.isPositional) (same : column.name = column'.name) :
    column = column' := by
  obtain ⟨name, -, rfl⟩ := first.positional positional
  obtain ⟨name', -, rfl⟩ := second.positional positional'
  obtain ⟨rfl, rfl⟩ := Fold.positional_name_injective positional positional' same
  rfl

/-- The name put together for folded days begins with a letter that no mark of a first or last value begins with. -/
theorem fullName_ne_positional (a : Attribute) (property : Option String) (folds : ¬fold.isPositional)
    (positional : fold'.isPositional) (name : String) :
    Column.fullName a fold.name property ≠ fold'.name ++ "_" ++ name := by
  intro same
  obtain ⟨more, begins⟩ := Column.fullName_fold a fold property
  rw [same] at begins
  cases fold <;> cases fold' <;> simp [Fold.name, Fold.isPositional] at folds positional begins

/-- Folded days share a name with a first or last value only where an attribute falls back on its own name. -/
theorem Brings.overlong (first : a.Brings bindings fold column) (second : b.Brings bindings fold' column')
    (folds : ¬fold.isPositional) (positional : fold'.isPositional) (same : column.name = column'.name) :
    a.Overlong bindings fold ∧ column.name = a.name := by
  obtain ⟨-, named⟩ := first.hasDaily
  obtain ⟨name, -, rfl⟩ := second.positional positional
  simp only [dailyColumn, if_neg folds, Column.daily] at named
  split at named
  case isTrue long => exact ⟨long, (Except.ok.inj named).symm⟩
  case isFalse =>
    exact absurd ((Except.ok.inj named).trans same) (fullName_ne_positional a _ folds positional name)

/-- Folded days that share a name are one column exactly when they are folded alike. -/
theorem Brings.eq_iff_foldsLike (tidy : Column.Tidy bindings) (first : a.Brings bindings fold column)
    (second : b.Brings bindings fold' column') (folds : ¬fold.isPositional) (folds' : ¬fold'.isPositional)
    (same : column.name = column'.name) : column = column' ↔ a.FoldsLike bindings b := by
  obtain ⟨clause, written, -, folded⟩ := first.folded folds
  obtain ⟨clause', written', -, folded'⟩ := second.folded folds'
  have known := first.hasDaily.1
  have known' := second.hasDaily.1
  constructor
  · rintro rfl
    obtain rfl := Plan.dailyFunction_injective (first.function.symm.trans second.function)
    obtain ⟨rfl, property⟩ := Sql.rowExpression_injective (filterIn_nonempty written) (filterIn_nonempty written')
      (propertyIn_isNameChar tidy) (propertyIn_isNameChar tidy) folded folded'
    refine ⟨known.trans known'.symm, ⟨clause, written, written'⟩, fun counts => property fun count => counts ?_⟩
    rw [known, count]
  · rintro ⟨sameFold, ⟨shared, written₁, written₂⟩, property⟩
    obtain rfl : fold = fold' := by
      rw [known, known'] at sameFold
      exact Except.ok.inj sameFold
    obtain rfl : clause = shared := Except.ok.inj (written.symm.trans written₁)
    obtain rfl : clause' = clause := Except.ok.inj (written'.symm.trans written₂)
    have property : fold ≠ .count → a.propertyIn bindings = b.propertyIn bindings :=
      fun counts => property fun count => counts (Except.ok.inj (known.symm.trans count))
    have expression : Sql.rowExpression b.name fold clause' (b.propertyIn bindings) = .ok column.expression :=
      Sql.rowExpression_congr property folded
    have texts := Except.ok.inj (expression.symm.trans folded')
    have functions := first.function.trans second.function.symm
    cases column
    cases column'
    simp_all

end Attribute

/-- What keeps the daily names of some attributes apart. -/
structure DailyNamesApart (bindings : List Column.Binding) (attributes : List Attribute) : Prop where
  /-- Attributes that fold their days under one name fold them alike. -/
  folded : ∀ a ∈ attributes, ∀ b ∈ attributes, ∀ fold fold' name, ¬fold.isPositional → ¬fold'.isPositional →
    a.HasDaily bindings fold name → b.HasDaily bindings fold' name → a.FoldsLike bindings b
  /-- An attribute that falls back on its own name is not called like a first or last value. -/
  fallback : ∀ a ∈ attributes, ∀ b ∈ attributes, ∀ fold fold', ¬fold.isPositional → fold'.isPositional →
    a.HasDaily bindings fold a.name → a.Overlong bindings fold → ¬b.HasDaily bindings fold' a.name

/-- Daily names are apart exactly when a name says which column it is. -/
theorem DailyModel.inj_on_name_iff {attributes : List Attribute} {bindings : List Column.Binding} {plans : List Plan}
    {m : DailyModel} (tidy : Column.Tidy bindings)
    (planned : List.Forall₂ (fun a p => a.planIn bindings = .ok p) attributes plans) (built : ofPlans plans = .ok m) :
    (∀ c ∈ m.columns, ∀ d ∈ m.columns, c.name = d.name → c = d) ↔ DailyNamesApart bindings attributes := by
  have brought {c : DailyColumn} : c ∈ m.columns ↔ ∃ a ∈ attributes, ∃ fold, a.Brings bindings fold c :=
    mem_columns_iff_brings planned built
  constructor
  · intro injective
    constructor
    · intro a member b member' fold fold' name folds folds' has has'
      obtain ⟨c, listed, brings, named⟩ := exists_column planned built member has
      obtain ⟨d, listed', brings', named'⟩ := exists_column planned built member' has'
      have same := named.trans named'.symm
      exact (brings.eq_iff_foldsLike tidy brings' folds folds' same).mp (injective c listed d listed' same)
    · intro a member b member' fold fold' folds positional has long has'
      obtain ⟨c, listed, brings, named⟩ := exists_column planned built member has
      obtain ⟨d, listed', brings', named'⟩ := exists_column planned built member' has'
      obtain rfl := injective c listed d listed' (named.trans named'.symm)
      obtain rfl := Plan.dailyFunction_injective (brings.function.symm.trans brings'.function)
      exact folds positional
  · intro apart c listed d listed' same
    obtain ⟨a, member, fold, brings⟩ := brought.mp listed
    obtain ⟨b, member', fold', brings'⟩ := brought.mp listed'
    by_cases positional : fold.isPositional <;> by_cases positional' : fold'.isPositional
    · exact brings.eq_of_positional brings' positional positional' same
    · obtain ⟨long, named⟩ := brings'.overlong brings positional' positional same.symm
      have has := named ▸ brings'.hasDaily
      have has' := (same.trans named) ▸ brings.hasDaily
      exact absurd has' (apart.fallback b member' a member fold' fold positional' positional has long)
    · obtain ⟨long, named⟩ := brings.overlong brings' positional positional' same
      have has := named ▸ brings.hasDaily
      have has' := (same.symm.trans named) ▸ brings'.hasDaily
      exact absurd has' (apart.fallback a member b member' fold fold' positional positional' has long)
    · have alike := apart.folded a member b member' fold fold' c.name positional positional' brings.hasDaily
        (same ▸ brings'.hasDaily)
      exact (brings.eq_iff_foldsLike tidy brings' positional positional' same).mpr alike

/-- Every final column refers to a daily column by its name. The names say which one it is exactly when attributes
that meet in a name are folded alike and none that falls back on its own name is called like a first or last value. -/
theorem Models.dailyNames_nodup_iff {attributes : List Attribute} {entityKey : String} {b : Blueprint} {m : Models}
    (compiled : Blueprint.ofAttributes attributes entityKey = .ok b) (built : ofBlueprint b = .ok m) :
    let bindings := (Ledger.enterAll {} attributes).bindings
    (∀ bucket, ∀ c ∈ m.buckets.get bucket, ∃ d ∈ m.daily.columns, d.name = c.dailyName) ∧
    ((m.daily.columns.map (·.name)).Nodup ↔ DailyNamesApart bindings attributes) ∧
    (DailyNamesApart bindings attributes →
      ∀ bucket, ∀ c ∈ m.buckets.get bucket, ∃! d, d ∈ m.daily.columns ∧ d.name = c.dailyName) := by
  intro bindings
  obtain ⟨plans, planned, rfl⟩ := Blueprint.ofAttributes_eq_ok_iff.mp compiled
  obtain ⟨-, daily, buckets⟩ := ofBlueprint_eq_ok_iff.mp built
  have tidy : Column.Tidy bindings := Ledger.enterAll_tidy attributes
  have injective := DailyModel.inj_on_name_iff tidy planned daily
  have refers : ∀ bucket, ∀ c ∈ m.buckets.get bucket, ∃ d ∈ m.daily.columns, d.name = c.dailyName := by
    intro bucket c listed
    obtain ⟨p, member, final⟩ := (Buckets.mem_get buckets).mp listed
    obtain ⟨a, declared, plan⟩ := (exists_of_mapM_eq_ok (mapM_eq_ok_iff.mpr planned)).2 p member
    obtain ⟨fold, d, brings, -⟩ := DailyModel.exists_brings planned daily declared
    refine ⟨d, (DailyModel.mem_columns_iff_brings planned daily).mpr ⟨a, declared, fold, brings⟩, ?_⟩
    obtain ⟨p', plan', entry⟩ := brings
    obtain rfl := Except.ok.inj (plan.symm.trans plan')
    exact Option.some.inj ((Plan.dailyEntry_name entry).symm.trans (Plan.finalColumn_dailyName final))
  refine ⟨refers, ?_, fun apart bucket c listed => ?_⟩
  · rw [List.nodup_map_iff_inj_on (DailyModel.columns_nodup daily), injective]
  · obtain ⟨d, member, named⟩ := refers bucket c listed
    refine ⟨d, ⟨member, named⟩, fun e ⟨member', named'⟩ => ?_⟩
    exact injective.mpr apart e member' d member (named'.trans named.symm)

/-- Visits from one country. -/
def visitsFrom (country : String) : Attribute :=
  { Attribute.ofEvents ("visits_from_" ++ country) .counter [⟨"com.acme", "page_view", "1-0-0"⟩] with
    criteria := some ⟨[⟨"geo.country", .eq, .str country⟩], []⟩ }

/-- Visits from two countries are counted in columns of their own, and each final column reads one of them. -/
theorem Models.dailyNames_of_visits :
    let visits := [visitsFrom "US", visitsFrom "DE"]
    ∃ b m, Blueprint.ofAttributes visits "user_id" = .ok b ∧ ofBlueprint b = .ok m ∧
      m.daily.columns.map (·.name) = ["count_page_view_country_eq_us", "count_page_view_country_eq_de"] ∧
      DailyNamesApart (Ledger.enterAll {} visits).bindings visits ∧
      ∀ bucket, ∀ c ∈ m.buckets.get bucket, ∃! d, d ∈ m.daily.columns ∧ d.name = c.dailyName := by
  intro visits
  have run : ((Blueprint.ofAttributes visits "user_id" >>= ofBlueprint).map fun m =>
      m.daily.columns.map (·.name)).toOption =
        some ["count_page_view_country_eq_us", "count_page_view_country_eq_de"] := by
    decide +kernel
  obtain ⟨b, m, compiled, built, names⟩ := exists_of_run run
  obtain ⟨-, nodup, unique⟩ := dailyNames_nodup_iff compiled built
  have apart := nodup.mp (by rw [names]; decide)
  exact ⟨b, m, compiled, built, names, apart, unique apart⟩

/-- A value is lowered inside a name but not inside a filter: visits from `US` and from `us` are two columns of one
name. -/
theorem Models.dailyNames_of_two_spellings : ([visitsFrom "US", visitsFrom "us"].map (·.name)).Nodup ∧
    ∃ b m, Blueprint.ofAttributes [visitsFrom "US", visitsFrom "us"] "user_id" = .ok b ∧ ofBlueprint b = .ok m ∧
      m.daily.columns.map (·.name) = ["count_page_view_country_eq_us", "count_page_view_country_eq_us"] ∧
      ¬(m.daily.columns.map (·.name)).Nodup := by
  have run : ((Blueprint.ofAttributes [visitsFrom "US", visitsFrom "us"] "user_id" >>= ofBlueprint).map fun m =>
      m.daily.columns.map (·.name)).toOption =
        some ["count_page_view_country_eq_us", "count_page_view_country_eq_us"] := by
    decide +kernel
  obtain ⟨b, m, compiled, built, names⟩ := exists_of_run run
  refine ⟨by decide, b, m, compiled, built, names, ?_⟩
  rw [names]
  decide

end AttributeStore
