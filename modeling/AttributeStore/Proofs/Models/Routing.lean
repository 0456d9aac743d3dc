import AttributeStore.Proofs.Models.Buckets
import AttributeStore.Proofs.Plan.ColumnBinding

/-! Where attributes end up. Each attribute of a view has one final column, in the bucket that its aggregation and its
window call for. The column is computed from a daily column that is there, and no daily column is there for nothing. -/
namespace AttributeStore

theorem distinct_of_nodup [DecidableEq α] {items : List α} (nodup : items.Nodup) : distinct items = items := by
  induction items using List.reverseRecOn with
  | nil => rfl
  | append_singleton items item ih =>
    obtain ⟨others, -, apart⟩ := List.nodup_append.mp nodup
    rw [distinct_append_singleton, ih others, if_neg fun again => apart item again item (by simp) rfl]

/-- A list sorted by a key, one key after another, is the list in another order. -/
theorem flatMap_filter_perm [DecidableEq κ] (key : α → κ) {keys : List κ} (once : keys.Nodup) (items : List α)
    (covered : ∀ item ∈ items, key item ∈ keys) :
    (keys.flatMap fun k => items.filter (key · = k)).Perm items := by
  induction keys generalizing items with
  | nil =>
    cases items with
    | nil => exact .refl []
    | cons item rest => exact absurd (covered item (by simp)) List.not_mem_nil
  | cons k keys ih =>
    obtain ⟨new, once⟩ := List.nodup_cons.mp once
    -- the items of the other keys are those that are left without this one
    have left : (keys.flatMap fun k' => items.filter (key · = k')) =
        keys.flatMap fun k' => (items.filter (!key · = k)).filter (key · = k') := by
      refine List.flatMap_congr fun k' member => ?_
      rw [List.filter_filter]
      refine List.filter_congr fun item _ => ?_
      by_cases same : key item = k'
      · have other : k' ≠ k := fun again => new (again ▸ member)
        simp [same, other]
      · simp [same]
    have others := ih once (items.filter (!key · = k)) fun item member => by
      obtain ⟨listed, other⟩ := List.mem_filter.mp member
      exact (List.mem_cons.mp (covered item listed)).resolve_left (by simpa using other)
    rw [List.flatMap_cons, left]
    exact (others.append_left _).trans (List.filter_append_perm _ items)

/-- The bucket that an attribute's aggregation and window call for. -/
def Attribute.bucket (a : Attribute) : Bucket :=
  match a.aggregation with
  | .first => .firstValue
  | .last => .lastValue
  | .uniqueList => .uniqueList
  | _ => if a.period.isSome then .lastNDays else .lifetime

/-- The daily columns from which the final columns of a bucket are computed. -/
def DailyModel.behind (m : DailyModel) : Bucket → List DailyColumn
  | .firstValue => m.firstValues
  | .lastValue => m.lastValues
  | _ => m.aggregates

/-- Each plan has its daily column. -/
theorem DailyModel.exists_entry {plans : List Plan} {m : DailyModel} (built : ofPlans plans = .ok m) {p : Plan}
    (member : p ∈ plans) : ∃ fold column, p.dailyEntry = .ok (fold, column) := by
  rw [ofPlans_eq, map_eq_ok_iff] at built
  obtain ⟨entries, read, -⟩ := built
  obtain ⟨⟨fold, column⟩, -, entry⟩ := (exists_of_mapM_eq_ok read).1 p member
  exact ⟨fold, column, entry⟩

theorem Plan.finalColumn_eq {p : Plan} {fold : Fold} {days : Option Int64} {dailyName name : String}
    (folds : p.final.fold = some fold) (windowed : p.final.windowDays p.attributeName = .ok days)
    (daily : p.daily.column = some dailyName) (named : p.final.column = some name) :
    p.finalColumn = .ok (⟨dailyName, name, days,
      if Bucket.route fold days = .uniqueList then "array_agg" else fold.name⟩, Bucket.route fold days) := by
  have known : p.final.foldOf p.attributeName = .ok fold := by rw [Step.foldOf, folds]
  have dailyKnown : p.daily.columnOf p.attributeName = .ok dailyName := by rw [Step.columnOf, daily]
  have nameKnown : p.final.columnOf p.attributeName = .ok name := by rw [Step.columnOf, named]
  simp only [finalColumn, known, windowed, dailyKnown, nameKnown, bind, Except.bind]
  rfl

/-- The days of a period are few enough for a window. -/
theorem Period.toInt_numDays (p : Period) : (Int64.ofNat p.numDays).toInt = p.numDays := by
  have short : p.numDays < 2 ^ 63 := by
    have bound := p.seconds_le
    simp only [Period.numDays, Period.perDay, Period.maxSeconds] at bound ⊢
    omega
  exact Int64.toInt_ofNat_of_lt short

namespace Attribute

variable {a : Attribute} {bindings : List Column.Binding} {p : Plan} {fold : Fold}

theorem route_rollup (known : a.fold = .ok fold) {days : Option Int64} (windowed : days.isSome = a.period.isSome) :
    Bucket.route fold.rollup days = a.bucket := by
  rw [fold_eq_ok_iff] at known
  unfold bucket
  cases kind : a.aggregation <;> rw [kind] at known <;> cases known <;> simp [Fold.rollup, Bucket.route, windowed]

theorem listOf_eq_behind (known : a.fold = .ok fold) (m : DailyModel) : m.listOf fold = m.behind a.bucket := by
  rw [fold_eq_ok_iff] at known
  unfold bucket
  cases kind : a.aggregation <;> rw [kind] at known <;> cases known <;> dsimp only
  case counter | sum | min | max => split <;> rfl
  all_goals rfl

/-- The window of a final step is read as it was written. -/
theorem windowDays_window (subject : String) {s : Step} (carried : s.criteria = a.window) :
    s.windowDays subject = .ok (a.period.map fun p => Int64.ofNat p.numDays) := by
  unfold Step.windowDays
  rw [carried, window]
  cases a.period with
  | none => rfl
  | some p => simp [Step.find?]

/-- The final column of an attribute has its name and its window, and is computed from its daily column. -/
theorem finalColumn_eq_of_planIn (planned : a.planIn bindings = .ok p) : ∃ fold daily, a.fold = .ok fold ∧
    a.dailyColumn fold (a.propertyPath.map (Column.columnIn bindings)) = .ok daily ∧
    p.finalColumn = .ok (⟨daily, a.name, a.period.map fun p => Int64.ofNat p.numDays,
      if a.bucket = .uniqueList then "array_agg" else fold.rollup.name⟩, a.bucket) := by
  obtain ⟨fold, daily, known, -, named, rfl⟩ := planIn_eq_ok_iff.mp planned
  have column := Plan.finalColumn_eq (p := a.assemble fold (a.propertyPath.map (Column.columnIn bindings)) daily
    (a.criteriaIn bindings)) rfl (windowDays_window a.name rfl) rfl rfl
  rw [route_rollup known (by simp)] at column
  exact ⟨fold, daily, known, named, column⟩

/-- The plan of an attribute has a final column of the attribute's name, in the attribute's bucket. -/
theorem finalColumn_of_planIn (planned : a.planIn bindings = .ok p) :
    ∃ column, p.finalColumn = .ok (column, a.bucket) ∧ column.name = a.name := by
  obtain ⟨_, _, -, -, column⟩ := finalColumn_eq_of_planIn planned
  exact ⟨_, column, rfl⟩

/-- The final column of an attribute is computed from its daily column, which stands in the list behind its bucket. -/
theorem linked_of_planIn (planned : a.planIn bindings = .ok p) {column : DailyColumn} {final : FinalColumn}
    {bucket : Bucket} (entry : p.dailyEntry = .ok (fold, column)) (computed : p.finalColumn = .ok (final, bucket))
    (m : DailyModel) : column.name = final.dailyName ∧ m.listOf fold = m.behind bucket := by
  obtain ⟨final', same, -⟩ := finalColumn_of_planIn planned
  obtain ⟨rfl, rfl⟩ := Prod.mk.inj (Except.ok.inj (computed.symm.trans same))
  have named := (Plan.dailyEntry_name entry).symm.trans (Plan.finalColumn_dailyName computed)
  refine ⟨Option.some.inj named, ?_⟩
  obtain ⟨fold', _, known, -, -, rfl⟩ := planIn_eq_ok_iff.mp planned
  obtain ⟨_, sameFold, -⟩ := Plan.dailyEntry_eq_ok_iff.mp entry
  cases sameFold
  exact listOf_eq_behind known m

end Attribute

/-- The columns of one bucket, in their order, are those of the attributes that are sent there. -/
theorem Buckets.select_names {attributes : List Attribute} {plans : List Plan} {entries : List (FinalColumn × Bucket)}
    (planned : List.Forall₂ (fun a p => ∃ column, Plan.finalColumn p = .ok (column, a.bucket) ∧ column.name = a.name)
      attributes plans)
    (read : List.Forall₂ (fun p entry => Plan.finalColumn p = .ok entry) plans entries) (bucket : Bucket) :
    (select bucket entries).map (·.name) = (attributes.filter (·.bucket = bucket)).map (·.name) := by
  induction planned generalizing entries with
  | nil =>
    cases read
    rfl
  | @cons a p _ _ first _ ih =>
    obtain ⟨entry, rest, run, others, rfl⟩ := List.forall₂_cons_left_iff.mp read
    obtain ⟨column, same, named⟩ := first
    obtain rfl : entry = (column, a.bucket) := Except.ok.inj (run.symm.trans same)
    have behind := ih others
    simp only [select] at behind ⊢
    by_cases here : a.bucket = bucket
    · simp [here, named, behind]
    · simp [here, Ne.symm here, behind]

/-- No attribute is lost, merged or left without what it is computed from. Of attributes with names of their own, each
bucket holds those that it is called for, once each and in their order, and all buckets together hold all of them. Each
final column is computed from a daily column in the list behind its bucket, and each daily column has such a final
column. -/
theorem Models.buckets_of_attributes {attributes : List Attribute} {entityKey : String} {b : Blueprint} {m : Models}
    (named : (attributes.map (·.name)).Nodup) (compiled : Blueprint.ofAttributes attributes entityKey = .ok b)
    (built : ofBlueprint b = .ok m) :
    (∀ bucket, (m.buckets.get bucket).map (·.name) = (attributes.filter (·.bucket = bucket)).map (·.name)) ∧
      ((Bucket.all.flatMap m.buckets.get).map (·.name)).Perm (attributes.map (·.name)) ∧
      (∀ bucket, ∀ final ∈ m.buckets.get bucket, ∃ column ∈ m.daily.behind bucket, column.name = final.dailyName) ∧
      ∀ column ∈ m.daily.columns, ∃ bucket, column ∈ m.daily.behind bucket ∧
        ∃ final ∈ m.buckets.get bucket, final.dailyName = column.name := by
  obtain ⟨-, daily, buckets⟩ := ofBlueprint_eq_ok_iff.mp built
  obtain ⟨plans, planned, rfl⟩ := Blueprint.ofAttributes_eq_ok_iff.mp compiled
  obtain ⟨entries, read, held⟩ := Buckets.get_of_ofPlans buckets
  have origin := (exists_of_mapM_eq_ok (mapM_eq_ok_iff.mpr planned)).2
  have names (bucket : Bucket) :
      (m.buckets.get bucket).map (·.name) = (attributes.filter (·.bucket = bucket)).map (·.name) := by
    have selected := Buckets.select_names (planned.imp fun a p plan => Attribute.finalColumn_of_planIn plan)
      (mapM_eq_ok_iff.mp read) bucket
    have nodup : ((Buckets.select bucket entries).map (·.name)).Nodup := by
      rw [selected]
      exact named.sublist (List.filter_sublist.map _)
    rw [held, distinct_of_nodup nodup.of_map, selected]
  refine ⟨names, ?together, ?behind, ?used⟩
  case together =>
    have sorted := flatMap_filter_perm Attribute.bucket (by decide : Bucket.all.Nodup) attributes
      fun a _ => by cases a.bucket <;> decide
    simpa [List.map_flatMap, names] using sorted.map (·.name)
  case behind =>
    intro bucket final member
    obtain ⟨p, listed, computed⟩ := (Buckets.mem_get buckets).mp member
    obtain ⟨a, -, plan⟩ := origin p listed
    obtain ⟨fold, column, entry⟩ := DailyModel.exists_entry daily listed
    obtain ⟨same, list⟩ := Attribute.linked_of_planIn plan entry computed m.daily
    exact ⟨column, list ▸ DailyModel.mem_listOf daily listed entry, same⟩
  case used =>
    intro column member
    obtain ⟨p, listed, fold, entry⟩ := (DailyModel.mem_columns daily).mp member
    obtain ⟨a, -, plan⟩ := origin p listed
    obtain ⟨final, computed, -⟩ := Attribute.finalColumn_of_planIn plan
    obtain ⟨same, list⟩ := Attribute.linked_of_planIn plan entry computed m.daily
    exact ⟨a.bucket, list ▸ DailyModel.mem_listOf daily listed entry, final,
      (Buckets.mem_get buckets).mpr ⟨p, listed, computed⟩, same.symm⟩

/-- What is known of a visitor: all page views and those of a week, which share their daily column, the first page, and
the pages of a week. -/
def visitorProfile : List Attribute :=
  let views := [⟨"com.acme", "page_view", "1-0-0"⟩]
  [.ofEvents "views" .counter views,
    { Attribute.ofEvents "first_page" .first views with property := some "page.title" },
    { Attribute.ofEvents "views_last_week" .counter views with period := some (.weeks 1) },
    { Attribute.ofEvents "pages_last_week" .uniqueList views with
      property := some "page.title", period := some (.weeks 1) }]

theorem Models.buckets_of_visitorProfile : (visitorProfile.map (·.name)).Nodup ∧
    ∃ b m, Blueprint.ofAttributes visitorProfile "user_id" = .ok b ∧ ofBlueprint b = .ok m ∧
      m.buckets.lastNDays.map (·.name) = ["views_last_week"] ∧
      ((Bucket.all.flatMap m.buckets.get).map (·.name)).Perm (visitorProfile.map (·.name)) ∧
      m.daily.columns.map (·.name) = ["count_page_view", "unique_list_title_page_view", "first_title"] ∧
      ∀ bucket, ∀ final ∈ m.buckets.get bucket, ∃ column ∈ m.daily.behind bucket, column.name = final.dailyName := by
  have named : (visitorProfile.map (·.name)).Nodup := by decide
  have run : ((Blueprint.ofAttributes visitorProfile "user_id" >>= ofBlueprint).map fun m =>
      m.daily.columns.map (·.name)).toOption =
        some ["count_page_view", "unique_list_title_page_view", "first_title"] := by
    decide +kernel
  obtain ⟨b, m, compiled, built, columns⟩ := exists_of_run run
  obtain ⟨names, together, behind, -⟩ := buckets_of_attributes named compiled built
  exact ⟨named, b, m, compiled, built, names .lastNDays, together, columns, behind⟩

end AttributeStore
