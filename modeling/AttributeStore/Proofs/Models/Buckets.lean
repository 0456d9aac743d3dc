import AttributeStore.Proofs.Models.Daily

/-! The buckets as a function of their plans: one final column for each plan, put into the bucket that its fold and its
window call for, where the first of equal columns is kept. -/
namespace AttributeStore

namespace Buckets

@[simp] theorem get_push (b : Buckets) (column : FinalColumn) (bucket other : Bucket) :
    (b.push column bucket).get other = b.get other ++ if other = bucket then [column] else [] := by
  cases bucket <;> cases other <;> simp [push, get]

@[simp] theorem get_map (b : Buckets) (f : List FinalColumn → List FinalColumn) (bucket : Bucket) :
    (b.map f).get bucket = f (b.get bucket) := by
  cases bucket <;> rfl

/-- The columns of one bucket, in their order. -/
def select (bucket : Bucket) (entries : List (FinalColumn × Bucket)) : List FinalColumn :=
  (entries.filter fun entry => bucket = entry.2).map (·.1)

theorem get_foldl_push (entries : List (FinalColumn × Bucket)) (b : Buckets) (bucket : Bucket) :
    (entries.foldl (fun b entry => b.push entry.1 entry.2) b).get bucket = b.get bucket ++ select bucket entries := by
  induction entries generalizing b with
  | nil => simp [select]
  | cons entry rest ih =>
    rw [List.foldl_cons, ih, get_push]
    by_cases here : bucket = entry.2 <;> simp [select, here]

theorem foldlM_push (plans : List Plan) (b : Buckets) :
    (plans.foldlM (fun (b : Buckets) p => do
      let (column, bucket) ← p.finalColumn
      return b.push column bucket) b) =
      (plans.mapM Plan.finalColumn).map (·.foldl (fun b entry => b.push entry.1 entry.2) b) := by
  induction plans generalizing b with
  | nil => rfl
  | cons p rest ih =>
    rw [List.foldlM_cons, List.mapM_cons]
    cases p.finalColumn with
    | error e => rfl
    | ok entry =>
      simp only [bind, Except.bind, pure, Except.pure] at ih ⊢
      rw [ih]
      cases rest.mapM Plan.finalColumn <;> rfl

/-- Every bucket holds the final columns of some plans that are routed to it, without repetitions. -/
theorem get_of_ofPlans {plans : List Plan} {b : Buckets} (built : ofPlans plans = .ok b) :
    ∃ entries, plans.mapM Plan.finalColumn = .ok entries ∧
      ∀ bucket, b.get bucket = distinct (select bucket entries) := by
  unfold ofPlans at built
  rw [foldlM_push, bind_eq_ok_iff] at built
  obtain ⟨pushed, run, same⟩ := built
  obtain ⟨entries, read, rfl⟩ := map_eq_ok_iff.mp run
  cases same
  refine ⟨entries, read, fun bucket => ?_⟩
  rw [get_map, get_foldl_push]
  cases bucket <;> rfl

/-- The final columns are those of the plans, each in its bucket. -/
theorem mem_get {plans : List Plan} {b : Buckets} (built : ofPlans plans = .ok b) {bucket : Bucket}
    {column : FinalColumn} : column ∈ b.get bucket ↔ ∃ p ∈ plans, p.finalColumn = .ok (column, bucket) := by
  obtain ⟨entries, read, held⟩ := get_of_ofPlans built
  rw [held, mem_distinct]
  have listed : column ∈ select bucket entries ↔ (column, bucket) ∈ entries := by
    simp only [select, List.mem_map, List.mem_filter, decide_eq_true_eq]
    constructor
    · rintro ⟨⟨column, bucket⟩, ⟨member, rfl⟩, rfl⟩
      exact member
    · exact fun member => ⟨_, ⟨member, rfl⟩, rfl⟩
  rw [listed]
  constructor
  · exact fun member => (exists_of_mapM_eq_ok read).2 _ member
  · rintro ⟨p, member, entry⟩
    obtain ⟨found, listed, same⟩ := (exists_of_mapM_eq_ok read).1 p member
    rwa [← Except.ok.inj (same.symm.trans entry)]

end Buckets

/-- A final column is computed from the daily column of its own plan. -/
theorem Plan.finalColumn_dailyName {p : Plan} {column : FinalColumn} {bucket : Bucket}
    (entry : p.finalColumn = .ok (column, bucket)) : p.daily.column = some column.dailyName := by
  simp only [finalColumn, bind_eq_ok_iff] at entry
  obtain ⟨fold, -, days, -, dailyName, named, name, -, same⟩ := entry
  cases same
  unfold Step.columnOf at named
  split at named
  · cases named
    assumption
  · cases named

theorem EventsModel.ofBlueprint_eq_ok_iff {b : Blueprint} {m : EventsModel} : ofBlueprint b = .ok m ↔
    b.events.mapM EventSchema.parse = .ok m.events ∧ m.properties = b.properties := by
  simp only [ofBlueprint, bind_eq_ok_iff]
  constructor
  · rintro ⟨schemas, read, same⟩
    cases same
    exact ⟨read, rfl⟩
  · rintro ⟨read, same⟩
    exact ⟨m.events, read, same ▸ rfl⟩

theorem Models.ofBlueprint_eq_ok_iff {b : Blueprint} {m : Models} : ofBlueprint b = .ok m ↔
    EventsModel.ofBlueprint b = .ok m.events ∧ DailyModel.ofPlans b.plans = .ok m.daily ∧
      Buckets.ofPlans b.plans = .ok m.buckets := by
  simp only [ofBlueprint, bind_eq_ok_iff]
  constructor
  · rintro ⟨events, parsed, daily, folded, buckets, sorted, same⟩
    cases same
    exact ⟨parsed, folded, sorted⟩
  · rintro ⟨parsed, folded, sorted⟩
    exact ⟨_, parsed, _, folded, _, sorted, rfl⟩

/-- A run from attributes to models that gives a result has a blueprint and models. -/
theorem Models.exists_of_run {attributes : List Attribute} {entityKey : String} {f : Models → α} {result : α}
    (run : ((Blueprint.ofAttributes attributes entityKey >>= ofBlueprint).map f).toOption = some result) :
    ∃ b m, Blueprint.ofAttributes attributes entityKey = .ok b ∧ ofBlueprint b = .ok m ∧ f m = result := by
  obtain ⟨m, models, result⟩ := map_eq_ok_iff.mp (eq_ok_of_toOption run)
  obtain ⟨b, compiled, built⟩ := bind_eq_ok_iff.mp models
  exact ⟨b, m, compiled, built, result⟩

end AttributeStore
