import AttributeStore.Plan.Compile
import AttributeStore.Proofs.Outcome
import AttributeStore.Proofs.Plan.Ledger

/-! What compilation computes, without its ledger. An attribute is entered with its events, its period and its
paths, and its plan can be read off the bindings as they are in the end: no later attribute changes a column. -/
namespace AttributeStore

namespace Compiling

theorem run_bind (x : Compiling α) (f : α → Compiling β) (l : Ledger) :
    (x >>= f).run.run l = match x.run.run l with
      | (.ok a, l') => (f a).run.run l'
      | (.error e, l') => (.error e, l') := by
  rw [ExceptT.run_bind, StateT.run_bind]
  rcases x.run.run l with ⟨⟨⟩ | ⟨⟩, l'⟩ <;> rfl

@[simp] theorem run_pure (a : α) (l : Ledger) : (pure a : Compiling α).run.run l = (.ok a, l) := rfl

@[simp] theorem run_liftM (x : Except CompileError α) (l : Ledger) :
    (liftM x : Compiling α).run.run l = (x, l) := rfl

@[simp] theorem run_onLedger (f : Ledger → Ledger × α) (l : Ledger) :
    (onLedger f).run.run l = (.ok (f l).2, (f l).1) := rfl

end Compiling

namespace Attribute

/-- The paths of an attribute's filter. -/
def filterPaths (a : Attribute) : List String :=
  (a.activeCriteria.toList.flatMap (·.active)).map (·.property)

/-- The paths that an attribute declares, in the order in which they are used. -/
def paths (a : Attribute) : List String := a.propertyPath.toList ++ a.filterPaths

/-- A condition on the column of its path. -/
def rebind (bindings : List Column.Binding) (c : Criterion) : Criterion :=
  { c with property := Column.columnIn bindings c.property }

def criteriaIn (bindings : List Column.Binding) (a : Attribute) : Criteria :=
  match a.activeCriteria with
  | none => ⟨[a.eventCondition], []⟩
  | some declared =>
    let bound := declared.active.map (rebind bindings)
    if declared.usesAny then ⟨[a.eventCondition], bound⟩ else ⟨a.eventCondition :: bound, []⟩

def assemble (a : Attribute) (fold : Fold) (property : Option String) (daily : String)
    (criteria : Criteria) : Plan where
  filtered := ⟨.filteredEvents, false, none, property, none⟩
  daily := ⟨.dailyAggregation, true, some fold, some daily, some criteria⟩
  final := ⟨.attributeAggregation, true, some fold.rollup, some a.name, a.window⟩

/-- The plan of an attribute whose paths are bound already. -/
def planIn (bindings : List Column.Binding) (a : Attribute) : Except CompileError Plan := do
  let fold ← a.fold
  a.validate
  let property := a.propertyPath.map (Column.columnIn bindings)
  let daily ← a.dailyColumn fold property
  return a.assemble fold property daily (a.criteriaIn bindings)

end Attribute

namespace Ledger

/-- Addresses of events behind those that are known already. -/
def record (known : List String) (events : List Event) : List String :=
  events.foldl (fun known e => if e.reference ∈ known then known else known ++ [e.reference]) known

theorem record_append (known : List String) (first second : List Event) :
    record known (first ++ second) = record (record known first) second := List.foldl_append

theorem record_extends (known : List String) (events : List Event) : known <+: record known events := by
  induction events generalizing known with
  | nil => exact List.prefix_rfl
  | cons e rest ih =>
    rw [record, List.foldl_cons, ← record]
    split
    · exact ih known
    · exact (List.prefix_append known [e.reference]).trans (ih _)

theorem record_nodup {known : List String} (once : known.Nodup) (events : List Event) :
    (record known events).Nodup := by
  induction events generalizing known with
  | nil => exact once
  | cons e rest ih =>
    rw [record, List.foldl_cons, ← record]
    split
    case isTrue => exact ih once
    case isFalse new => exact ih (List.nodup_append_comm.mp (List.nodup_cons.mpr ⟨new, once⟩))

/-- The ledger after an attribute has been compiled. -/
def enter (l : Ledger) (a : Attribute) : Ledger where
  events := record l.events a.events
  bindings := Column.registerAll l.bindings a.paths
  periods := a.period.elim l.periods fun p => insertSorted p.iso l.periods

def enterAll (l : Ledger) (attributes : List Attribute) : Ledger := attributes.foldl enter l

theorem mem_insertSorted {s t : String} {texts : List String} : t ∈ insertSorted s texts ↔ t = s ∨ t ∈ texts := by
  induction texts with
  | nil => simp [insertSorted]
  | cons u rest ih =>
    rw [insertSorted]
    split
    case isTrue => exact List.mem_cons
    case isFalse =>
      split
      case isTrue same => simp [same]
      case isFalse => rw [List.mem_cons, ih, List.mem_cons, or_left_comm]

theorem enterAll_bindings (l : Ledger) (attributes : List Attribute) :
    (l.enterAll attributes).bindings = Column.registerAll l.bindings (attributes.flatMap (·.paths)) := by
  induction attributes generalizing l with
  | nil => rfl
  | cons a rest ih =>
    rw [List.flatMap_cons, Column.registerAll_append]
    exact ih (l.enter a)

theorem enterAll_tidy (attributes : List Attribute) : Column.Tidy (Ledger.enterAll {} attributes).bindings := by
  rw [enterAll_bindings]
  exact Column.Tidy.empty.registerAll _

/-- Every path of the attributes is bound, if anything is left of it to be a name. -/
theorem mem_enterAll_bindings {attributes : List Attribute} {a : Attribute} (member : a ∈ attributes) {path : String}
    (declared : path ∈ a.paths) (named : Column.HasName path) :
    path ∈ (enterAll {} attributes).bindings.map (·.path) := by
  rw [enterAll_bindings]
  exact Column.Tidy.empty.mem_registerAll _ (List.mem_flatMap.mpr ⟨a, member, declared⟩) named

theorem addEvent_eq (e : Event) (l : Ledger) : (addEvent e l).1 = { l with events := record l.events [e] } := by
  by_cases known : e.reference ∈ l.events <;> simp [addEvent, record, known]

theorem register_eq (path : String) (l : Ledger) : register path l =
    ({ l with bindings := Column.register l.bindings path },
      Column.columnIn (Column.register l.bindings path) path) := rfl

end Ledger

namespace Attribute

theorem forIn_addEvent_run (events : List Event) (l : Ledger) :
    (forIn events PUnit.unit fun e _ => do
      let _ ← Compiling.onLedger (Ledger.addEvent e)
      pure (ForInStep.yield PUnit.unit) : Compiling PUnit).run.run l =
      (.ok ⟨⟩, { l with events := Ledger.record l.events events }) := by
  induction events generalizing l with
  | nil => rfl
  | cons e rest ih =>
    simp only [List.forIn_cons, Compiling.run_bind, Compiling.run_onLedger, Compiling.run_pure]
    rw [ih, Ledger.addEvent_eq]
    rfl

/-- Binding a filter registers its paths, and a column found on the way is the column in the end. -/
theorem mapM_bind_run (conditions : List Criterion) (l : Ledger) (tidy : Column.Tidy l.bindings) :
    let after := Column.registerAll l.bindings (conditions.map (·.property))
    (conditions.mapM bind).run.run l = (.ok (conditions.map (rebind after)), { l with bindings := after }) := by
  induction conditions generalizing l with
  | nil => rfl
  | cons c rest ih =>
    have here := tidy.register c.property
    have stable := here.columnIn_registerAll c.property (rest.map (·.property))
      fun named => tidy.mem_registerAll [c.property] (by simp) named
    simp only [List.mapM_cons, Compiling.run_bind, bind, Compiling.run_onLedger, Compiling.run_pure,
      Ledger.register_eq]
    rw [ih _ here]
    simp only [List.map_cons, Column.registerAll, List.foldl_cons, rebind] at stable ⊢
    rw [stable]

theorem dailyCriteria_run (a : Attribute) (l : Ledger) (tidy : Column.Tidy l.bindings) :
    let after := Column.registerAll l.bindings a.filterPaths
    a.dailyCriteria.run.run l = (.ok (a.criteriaIn after), { l with bindings := after }) := by
  unfold dailyCriteria criteriaIn filterPaths
  cases declared : a.activeCriteria with
  | none => rfl
  | some c =>
    simp only [Compiling.run_bind, mapM_bind_run c.active l tidy, Compiling.run_pure, Option.toList_some,
      List.flatMap_cons, List.flatMap_nil, List.append_nil]

/-- The last steps of compilation, behind the registration of the property. -/
theorem finish_run (a : Attribute) (fold : Fold) (property : Option String) (l : Ledger)
    (tidy : Column.Tidy l.bindings) :
    let after := Column.registerAll l.bindings a.filterPaths
    let finished := (a.dailyColumn fold property).bind fun daily =>
      .ok (a.assemble fold property daily (a.criteriaIn after))
    ∃ l', (do
        let daily ← liftM (a.dailyColumn fold property)
        let criteria ← a.dailyCriteria
        pure (a.assemble fold property daily criteria) : Compiling Plan).run.run l = (finished, l') ∧
      (finished.isOk → l' = { l with bindings := after }) := by
  simp only [Compiling.run_bind, Compiling.run_liftM]
  cases a.dailyColumn fold property with
  | error e => exact ⟨l, rfl, fun impossible => nomatch impossible⟩
  | ok daily =>
    simp only [dailyCriteria_run a l tidy]
    exact ⟨_, rfl, fun _ => rfl⟩

/-- Compilation enters the attribute and reads its plan off the bindings it leaves; a failure is the attribute's
own, whatever the ledger holds. -/
theorem compile_run (a : Attribute) (l : Ledger) (tidy : Column.Tidy l.bindings) :
    ∃ l', a.compile.run.run l = (a.planIn (l.enter a).bindings, l') ∧
      ((a.planIn (l.enter a).bindings).isOk → l' = l.enter a) := by
  unfold compile planIn
  rw [Compiling.run_bind, Compiling.run_liftM]
  cases fold : a.fold with
  | error e => exact ⟨l, rfl, fun impossible => nomatch impossible⟩
  | ok fold' =>
    dsimp only
    rw [Compiling.run_bind, Compiling.run_liftM]
    cases valid : a.validate with
    | error e => exact ⟨l, rfl, fun impossible => nomatch impossible⟩
    | ok =>
      dsimp only
      rw [Compiling.run_bind, forIn_addEvent_run]
      let events := Ledger.record l.events a.events
      let dated (p : Period) := Ledger.insertSorted p.iso l.periods
      cases property : a.propertyPath with
      | none =>
        cases period : a.period with
        | none =>
          simp only [Ledger.enter, paths, property, period, pure_bind]
          exact finish_run a fold' none ⟨events, l.bindings, l.periods⟩ tidy
        | some p =>
          simp only [Ledger.enter, paths, property, period, pure_bind]
          exact finish_run a fold' none ⟨events, l.bindings, dated p⟩ tidy
      | some path =>
        -- the property's column has to outlast the paths of the filter
        have here := tidy.register path
        have stable := here.columnIn_registerAll path a.filterPaths
          fun named => tidy.mem_registerAll [path] (by simp) named
        have entered : (l.enter a).bindings =
            Column.registerAll (Column.register l.bindings path) a.filterPaths := by
          simp [Ledger.enter, paths, property, Column.registerAll]
        simp only [entered, Option.map_some, stable, pure_bind]
        let column := Column.columnIn (Column.register l.bindings path) path
        cases period : a.period with
        | none =>
          simp only [Ledger.enter, paths, property, period]
          exact finish_run a fold' (some column) ⟨events, Column.register l.bindings path, l.periods⟩ here
        | some p =>
          simp only [Ledger.enter, paths, property, period]
          exact finish_run a fold' (some column) ⟨events, Column.register l.bindings path, dated p⟩ here

/-- Once its paths are bound, nothing that is bound later changes the plan of an attribute. -/
theorem planIn_registerAll (a : Attribute) {bindings : List Column.Binding} (tidy : Column.Tidy bindings)
    (bound : ∀ path ∈ a.paths, Column.HasName path → path ∈ bindings.map (·.path)) (more : List String) :
    a.planIn (Column.registerAll bindings more) = a.planIn bindings := by
  have stable : ∀ path ∈ a.paths,
      Column.columnIn (Column.registerAll bindings more) path = Column.columnIn bindings path :=
    fun path member => tidy.columnIn_registerAll path more (bound path member)
  have property : a.propertyPath.map (Column.columnIn (Column.registerAll bindings more)) =
      a.propertyPath.map (Column.columnIn bindings) := by
    cases declared : a.propertyPath with
    | none => rfl
    | some path => exact congrArg some (stable path (by simp [paths, declared]))
  have criteria : a.criteriaIn (Column.registerAll bindings more) = a.criteriaIn bindings := by
    unfold criteriaIn
    cases declared : a.activeCriteria with
    | none => rfl
    | some c =>
      have bound : c.active.map (rebind (Column.registerAll bindings more)) = c.active.map (rebind bindings) := by
        refine List.map_congr_left fun condition member => ?_
        simp only [rebind]
        rw [stable condition.property]
        simpa [paths, filterPaths, declared] using .inr ⟨condition, member, rfl⟩
      simp only [bound]
  unfold planIn
  rw [property, criteria]

/-- What a compiled attribute is: it has a fold, it is valid, it has a daily name, and its plan is put together from
these and its columns. -/
theorem planIn_eq_ok_iff {a : Attribute} {bindings : List Column.Binding} {p : Plan} :
    a.planIn bindings = .ok p ↔ ∃ fold daily, a.fold = .ok fold ∧ a.validate = .ok () ∧
      a.dailyColumn fold (a.propertyPath.map (Column.columnIn bindings)) = .ok daily ∧
      a.assemble fold (a.propertyPath.map (Column.columnIn bindings)) daily (a.criteriaIn bindings) = p := by
  simp only [planIn, bind_eq_ok_iff, pure, Except.pure, Except.ok.injEq]
  exact ⟨fun ⟨fold, known, _, valid, daily, named, plan⟩ => ⟨fold, daily, known, valid, named, plan⟩,
    fun ⟨fold, daily, known, valid, named, plan⟩ => ⟨fold, known, (), valid, daily, named, plan⟩⟩

theorem mapM_compile_run (attributes : List Attribute) (l : Ledger) (tidy : Column.Tidy l.bindings) :
    let plans := attributes.mapM (planIn (l.enterAll attributes).bindings)
    ∃ l', (attributes.mapM compile).run.run l = (plans, l') ∧ (plans.isOk → l' = l.enterAll attributes) := by
  induction attributes generalizing l with
  | nil => exact ⟨l, rfl, fun _ => rfl⟩
  | cons a rest ih =>
    obtain ⟨l₁, first, entered⟩ := compile_run a l tidy
    have here : Column.Tidy (l.enter a).bindings := tidy.registerAll a.paths
    have settled : a.planIn ((l.enter a).enterAll rest).bindings = a.planIn (l.enter a).bindings := by
      rw [Ledger.enterAll_bindings]
      exact planIn_registerAll a here (fun path member => tidy.mem_registerAll a.paths member) _
    have split : l.enterAll (a :: rest) = (l.enter a).enterAll rest := rfl
    simp only [List.mapM_cons, Compiling.run_bind, first, split, settled]
    cases plan : a.planIn (l.enter a).bindings with
    | error e => exact ⟨l₁, rfl, fun impossible => nomatch impossible⟩
    | ok p =>
      obtain rfl : l₁ = l.enter a := entered (by rw [plan]; rfl)
      obtain ⟨l₂, others, final⟩ := ih (l.enter a) here
      simp only [others]
      cases plans : rest.mapM (planIn ((l.enter a).enterAll rest).bindings) with
      | error e => exact ⟨l₂, rfl, fun impossible => Bool.noConfusion (show false = true from impossible)⟩
      | ok ps => exact ⟨l₂, rfl, fun _ => final (by rw [plans]; rfl)⟩

end Attribute

/-- A blueprint is what its attributes leave in the ledger, and the plans that they have in it. -/
theorem Blueprint.ofAttributes_eq (attributes : List Attribute) (entityKey : String) :
    let l : Ledger := Ledger.enterAll {} attributes
    Blueprint.ofAttributes attributes entityKey = (attributes.mapM (Attribute.planIn l.bindings)).map fun plans =>
      ⟨l.events, l.resolved, l.periods, plans, entityKey⟩ := by
  obtain ⟨l', run, final⟩ := Attribute.mapM_compile_run attributes {} Column.Tidy.empty
  unfold Blueprint.ofAttributes
  rw [run]
  cases plans : attributes.mapM (Attribute.planIn (Ledger.enterAll {} attributes).bindings) with
  | error e => simp [Except.map, plans]
  | ok ps => simp [Except.map, plans, final (by rw [plans]; rfl)]

theorem Blueprint.ofAttributes_eq_ok_iff {attributes : List Attribute} {entityKey : String} {b : Blueprint} :
    let l : Ledger := Ledger.enterAll {} attributes
    Blueprint.ofAttributes attributes entityKey = .ok b ↔
      ∃ plans, List.Forall₂ (fun a p => a.planIn l.bindings = .ok p) attributes plans ∧
        ⟨l.events, l.resolved, l.periods, plans, entityKey⟩ = b := by
  simp only [Blueprint.ofAttributes_eq, map_eq_ok_iff, mapM_eq_ok_iff]

theorem Blueprint.ofAttributes_entityKey {attributes : List Attribute} {entityKey : String} {b : Blueprint}
    (compiled : ofAttributes attributes entityKey = .ok b) : b.entityKey = entityKey := by
  obtain ⟨plans, -, rfl⟩ := ofAttributes_eq_ok_iff.mp compiled
  rfl

end AttributeStore
