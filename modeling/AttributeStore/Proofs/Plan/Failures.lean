import AttributeStore.Proofs.Plan.ColumnBinding

/-! Failures. What is wrong with an attribute can be told without a ledger: compilation reports the first of its faults
and leaves the ledger as it was, and an attribute without faults is compiled in every ledger. A list of attributes fails
as the first of them that has a fault. -/
namespace AttributeStore

namespace Compiling

/-- Work that cannot fail, whatever the ledger holds. -/
def Succeeds (x : Compiling α) : Prop := ∀ l : Ledger, ∃ a l', x.run.run l = (.ok a, l')

theorem Succeeds.bind {x : Compiling α} {f : α → Compiling β} (first : Succeeds x) (then' : ∀ a, Succeeds (f a)) :
    Succeeds (x >>= f) := by
  intro l
  obtain ⟨a, l', run⟩ := first l
  rw [run_bind, run]
  exact then' a l'

theorem Succeeds.pure (a : α) : Succeeds (Pure.pure a : Compiling α) := fun l => ⟨a, l, rfl⟩

theorem Succeeds.onLedger (f : Ledger → Ledger × α) : Succeeds (onLedger f) := fun _ => ⟨_, _, rfl⟩

theorem Succeeds.mapM {f : α → Compiling β} (each : ∀ a, Succeeds (f a)) (items : List α) :
    Succeeds (items.mapM f) := by
  induction items with
  | nil => exact .pure []
  | cons a rest ih =>
    rw [List.mapM_cons]
    exact (each a).bind fun b => ih.bind fun bs => .pure (b :: bs)

end Compiling

namespace Attribute

open Compiling (Succeeds)

/-- A first or last value of no property. -/
def LacksProperty (a : Attribute) : Prop := a.aggregation ∈ [.first, .last] ∧ a.property.getD "" = ""

instance (a : Attribute) : Decidable a.LacksProperty := inferInstanceAs (Decidable (_ ∧ _))

theorem lacksProperty_iff {a : Attribute} :
    (a.aggregation.requiresProperty && a.propertyPath.isNone) = true ↔ a.LacksProperty := by
  have absent : a.property.getD "" = "" ↔ a.propertyPath = none := by
    unfold propertyPath
    cases a.property <;> simp
  unfold LacksProperty
  rw [absent]
  cases a.aggregation <;> simp [Aggregation.requiresProperty]

/-- Both groups of the filter hold more than one condition. -/
def IsCrowded (a : Attribute) : Prop := ∃ c ∈ a.criteria, 1 < c.all.length ∧ 1 < c.any.length

theorem isCrowded_iff {a : Attribute} : a.criteria.any (!·.isValid) = true ↔ a.IsCrowded := by
  unfold IsCrowded Criteria.isValid
  cases a.criteria <;> simp

instance (a : Attribute) : Decidable a.IsCrowded := decidable_of_iff _ isCrowded_iff

/-- All that is wrong with an attribute, in the order in which it is looked for. -/
def faults (a : Attribute) : List CompileError :=
  (if a.aggregation = .mean then [.unsupportedAggregation a.name .mean] else []) ++
  (a.events.findIdxs (·.name = "")).map (.missingEventName a.name) ++
  (if a.LacksProperty then [.missingProperty a.name a.aggregation.name] else []) ++
  if a.IsCrowded then [.invalidCriteria a.name] else []

theorem faults_ne_nil_iff {a : Attribute} : a.faults ≠ [] ↔
    a.aggregation = .mean ∨ (∃ e ∈ a.events, e.name = "") ∨ a.LacksProperty ∨ a.IsCrowded := by
  have unnamed : a.events.findIdxs (·.name = "") ≠ [] ↔ ∃ e ∈ a.events, e.name = "" := by
    rw [ne_eq, List.findIdxs_eq_nil_iff]
    simp
  have asked (p : Prop) [Decidable p] (e : CompileError) : (if p then [e] else []) ≠ [] ↔ p := by
    split <;> simp_all
  unfold faults
  rw [ne_eq, List.append_eq_nil_iff, List.append_eq_nil_iff, List.append_eq_nil_iff, List.map_eq_nil_iff]
  simp only [not_and_or, asked, ← unnamed, ne_eq, or_assoc]

theorem head?_findIdxs (p : Event → Bool) (events : List Event) : (events.findIdxs p).head? = events.findIdx? p := by
  induction events with
  | nil => rfl
  | cons e rest ih =>
    rw [List.findIdxs_cons, List.findIdx?_cons]
    split
    case isTrue => rfl
    case isFalse => rw [List.findIdxs_start, List.head?_map, ih]

theorem fold_eq_error {a : Attribute} (mean : a.aggregation = .mean) :
    a.fold = .error (.unsupportedAggregation a.name .mean) := by
  rw [fold, mean]
  rfl

theorem exists_fold {a : Attribute} (other : a.aggregation ≠ .mean) : ∃ fold, a.fold = .ok fold := by
  simp only [fold_eq_ok_iff]
  cases kind : a.aggregation <;> first | exact absurd kind other | exact ⟨_, rfl⟩

theorem validate_eq {a : Attribute} (other : a.aggregation ≠ .mean) :
    a.validate = match a.faults.head? with
      | some e => .error e
      | none => .ok () := by
  have empty : (fun e : Event => e.name.isEmpty) = fun e => decide (e.name = "") := by
    funext e
    rw [Bool.eq_iff_iff, String.isEmpty_iff, decide_eq_true_eq]
  have unnamed : a.events.findIdx? (·.name.isEmpty) = (a.events.findIdxs (·.name = "")).head? := by
    rw [head?_findIdxs, empty]
  simp only [faults, if_neg other, List.nil_append, List.append_assoc, List.head?_append, List.head?_map, validate,
    unnamed, lacksProperty_iff, isCrowded_iff]
  cases (a.events.findIdxs (·.name = "")).head? with
  | some index => rfl
  | none =>
    by_cases lacks : a.LacksProperty
    case pos => simp [lacks]
    case neg => by_cases crowded : a.IsCrowded <;> simp [lacks, crowded]

/-- An attribute without faults has a daily column, whatever the column of its property is. -/
theorem exists_dailyColumn {a : Attribute} {fold : Fold} (known : a.fold = .ok fold) (valid : a.validate = .ok ())
    (column : String → String) : ∃ daily, a.dailyColumn fold (a.propertyPath.map column) = .ok daily := by
  unfold dailyColumn
  split
  case isTrue positional =>
    obtain ⟨path, declared⟩ := validate_property valid (requiresProperty_of_isPositional known positional)
    exact ⟨_, by rw [declared]; rfl⟩
  case isFalse => exact ⟨_, rfl⟩

theorem dailyCriteria_succeeds (a : Attribute) : Succeeds a.dailyCriteria := by
  unfold dailyCriteria
  split
  · exact .pure _
  · refine (Succeeds.mapM (fun c => ?_) _).bind fun bound => .pure _
    exact (Succeeds.onLedger (Ledger.register c.property)).bind fun column => .pure _

/-- Behind its checks compilation cannot fail. -/
theorem compile_succeeds {a : Attribute} {fold : Fold} (known : a.fold = .ok fold) (valid : a.validate = .ok ()) :
    Succeeds a.compile := by
  have events : Succeeds (forIn a.events PUnit.unit fun e _ => do
      let _ ← Compiling.onLedger (Ledger.addEvent e)
      pure (ForInStep.yield PUnit.unit)) := fun l => ⟨_, _, forIn_addEvent_run a.events l⟩
  have dated (p : Period) : Succeeds (modify (Ledger.addPeriod p)) := fun l => ⟨_, _, rfl⟩
  have finish (column : String → String) : Succeeds (do
      let daily ← liftM (a.dailyColumn fold (a.propertyPath.map column))
      let criteria ← a.dailyCriteria
      pure (a.assemble fold (a.propertyPath.map column) daily criteria)) := by
    obtain ⟨daily, named⟩ := exists_dailyColumn known valid column
    rw [named]
    exact (dailyCriteria_succeeds a).bind fun criteria => .pure _
  intro l
  unfold compile
  rw [Compiling.run_bind, Compiling.run_liftM, known]
  dsimp only
  rw [Compiling.run_bind, Compiling.run_liftM, valid]
  refine (events.bind fun _ => ?_) l
  cases declared : a.propertyPath with
  | none =>
    rw [declared] at finish
    split
    case h_1 p _ => exact (dated p).bind fun _ => finish id
    case h_2 => exact finish id
  | some path =>
    rw [declared] at finish
    have registered := (Succeeds.onLedger (Ledger.register path)).bind fun column => finish fun _ => column
    split
    case h_1 p _ => exact (dated p).bind fun _ => registered
    case h_2 => exact registered

/-- Compilation ends with the first fault, before it touches the ledger, and it ends well if there is none. -/
theorem compile_run_faults (a : Attribute) (l : Ledger) :
    match a.faults.head? with
    | some e => a.compile.run.run l = (.error e, l)
    | none => ∃ p l', a.compile.run.run l = (.ok p, l') := by
  by_cases mean : a.aggregation = .mean
  case pos =>
    have first : a.faults.head? = some (.unsupportedAggregation a.name .mean) := by simp [faults, mean]
    rw [first, compile, Compiling.run_bind, Compiling.run_liftM, fold_eq_error mean]
  case neg =>
    obtain ⟨fold, known⟩ := exists_fold mean
    have checked := validate_eq mean
    cases first : a.faults.head? with
    | some e =>
      rw [first] at checked
      rw [compile, Compiling.run_bind, Compiling.run_liftM, known]
      dsimp only
      rw [Compiling.run_bind, Compiling.run_liftM, checked]
    | none =>
      rw [first] at checked
      exact compile_succeeds known checked l

/-- A list of attributes ends with the first fault of the first attribute that has one. -/
theorem mapM_compile_run_faults (attributes : List Attribute) (l : Ledger) :
    match attributes.findSome? (·.faults.head?) with
    | some e => ∃ l', (attributes.mapM compile).run.run l = (.error e, l')
    | none => ∃ plans l', (attributes.mapM compile).run.run l = (.ok plans, l') := by
  induction attributes generalizing l with
  | nil => exact ⟨[], l, rfl⟩
  | cons a rest ih =>
    have first := a.compile_run_faults l
    rw [List.findSome?_cons, List.mapM_cons, Compiling.run_bind]
    cases fault : a.faults.head? with
    | some e =>
      rw [fault] at first
      exact ⟨l, by rw [first]⟩
    | none =>
      rw [fault] at first
      obtain ⟨p, l₁, run⟩ := first
      have others := ih l₁
      rw [run]
      dsimp only
      rw [Compiling.run_bind]
      cases later : rest.findSome? (·.faults.head?) with
      | some e =>
        rw [later] at others
        obtain ⟨l₂, run⟩ := others
        exact ⟨l₂, by rw [run]⟩
      | none =>
        rw [later] at others
        obtain ⟨plans, l₂, run⟩ := others
        exact ⟨p :: plans, l₂, by rw [run]; rfl⟩

end Attribute

/-- Failures are the attributes' own. An attribute fails in every ledger or in none, with the first of its faults, and
leaves the ledger as it was; a list of attributes fails exactly as the first of them that has a fault. -/
theorem Blueprint.ofAttributes_first_fault (attributes : List Attribute) (entityKey : String) :
    (∀ a : Attribute, (a.faults ≠ [] ↔
        a.aggregation = .mean ∨ (∃ e ∈ a.events, e.name = "") ∨ a.LacksProperty ∨ a.IsCrowded) ∧
      ∀ l : Ledger, match a.faults.head? with
        | some e => a.compile.run.run l = (.error e, l)
        | none => ∃ p l', a.compile.run.run l = (.ok p, l')) ∧
    match attributes.findSome? (·.faults.head?) with
    | some e => ofAttributes attributes entityKey = .error e
    | none => ∃ b, ofAttributes attributes entityKey = .ok b := by
  refine ⟨fun a => ⟨Attribute.faults_ne_nil_iff, a.compile_run_faults⟩, ?_⟩
  have run := Attribute.mapM_compile_run_faults attributes {}
  unfold ofAttributes
  cases fault : attributes.findSome? (·.faults.head?) with
  | some e =>
    rw [fault] at run
    obtain ⟨l, run⟩ := run
    dsimp only
    rw [run]
  | none =>
    rw [fault] at run
    obtain ⟨plans, l, run⟩ := run
    dsimp only
    rw [run]
    exact ⟨_, rfl⟩

/-- The last page, looked for in two events of which one has no name, and in no property. -/
def lastPageOfNothing : Attribute :=
  .ofEvents "last_page" .last [⟨"com.acme", "page_view", "1-0-0"⟩, ⟨"com.acme", "", "1-0-0"⟩]

theorem Blueprint.ofAttributes_fault_of_last_page :
    lastPageOfNothing.faults = [.missingEventName "last_page" 1, .missingProperty "last_page" "last"] ∧
    (∀ l : Ledger, lastPageOfNothing.compile.run.run l = (.error (.missingEventName "last_page" 1), l)) ∧
    ofAttributes [lastPageOfKnownUser, lastPageOfNothing] "user_id" = .error (.missingEventName "last_page" 1) := by
  obtain ⟨own, first⟩ := ofAttributes_first_fault [lastPageOfKnownUser, lastPageOfNothing] "user_id"
  exact ⟨rfl, (own lastPageOfNothing).2, first⟩

end AttributeStore
