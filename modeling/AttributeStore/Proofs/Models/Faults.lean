import AttributeStore.Proofs.Models.CountedEvents
import AttributeStore.Proofs.Models.DailyColumns
import AttributeStore.Proofs.Models.Routing

/-! What keeps compiled attributes from becoming models. Compilation settles everything that the models ask of a plan
but three things: that addresses of events can be read, that what is folded has a property, and that conditions can be
written. Whatever fails, fails for one of these in one attribute. -/
namespace AttributeStore

/-- Texts and lists have no order. -/
def Operand.hasOrder : Operand → Bool
  | .str _ | .list _ => false
  | _ => true

namespace Sql

variable {subject : String} {e : CompileError}

theorem condition_eq_error_iff {c : Criterion} : condition subject c = .error e ↔
    c.operator.isOrdering ∧ ¬c.value.hasOrder ∧ e = .invalidFilterOperator subject c.operator c.value := by
  obtain ⟨property, operator, value⟩ := c
  cases operator
  case lt | gt | ltEq | gtEq => cases value <;> simp [condition, Operator.isOrdering, Operand.hasOrder, eq_comm]
  all_goals simp [condition, Operator.isOrdering]

theorem clause_eq_error {c : Criteria} (fails : clause subject c = .error e) :
    ∃ d ∈ c.all ++ c.any, condition subject d = .error e := by
  simp only [clause, conditions_eq_mapM, bind_eq_error_iff] at fails
  rcases fails with fails | ⟨_, -, fails | ⟨_, -, impossible⟩⟩
  · obtain ⟨d, member, fails⟩ := exists_of_mapM_eq_error fails
    exact ⟨d, List.mem_append_left _ member, fails⟩
  · obtain ⟨d, member, fails⟩ := exists_of_mapM_eq_error fails
    exact ⟨d, List.mem_append_right _ member, fails⟩
  · cases impossible

theorem validate_eq_error {text : String} (fails : validate subject text = .error e) :
    ∃ fault, Expr.parse text = .error fault ∧ e = .invalidSql subject text fault := by
  unfold validate at fails
  split at fails
  · cases fails
  · split at fails
    case h_1 => cases fails
    case h_2 fault parsed =>
      cases fails
      exact ⟨fault, parsed, rfl⟩

theorem rowExpression_eq_error_iff {fold : Fold} {text : String} {property : Option String} :
    rowExpression subject fold text property = .error e ↔
      fold ≠ .count ∧ property = none ∧ e = .missingProperty subject fold.name := by
  cases fold <;> cases property <;> simp [rowExpression, @eq_comm _ _ e]

end Sql

theorem Event.not_isAddressable_iff {e : Event} (named : e.name ≠ "") : ¬e.IsAddressable ↔ e.vendor = "" ∨
    e.version = "" ∨ '/' ∈ e.vendor.toList ∨ '/' ∈ e.name.toList ∨ '/' ∈ e.version.toList := by
  have addressable : e.IsAddressable ↔ ¬(e.vendor = "" ∨ e.version = "" ∨ '/' ∈ e.vendor.toList ∨
      '/' ∈ e.name.toList ∨ '/' ∈ e.version.toList) := by
    simp only [not_or]
    exact ⟨fun ⟨⟨vendor, _, version⟩, uncut⟩ => ⟨vendor, version, uncut⟩,
      fun ⟨vendor, version, uncut⟩ => ⟨⟨vendor, named, version⟩, uncut⟩⟩
  rw [addressable, not_not]

theorem EventSchema.parse_eq_error {reference : String} {e : CompileError} (fails : parse reference = .error e) :
    ∃ fault, e = .invalidEventReference reference fault := by
  unfold parse at fails
  dsimp only at fails
  split at fails
  · cases fails
    exact ⟨_, rfl⟩
  · split at fails
    · split at fails
      · cases fails
        exact ⟨_, rfl⟩
      · cases fails
    · cases fails
      exact ⟨_, rfl⟩

namespace Attribute

variable {bindings : List Column.Binding} {a : Attribute} {p : Plan}

/-- What is wrong with an attribute where it is to blame for an error. -/
def Explains (a : Attribute) : CompileError → Prop
  | .invalidEventReference reference _ => ∃ e ∈ a.events, e.reference = reference ∧ ¬e.IsAddressable
  | .missingProperty subject function => subject = a.name ∧ function = a.aggregation.name ∧
      a.aggregation ∈ [.sum, .min, .max, .uniqueList] ∧ a.propertyPath = none
  | .invalidFilterOperator subject operator value => subject = a.name ∧ operator.isOrdering ∧ ¬value.hasOrder ∧
      ∃ c ∈ a.declared, c.operator = operator ∧ c.value = value
  | .invalidSql subject clause fault => subject = a.name ∧ Sql.Expr.parse clause = .error fault
  | .malformedPlan _ | .invalidPeriodValue .. | .unsupportedAggregation .. | .missingEventName .. |
    .invalidCriteria _ | .invalidAttributeType _ => False

theorem explains_of_condition {c : Criterion} {e : CompileError}
    (member : c ∈ (a.criteriaIn bindings).all ++ (a.criteriaIn bindings).any)
    (fails : Sql.condition a.name c = .error e) : a.Explains e := by
  obtain ⟨ordering, unordered, rfl⟩ := Sql.condition_eq_error_iff.mp fails
  rw [criteriaIn_conditions, List.mem_cons, List.mem_map] at member
  rcases member with rfl | ⟨d, declared, rfl⟩
  · cases ordering
  · exact ⟨rfl, ordering, unordered, d, declared, rfl, rfl⟩

theorem explains_of_fold {fold : Fold} (known : a.fold = .ok fold) (folds : ¬fold.isPositional)
    (counts : fold ≠ .count) (lacking : a.propertyPath = none) : a.Explains (.missingProperty a.name fold.name) := by
  rw [fold_eq_ok_iff] at known
  refine ⟨rfl, ?_, ?_, lacking⟩ <;> cases kind : a.aggregation <;> rw [kind] at known <;> cases known <;>
    first | rfl | exact absurd rfl folds | exact absurd rfl counts | decide

/-- Where a compiled attribute has no daily column, its filter cannot be written or read, or it folds nothing. -/
theorem explains_of_dailyEntry {e : CompileError} (planned : a.planIn bindings = .ok p)
    (fails : p.dailyEntry = .error e) : a.Explains e := by
  obtain ⟨fold, daily, known, -, -, rfl⟩ := planIn_eq_ok_iff.mp planned
  rw [Plan.dailyEntry_eq rfl rfl] at fails
  split at fails
  case isTrue => cases fails
  case isFalse folds =>
    simp only [map_eq_error_iff, Plan.foldedColumn_eq, bind_eq_error_iff] at fails
    rcases fails with unwritten | ⟨clause, -, invalid | ⟨_, -, lacking | ⟨_, -, impossible⟩⟩⟩
    · obtain ⟨c, member, fails⟩ := Sql.clause_eq_error unwritten
      exact explains_of_condition member fails
    · obtain ⟨fault, parsed, rfl⟩ := Sql.validate_eq_error invalid
      exact ⟨rfl, parsed⟩
    · obtain ⟨counts, none, rfl⟩ := Sql.rowExpression_eq_error_iff.mp lacking
      exact explains_of_fold known folds counts (Option.map_eq_none_iff.mp none)
    · cases impossible

/-- The final column of an attribute: its name, and its period as a window of whole days. -/
structure IsFinal (a : Attribute) (final : FinalColumn) : Prop where
  name : final.name = a.name
  days : final.days.map (·.toInt) = a.period.map fun p => (p.numDays : Int)

theorem exists_isFinal (planned : a.planIn bindings = .ok p) :
    ∃ final, p.finalColumn = .ok (final, a.bucket) ∧ a.IsFinal final := by
  obtain ⟨_, _, -, -, column⟩ := finalColumn_eq_of_planIn planned
  refine ⟨_, column, rfl, ?_⟩
  rw [Option.map_map]
  exact congrArg (a.period.map ·) (funext Period.toInt_numDays)

theorem validate_events (valid : a.validate = .ok ()) : ∀ e ∈ a.events, e.name ≠ "" := by
  unfold validate at valid
  split at valid
  case h_1 => cases valid
  case h_2 all => simpa using List.findIdx?_eq_none_iff.mp all

end Attribute

theorem EventsModel.exists_unaddressable {b : Blueprint} {e : CompileError} {attributes : List Attribute}
    (events : b.events = (Ledger.enterAll {} attributes).events) (fails : ofBlueprint b = .error e) :
    ∃ a ∈ attributes, ∃ event ∈ a.events, ¬event.IsAddressable ∧
      ∃ fault, e = .invalidEventReference event.reference fault := by
  simp only [ofBlueprint, bind_eq_error_iff, events] at fails
  rcases fails with fails | ⟨_, -, impossible⟩
  · obtain ⟨reference, listed, unread⟩ := exists_of_mapM_eq_error fails
    obtain ⟨a, member, event, its, rfl⟩ := (Ledger.mem_enterAll_events.mp listed).resolve_left List.not_mem_nil
    refine ⟨a, member, event, its, fun addressable => ?_, EventSchema.parse_eq_error unread⟩
    have read := EventSchema.parse_reference_eq_ok_iff.mpr ⟨addressable, rfl⟩
    cases unread.symm.trans read
  · cases impossible

section

variable {attributes : List Attribute} {bindings : List Column.Binding} {plans : List Plan}
  (planned : List.Forall₂ (fun a p => a.planIn bindings = .ok p) attributes plans)
include planned

theorem DailyModel.exists_explains {e : CompileError} (fails : ofPlans plans = .error e) :
    ∃ a ∈ attributes, a.Explains e := by
  rw [ofPlans_eq, map_eq_error_iff] at fails
  obtain ⟨p, listed, fails⟩ := exists_of_mapM_eq_error fails
  obtain ⟨a, member, plan⟩ := (exists_of_mapM_eq_ok (mapM_eq_ok_iff.mpr planned)).2 p listed
  exact ⟨a, member, Attribute.explains_of_dailyEntry plan fails⟩

/-- Final columns never fail. -/
theorem Buckets.ofPlans_ne_error {e : CompileError} : ofPlans plans ≠ .error e := by
  intro fails
  unfold ofPlans at fails
  simp only [foldlM_push, bind_eq_error_iff, map_eq_error_iff] at fails
  rcases fails with fails | ⟨_, -, impossible⟩
  · obtain ⟨p, listed, fails⟩ := exists_of_mapM_eq_error fails
    obtain ⟨a, -, plan⟩ := (exists_of_mapM_eq_ok (mapM_eq_ok_iff.mpr planned)).2 p listed
    obtain ⟨final, computed, -⟩ := Attribute.exists_isFinal plan
    cases fails.symm.trans computed
  · cases impossible

end

/-- What fails is the address of an event or the daily column of an attribute. -/
theorem Models.exists_explains {attributes : List Attribute} {entityKey : String} {b : Blueprint}
    (compiled : Blueprint.ofAttributes attributes entityKey = .ok b) {e : CompileError}
    (fails : ofBlueprint b = .error e) : ∃ a ∈ attributes, a.Explains e := by
  obtain ⟨plans, planned, rfl⟩ := Blueprint.ofAttributes_eq_ok_iff.mp compiled
  simp only [ofBlueprint, bind_eq_error_iff] at fails
  rcases fails with events | ⟨_, -, daily | ⟨_, -, buckets | ⟨_, -, impossible⟩⟩⟩
  · obtain ⟨a, member, event, its, unread, fault, rfl⟩ := EventsModel.exists_unaddressable rfl events
    exact ⟨a, member, event, its, rfl, unread⟩
  · exact DailyModel.exists_explains planned daily
  · exact absurd buckets (Buckets.ofPlans_ne_error planned)
  · cases impossible

/-- An event whose address cannot be read is found before anything else is built. -/
theorem Models.invalidEventReference_iff {attributes : List Attribute} {entityKey : String} {b : Blueprint}
    (compiled : Blueprint.ofAttributes attributes entityKey = .ok b) :
    (∃ reference fault, ofBlueprint b = .error (.invalidEventReference reference fault)) ↔
      ∃ a ∈ attributes, ∃ e ∈ a.events, ¬e.IsAddressable := by
  constructor
  · rintro ⟨reference, fault, fails⟩
    obtain ⟨a, member, e, its, -, unread⟩ := exists_explains compiled fails
    exact ⟨a, member, e, its, unread⟩
  · rintro ⟨a, member, e, its, unread⟩
    obtain ⟨plans, planned, rfl⟩ := Blueprint.ofAttributes_eq_ok_iff.mp compiled
    let b : Blueprint := ⟨(Ledger.enterAll {} attributes).events, (Ledger.enterAll {} attributes).resolved,
      (Ledger.enterAll {} attributes).periods, plans, entityKey⟩
    cases events : EventsModel.ofBlueprint b with
    | ok m =>
      obtain ⟨parsed, -⟩ := EventsModel.ofBlueprint_eq_ok_iff.mp events
      have listed : e.reference ∈ b.events := Ledger.mem_enterAll_events.mpr (.inr ⟨a, member, e, its, rfl⟩)
      obtain ⟨s, -, read⟩ := (exists_of_mapM_eq_ok parsed).1 _ listed
      exact absurd (EventSchema.parse_reference_eq_ok_iff.mp read).1 unread
    | error fails =>
      obtain ⟨_, _, event, _, _, fault, rfl⟩ := EventsModel.exists_unaddressable rfl events
      exact ⟨event.reference, fault, bind_eq_error_iff.mpr (.inl events)⟩

/-- Compiled attributes become models, or one of them explains why they do not. The addresses of the events fail
exactly when one of them has an empty part or a slash in a part. In models that can be built every attribute has its
final column, and every final column is an attribute's. -/
theorem Models.ofBlueprint_explained {attributes : List Attribute} {entityKey : String} {b : Blueprint}
    (compiled : Blueprint.ofAttributes attributes entityKey = .ok b) :
    (∀ e, ofBlueprint b = .error e → ∃ a ∈ attributes, a.Explains e) ∧
    ((∃ reference fault, ofBlueprint b = .error (.invalidEventReference reference fault)) ↔
      ∃ a ∈ attributes, ∃ e ∈ a.events, e.vendor = "" ∨ e.version = "" ∨
        '/' ∈ e.vendor.toList ∨ '/' ∈ e.name.toList ∨ '/' ∈ e.version.toList) ∧
    ∀ m, ofBlueprint b = .ok m →
      (∀ a ∈ attributes, ∃ final ∈ m.buckets.get a.bucket, a.IsFinal final) ∧
      ∀ bucket, ∀ final ∈ m.buckets.get bucket, ∃ a ∈ attributes, a.bucket = bucket ∧ a.IsFinal final := by
  obtain ⟨plans, planned, rfl⟩ := Blueprint.ofAttributes_eq_ok_iff.mp compiled
  obtain ⟨plan, origin⟩ := exists_of_mapM_eq_ok (mapM_eq_ok_iff.mpr planned)
  have named : ∀ a ∈ attributes, ∀ e ∈ a.events, e.name ≠ "" := by
    intro a member
    obtain ⟨p, -, planned⟩ := plan a member
    obtain ⟨_, _, -, valid, -⟩ := Attribute.planIn_eq_ok_iff.mp planned
    exact Attribute.validate_events valid
  refine ⟨fun e => exists_explains compiled, ?addresses, ?columns⟩
  case addresses =>
    rw [invalidEventReference_iff compiled]
    exact exists_congr fun a => and_congr_right fun member => exists_congr fun e => and_congr_right fun its =>
      Event.not_isAddressable_iff (named a member e its)
  case columns =>
    intro m built
    obtain ⟨-, -, buckets⟩ := ofBlueprint_eq_ok_iff.mp built
    refine ⟨fun a member => ?_, fun bucket final member => ?_⟩
    · obtain ⟨p, listed, planned⟩ := plan a member
      obtain ⟨final, computed, its⟩ := Attribute.exists_isFinal planned
      exact ⟨final, (Buckets.mem_get buckets).mpr ⟨p, listed, computed⟩, its⟩
    · obtain ⟨p, listed, computed⟩ := (Buckets.mem_get buckets).mp member
      obtain ⟨a, declared, planned⟩ := origin p listed
      obtain ⟨final', same, its⟩ := Attribute.exists_isFinal planned
      obtain ⟨rfl, rfl⟩ := Prod.mk.inj (Except.ok.inj (computed.symm.trans same))
      exact ⟨a, declared, rfl, its⟩

/-- The orders of 36 hours that a vendor's shop has taken. -/
def recentOrders (vendor : String) : Attribute :=
  { Attribute.ofEvents "recent_orders" .counter [⟨vendor, "order", "1-0-0"⟩] with period := some (.hours 36) }

theorem Models.recentOrders_explained :
    (∃ b, Blueprint.ofAttributes [recentOrders "com/acme"] "user_id" = .ok b ∧
      ∃ reference fault, ofBlueprint b = .error (.invalidEventReference reference fault)) ∧
    ∃ b m, Blueprint.ofAttributes [recentOrders "com.acme"] "user_id" = .ok b ∧ ofBlueprint b = .ok m ∧
      ∃ final ∈ m.buckets.lastNDays, final.name = "recent_orders" ∧ final.days.map (·.toInt) = some 1 := by
  constructor
  · have compiled : ((Blueprint.ofAttributes [recentOrders "com/acme"] "user_id").map (·.plans.length)).toOption =
        some 1 := by decide +kernel
    obtain ⟨b, compiled, -⟩ := map_eq_ok_iff.mp (eq_ok_of_toOption compiled)
    refine ⟨b, compiled, (ofBlueprint_explained compiled).2.1.mpr ⟨_, List.mem_singleton_self _, ?_⟩⟩
    exact ⟨⟨"com/acme", "order", "1-0-0"⟩, List.mem_singleton_self _, by decide⟩
  · have run : ((Blueprint.ofAttributes [recentOrders "com.acme"] "user_id" >>= ofBlueprint).map
        (·.buckets.size)).toOption = some 1 := by decide +kernel
    obtain ⟨b, m, compiled, built, -⟩ := exists_of_run run
    obtain ⟨final, member, named, days⟩ :=
      ((ofBlueprint_explained compiled).2.2 m built).1 _ (List.mem_singleton_self _)
    exact ⟨b, m, compiled, built, final, member, named, days⟩

end AttributeStore
