import AttributeStore.Proofs.Models.Buckets
import AttributeStore.Proofs.Models.EventAddress
import AttributeStore.Proofs.Plan.Compilation

/-! Events that attributes count. The events of all attributes of a view pass its first model, each by vendor, name
and version. After that an attribute tells them apart by name alone: it counts every event of the view that bears one
of its names. -/
namespace AttributeStore

namespace Ledger

theorem mem_record {known : List String} {events : List Event} {reference : String} :
    reference ∈ record known events ↔ reference ∈ known ∨ ∃ e ∈ events, e.reference = reference := by
  induction events generalizing known with
  | nil => simp [record]
  | cons e rest ih =>
    rw [record, List.foldl_cons, ← record, ih]
    by_cases again : e.reference ∈ known
    · rw [if_pos again, List.exists_mem_cons_iff, or_left_comm]
      exact (or_iff_right_of_imp fun same => .inl (same ▸ again)).symm
    · rw [if_neg again, List.mem_append, List.mem_singleton, List.exists_mem_cons_iff, or_assoc, eq_comm]

theorem mem_enterAll_events {l : Ledger} {attributes : List Attribute} {reference : String} :
    reference ∈ (l.enterAll attributes).events ↔
      reference ∈ l.events ∨ ∃ a ∈ attributes, ∃ e ∈ a.events, e.reference = reference := by
  induction attributes generalizing l with
  | nil => simp [enterAll]
  | cons a rest ih =>
    have entered : (l.enterAll (a :: rest)).events = ((l.enter a).enterAll rest).events := rfl
    rw [entered, ih, List.exists_mem_cons_iff, ← or_assoc]
    exact or_congr_left mem_record

end Ledger

/-- The first model lets an event through: one of its entries has the event's vendor, name and version. -/
def EventsModel.Passes (m : EventsModel) (e : Event) : Prop :=
  ∃ s ∈ m.events, s.vendor = e.vendor ∧ s.name = e.name ∧ s.version = e.version

/-- The daily step of a plan asks for events that bear one of some names, before it asks for anything else. -/
def Plan.AsksFor (p : Plan) (names : List String) : Prop :=
  ∃ others any, p.daily.criteria = some ⟨⟨eventNameColumn, .isIn, .list (names.map .str)⟩ :: others, any⟩

/-- The events that a plan counts among those of its view. -/
def Plan.Counts (p : Plan) (m : EventsModel) (e : Event) : Prop :=
  m.Passes e ∧ ∃ names, p.AsksFor names ∧ e.name ∈ names

theorem Plan.AsksFor.unique {p : Plan} {names names' : List String} (asks : p.AsksFor names)
    (asks' : p.AsksFor names') : names = names' := by
  obtain ⟨others, any, criteria⟩ := asks
  obtain ⟨others', any', criteria'⟩ := asks'
  have same := Option.some.inj (criteria.symm.trans criteria')
  simp only [Criteria.mk.injEq, List.cons.injEq, Criterion.mk.injEq, Operand.list.injEq] at same
  exact List.map_injective_iff.mpr (fun _ _ texts => Operand.str.inj texts) same.1.1.2.2

namespace Attribute

/-- The names of an attribute's events. -/
def eventNames (a : Attribute) : List String := a.events.map (·.name)

theorem asksFor_of_planIn {a : Attribute} {bindings : List Column.Binding} {p : Plan}
    (planned : a.planIn bindings = .ok p) : p.AsksFor a.eventNames := by
  obtain ⟨_, _, _, _, _, rfl⟩ := planIn_eq_ok_iff.mp planned
  have asked : a.eventCondition = ⟨eventNameColumn, .isIn, .list (a.eventNames.map .str)⟩ := by
    simp [eventCondition, eventNames, Function.comp_def]
  unfold Plan.AsksFor
  simp only [assemble, criteriaIn, asked]
  cases a.activeCriteria with
  | none => exact ⟨_, _, rfl⟩
  | some declared =>
    dsimp only
    split <;> exact ⟨_, _, rfl⟩

end Attribute

/-- The events of all attributes pass, and no other event. -/
theorem EventsModel.passes_iff {attributes : List Attribute} {entityKey : String} {b : Blueprint} {m : EventsModel}
    (compiled : Blueprint.ofAttributes attributes entityKey = .ok b) (built : ofBlueprint b = .ok m) {e : Event} :
    m.Passes e ↔ ∃ a ∈ attributes, e ∈ a.events := by
  obtain ⟨plans, -, rfl⟩ := Blueprint.ofAttributes_eq_ok_iff.mp compiled
  obtain ⟨read, -⟩ := ofBlueprint_eq_ok_iff.mp built
  obtain ⟨parsed, origin⟩ := exists_of_mapM_eq_ok read
  have recorded {reference : String} : reference ∈ (Ledger.enterAll {} attributes).events ↔
      ∃ a ∈ attributes, ∃ e ∈ a.events, e.reference = reference := by
    rw [Ledger.mem_enterAll_events]
    exact or_iff_right List.not_mem_nil
  constructor
  · rintro ⟨s, member, vendor, name, version⟩
    obtain ⟨reference, listed, reads⟩ := origin s member
    obtain ⟨a, declared, other, its, rfl⟩ := recorded.mp listed
    obtain ⟨-, rfl⟩ := EventSchema.parse_reference_eq_ok_iff.mp reads
    obtain rfl : other = e := by
      cases other
      cases e
      simp_all [Event.schema]
    exact ⟨a, declared, its⟩
  · rintro ⟨a, declared, its⟩
    obtain ⟨s, member, reads⟩ := parsed _ (recorded.mpr ⟨a, declared, e, its, rfl⟩)
    obtain ⟨-, rfl⟩ := EventSchema.parse_reference_eq_ok_iff.mp reads
    exact ⟨_, member, rfl, rfl, rfl⟩

/-- Each attribute of a view counts its own events, and of the others' events those that bear one of its names: it
counts none but its own exactly when no attribute of the view declares another event of such a name. -/
theorem Models.counted_events_iff {attributes : List Attribute} {entityKey : String} {b : Blueprint} {m : Models}
    (compiled : Blueprint.ofAttributes attributes entityKey = .ok b) (built : ofBlueprint b = .ok m) :
    List.Forall₂ (fun a p => p.AsksFor a.eventNames ∧
      (∀ e, p.Counts m.events e ↔ (∃ other ∈ attributes, e ∈ other.events) ∧ e.name ∈ a.eventNames) ∧
      ((∀ e, p.Counts m.events e → e ∈ a.events) ↔
        ∀ other ∈ attributes, ∀ e ∈ other.events, e.name ∈ a.eventNames → e ∈ a.events)) attributes b.plans := by
  obtain ⟨events, -, -⟩ := ofBlueprint_eq_ok_iff.mp built
  have passes {e : Event} : m.events.Passes e ↔ ∃ a ∈ attributes, e ∈ a.events :=
    EventsModel.passes_iff compiled events
  obtain ⟨plans, planned, rfl⟩ := Blueprint.ofAttributes_eq_ok_iff.mp compiled
  refine planned.imp fun a p plan => ?_
  have asks := Attribute.asksFor_of_planIn plan
  have counts (e : Event) :
      p.Counts m.events e ↔ (∃ other ∈ attributes, e ∈ other.events) ∧ e.name ∈ a.eventNames := by
    refine and_congr passes ⟨?_, fun named => ⟨_, asks, named⟩⟩
    rintro ⟨names, asks', named⟩
    rwa [asks.unique asks']
  refine ⟨asks, counts, ?_⟩
  simp only [counts]
  constructor
  · exact fun own other declared e its named => own e ⟨⟨other, declared, its⟩, named⟩
  · rintro alone e ⟨⟨other, declared, its⟩, named⟩
    exact alone other declared e its named

/-- The page views of one owner. -/
def pageViewsOf (owner : String) : Attribute :=
  .ofEvents (owner ++ "_page_views") .counter [⟨"com." ++ owner, "page_view", "1-0-0"⟩]

/-- The purchases of one owner, in two versions. -/
def purchasesOf (owner : String) : Attribute :=
  .ofEvents (owner ++ "_purchases") .counter
    [⟨"com." ++ owner, "purchase", "1-0-0"⟩, ⟨"com." ++ owner, "purchase", "2-0-0"⟩]

theorem Models.counted_events_of_one_vendor : ∃ b m p q,
    Blueprint.ofAttributes [pageViewsOf "acme", purchasesOf "acme"] "user_id" = .ok b ∧
    ofBlueprint b = .ok m ∧ b.plans = [p, q] ∧
    (∀ e, p.Counts m.events e → e ∈ (pageViewsOf "acme").events) ∧
    ∀ e, q.Counts m.events e → e ∈ (purchasesOf "acme").events := by
  have run : ((Blueprint.ofAttributes [pageViewsOf "acme", purchasesOf "acme"] "user_id" >>=
      ofBlueprint).map fun m => m.events.events.length).toOption = some 3 := by
    decide +kernel
  obtain ⟨b, m, compiled, built, -⟩ := exists_of_run run
  have counted := counted_events_iff compiled built
  simp only [List.forall₂_cons_left_iff, List.forall₂_nil_left_iff] at counted
  obtain ⟨p, others, ⟨-, -, views⟩, ⟨q, none, ⟨-, -, purchases⟩, rfl, rfl⟩, plans⟩ := counted
  exact ⟨b, m, p, q, compiled, built, plans, views.mpr (by decide), purchases.mpr (by decide)⟩

/-- Two vendors have events of one name: the page views of the first are counted with those of the second. -/
theorem Models.page_views_of_another_vendor : ∃ b m p,
    Blueprint.ofAttributes [pageViewsOf "acme", pageViewsOf "other"] "user_id" = .ok b ∧
    ofBlueprint b = .ok m ∧ b.plans.head? = some p ∧
    p.Counts m.events ⟨"com.other", "page_view", "1-0-0"⟩ ∧
    ⟨"com.other", "page_view", "1-0-0"⟩ ∉ (pageViewsOf "acme").events := by
  have run : ((Blueprint.ofAttributes [pageViewsOf "acme", pageViewsOf "other"] "user_id" >>=
      ofBlueprint).map fun m => m.events.events).toOption =
        some [⟨"com.acme", "page_view", "jsonschema", "1-0-0"⟩, ⟨"com.other", "page_view", "jsonschema", "1-0-0"⟩] := by
    decide +kernel
  obtain ⟨b, m, compiled, built, events⟩ := exists_of_run run
  obtain ⟨plans, planned, same⟩ := Blueprint.ofAttributes_eq_ok_iff.mp compiled
  obtain ⟨p, others, first, -, rfl⟩ := List.forall₂_cons_left_iff.mp planned
  refine ⟨b, m, p, compiled, built, by rw [← same]; rfl, ⟨?_, ?_⟩, by decide⟩
  · exact ⟨⟨"com.other", "page_view", "jsonschema", "1-0-0"⟩, by rw [events]; decide, rfl, rfl, rfl⟩
  · exact ⟨_, Attribute.asksFor_of_planIn first, by decide⟩

end AttributeStore
