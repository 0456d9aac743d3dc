import AttributeStore.Proofs.Models.CountedEvents

/-! The events that attributes declare. They are recorded by their addresses, and as soon as the addresses of a view can
be read they tell its events apart: each declared event is recorded once, and no two of them as one. -/
namespace AttributeStore

/-- The events of some attributes, each once, in the order of their first use. -/
def declaredEvents (attributes : List Attribute) : List Event := (attributes.flatMap (·.events)).eraseDups

theorem Event.IsAddressable.reference_injective {e e' : Event} (first : e.IsAddressable) (second : e'.IsAddressable)
    (same : e.reference = e'.reference) : e = e' := by
  have read := EventSchema.parse_reference_eq_ok_iff.mpr ⟨first, rfl⟩
  rw [same, EventSchema.parse_reference_eq_ok_iff.mpr ⟨second, rfl⟩] at read
  cases e
  cases e'
  cases read
  rfl

namespace Ledger

theorem enterAll_events (l : Ledger) (attributes : List Attribute) :
    (l.enterAll attributes).events = record l.events (attributes.flatMap (·.events)) := by
  induction attributes generalizing l with
  | nil => rfl
  | cons a rest ih =>
    rw [List.flatMap_cons, record_append]
    exact ih (l.enter a)

/-- Where addresses tell events apart, what is recorded are the addresses of the events, each event once. -/
theorem record_eq {events : List Event}
    (apart : ∀ e ∈ events, ∀ e' ∈ events, e.reference = e'.reference → e = e') :
    record [] events = events.eraseDups.map Event.reference := by
  induction events using List.reverseRecOn with
  | nil => rfl
  | append_singleton first e ih =>
    have known := ih fun e₁ member₁ e₂ member₂ =>
      apart e₁ (List.mem_append_left _ member₁) e₂ (List.mem_append_left _ member₂)
    have again : e.reference ∈ first.eraseDups.map Event.reference ↔ e ∈ first := by
      rw [List.mem_map]
      constructor
      · rintro ⟨e', member, same⟩
        rw [List.mem_eraseDups] at member
        exact apart e' (by simp [member]) e (by simp) same ▸ member
      · exact fun member => ⟨e, List.mem_eraseDups.mpr member, rfl⟩
    rw [record_append, known, List.eraseDups_append]
    by_cases member : e ∈ first
    · simp [record, again, member, List.removeAll]
    · simp [record, again, member, List.removeAll, List.eraseDups_cons]

/-- An event is taken for a recorded one when its address is recorded. -/
theorem addEvent_eq_self_iff {e : Event} {l : Ledger} : (addEvent e l).1 = l ↔ e.reference ∈ l.events := by
  unfold addEvent
  dsimp only
  split
  case isTrue known => exact iff_of_true rfl known
  case isFalse unknown => exact iff_of_false (fun same => by simpa using congrArg Ledger.events same) unknown

end Ledger

/-- Where the events of a blueprint can be read, no two events have one recorded address. -/
theorem EventsModel.references_apart {b : Blueprint} {m : EventsModel} (built : ofBlueprint b = .ok m) {e e' : Event}
    (recorded : e.reference ∈ b.events) (same : e.reference = e'.reference) : e = e' := by
  obtain ⟨read, -⟩ := ofBlueprint_eq_ok_iff.mp built
  obtain ⟨s, -, parsed⟩ := (exists_of_mapM_eq_ok read).1 e.reference recorded
  obtain ⟨first, -⟩ := EventSchema.parse_reference_eq_ok_iff.mp parsed
  obtain ⟨second, -⟩ := EventSchema.parse_reference_eq_ok_iff.mp (same ▸ parsed)
  exact first.reference_injective second same

section

variable {attributes : List Attribute} {entityKey : String} {b : Blueprint} {m : EventsModel}
  (compiled : Blueprint.ofAttributes attributes entityKey = .ok b) (built : EventsModel.ofBlueprint b = .ok m)

include compiled built

theorem EventsModel.declared_apart {e e' : Event} (declared : e ∈ attributes.flatMap (·.events))
    (same : e.reference = e'.reference) : e = e' := by
  obtain ⟨plans, -, rfl⟩ := Blueprint.ofAttributes_eq_ok_iff.mp compiled
  obtain ⟨a, listed, its⟩ := List.mem_flatMap.mp declared
  exact references_apart built (Ledger.mem_enterAll_events.mpr (.inr ⟨a, listed, e, its, rfl⟩)) same

/-- The first model holds every declared event once, under its address and by its parts. -/
theorem Models.events_declared : b.events = (declaredEvents attributes).map Event.reference ∧
    m.events = (declaredEvents attributes).map Event.schema := by
  have apart : ∀ e ∈ attributes.flatMap (·.events), ∀ e' ∈ attributes.flatMap (·.events),
      e.reference = e'.reference → e = e' :=
    fun e declared e' _ same => EventsModel.declared_apart compiled built declared same
  obtain ⟨plans, -, rfl⟩ := Blueprint.ofAttributes_eq_ok_iff.mp compiled
  obtain ⟨read, -⟩ := EventsModel.ofBlueprint_eq_ok_iff.mp built
  have recorded : (Ledger.enterAll {} attributes).events = (declaredEvents attributes).map Event.reference := by
    rw [Ledger.enterAll_events]
    exact Ledger.record_eq apart
  refine ⟨recorded, ?_⟩
  dsimp only at read
  rw [recorded, mapM_eq_ok_iff, List.forall₂_map_left_iff] at read
  have each : List.Forall₂ Eq ((declaredEvents attributes).map Event.schema) m.events :=
    List.forall₂_map_left_iff.mpr (read.imp fun e s parsed => (EventSchema.parse_reference_eq_ok_iff.mp parsed).2.symm)
  rw [List.forall₂_eq_eq_eq] at each
  exact each.symm

end

/-- Addresses are exact. The address of an event is read exactly when no part of the event is empty or holds a slash,
and what is read is that event. A text is read as some parts exactly when they are whole and it is their address. So in
a list of attributes whose recorded addresses can all be read, an event is taken for one recorded before exactly when it
was declared before, and each declared event is recorded once. -/
theorem EventSchema.addresses_exact :
    (∀ (e : Event) (s : EventSchema), parse e.reference = .ok s ↔ e.IsAddressable ∧ s = e.schema) ∧
    (∀ text s, parse text = .ok s ↔ s.IsWhole ∧ s.address = text) ∧
    ∀ attributes entityKey b m,
      Blueprint.ofAttributes attributes entityKey = .ok b → EventsModel.ofBlueprint b = .ok m →
      (∀ (before : List Event) (e : Event) (after : List Event),
        attributes.flatMap (·.events) = before ++ e :: after →
        ∀ l : Ledger, l.events = Ledger.record [] before → ((Ledger.addEvent e l).1 = l ↔ e ∈ before)) ∧
      b.events = (declaredEvents attributes).map Event.reference ∧
      m.events = (declaredEvents attributes).map Event.schema := by
  refine ⟨fun _ _ => parse_reference_eq_ok_iff, fun _ _ => parse_eq_ok_iff, ?_⟩
  intro attributes entityKey b m compiled built
  refine ⟨fun before e after events l recorded => ?_, Models.events_declared compiled built⟩
  rw [Ledger.addEvent_eq_self_iff, recorded, Ledger.mem_record]
  constructor
  · rintro (none | ⟨e', earlier, same⟩)
    · cases none
    · have declared : e' ∈ attributes.flatMap (·.events) := events ▸ List.mem_append_left _ earlier
      rwa [← EventsModel.declared_apart compiled built declared same]
  · exact fun earlier => .inr ⟨e, earlier, rfl⟩

/-- Views and purchases of one owner, the purchases in two versions: the second version is an event of its own. -/
theorem EventSchema.addresses_exact_of_acme : ∃ b m,
    Blueprint.ofAttributes [pageViewsOf "acme", purchasesOf "acme", pageViewsOf "acme"] "user_id" = .ok b ∧
    EventsModel.ofBlueprint b = .ok m ∧
    b.events = ["iglu:com.acme/page_view/jsonschema/1-0-0", "iglu:com.acme/purchase/jsonschema/1-0-0",
      "iglu:com.acme/purchase/jsonschema/2-0-0"] := by
  have run : ((Blueprint.ofAttributes [pageViewsOf "acme", purchasesOf "acme", pageViewsOf "acme"] "user_id" >>=
      Models.ofBlueprint).map fun m => m.events.events.length).toOption = some 3 := by
    decide +kernel
  obtain ⟨b, m, compiled, built, -⟩ := Models.exists_of_run run
  have events := (Models.ofBlueprint_eq_ok_iff.mp built).1
  obtain ⟨-, recorded, -⟩ := addresses_exact.2.2 _ _ _ _ compiled events
  exact ⟨b, m.events, compiled, events, by rw [recorded]; decide⟩

end AttributeStore
