import AttributeStore.Models.Build
import AttributeStore.Proofs.Outcome
import AttributeStore.Proofs.Text.Splitting

/-! Addresses of events. An address is cut at its slashes and must have four parts, so an event whose address can be
read has no slash anywhere, and what is read are its own vendor, name and version. -/
namespace AttributeStore

/-- The parts of an event's address. -/
def Event.schema (e : Event) : EventSchema := ⟨e.vendor, e.name, "jsonschema", e.version⟩

/-- An event whose address can be read: no part of it is empty, and none holds a slash. -/
structure Event.IsAddressable (e : Event) : Prop where
  nonempty : e.vendor ≠ "" ∧ e.name ≠ "" ∧ e.version ≠ ""
  uncut : '/' ∉ e.vendor.toList ∧ '/' ∉ e.name.toList ∧ '/' ∉ e.version.toList

namespace EventSchema

def parts (s : EventSchema) : List String := [s.vendor, s.name, s.format, s.version]

/-- The address that is made of some parts. -/
def address (s : EventSchema) : String := "iglu:" ++ "/".intercalate s.parts

/-- Parts of an address: none is empty, and none holds a slash. -/
def IsWhole (s : EventSchema) : Prop := ∀ part ∈ s.parts, part ≠ "" ∧ '/' ∉ part.toList

theorem parts_injective : Function.Injective parts := by
  rintro ⟨⟩ ⟨⟩ same
  simpa [parts] using same

theorem address_toList (s : EventSchema) :
    s.address.toList = "iglu:".toList ++ ['/'].intercalate (s.parts.map String.toList) := by
  rw [address, String.toList_append, String.toList_intercalate]
  rfl

/-- What can be read is an address of four parts. -/
theorem parse_eq_ok_iff {text : String} {s : EventSchema} : parse text = .ok s ↔ s.IsWhole ∧ s.address = text := by
  unfold parse
  dsimp only
  constructor
  · intro read
    split at read
    case isTrue => cases read
    case isFalse scheme =>
      obtain ⟨path, split⟩ : "iglu:".toList <+: text.toList := by simpa using scheme
      rw [← split, List.drop_left] at read
      split at read
      case h_2 => cases read
      case h_1 vendor name format version pieces =>
        split at read
        case isTrue => cases read
        case isFalse nonempty =>
          cases read
          have cut := congrArg (List.map String.toList) pieces
          simp only [List.map_map, Function.comp_def, String.toList_ofList, List.map_id'] at cut
          obtain ⟨-, uncut, joined⟩ := Text.splitAt_eq_iff.mp cut
          have some : ∀ part ∈ [vendor, name, format, version], part ≠ "" := by simpa using nonempty
          refine ⟨fun part member => ⟨some part member, uncut _ (List.mem_map_of_mem member)⟩, ?_⟩
          rw [← String.toList_inj, address_toList, ← split, ← joined]
          rfl
  · rintro ⟨whole, rfl⟩
    have cut : Text.splitAt '/' (['/'].intercalate (s.parts.map String.toList)) = s.parts.map String.toList :=
      Text.splitAt_eq_iff.mpr ⟨by simp [parts], by simpa using fun part member => (whole part member).2, rfl⟩
    have scheme : "iglu:".toList.isPrefixOf s.address.toList = true := by
      rw [List.isPrefixOf_iff_prefix, address_toList]
      exact List.prefix_append ..
    rw [scheme, address_toList, List.drop_left, cut]
    simp_all [IsWhole, parts]

theorem address_schema (e : Event) : e.schema.address = e.reference := by
  simp [← String.toList_inj, address, parts, Event.schema, Event.reference, String.intercalate_cons_cons, toString]

/-- The address of an event reads as that event, or not at all. -/
theorem parse_reference_eq_ok_iff {e : Event} {s : EventSchema} :
    parse e.reference = .ok s ↔ e.IsAddressable ∧ s = e.schema := by
  rw [parse_eq_ok_iff, ← address_schema]
  have whole : e.schema.IsWhole ↔ e.IsAddressable := by
    simp only [IsWhole, parts, Event.schema, List.forall_mem_cons, List.not_mem_nil, false_imp_iff, implies_true,
      and_true]
    constructor
    · rintro ⟨⟨vendor, plainVendor⟩, ⟨name, plainName⟩, -, version, plainVersion⟩
      exact ⟨⟨vendor, name, version⟩, plainVendor, plainName, plainVersion⟩
    · rintro ⟨⟨vendor, name, version⟩, plainVendor, plainName, plainVersion⟩
      exact ⟨⟨vendor, plainVendor⟩, ⟨name, plainName⟩, ⟨by decide, by decide⟩, version, plainVersion⟩
  constructor
  · rintro ⟨uncut, same⟩
    have path := congrArg String.toList same
    rw [address_toList, address_toList] at path
    have parts := Text.eq_of_intercalate_eq (by simpa using fun part member => (uncut part member).2) (by rfl)
      (List.append_cancel_left path)
    obtain rfl : s = e.schema := parts_injective (List.map_injective_iff.mpr (fun _ _ => String.toList_injective) parts)
    exact ⟨whole.mp uncut, rfl⟩
  · rintro ⟨addressable, rfl⟩
    exact ⟨whole.mpr addressable, rfl⟩

end EventSchema

end AttributeStore
