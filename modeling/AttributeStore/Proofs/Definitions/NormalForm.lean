import AttributeStore.View
import AttributeStore.Proofs.Json.Compact
import AttributeStore.Proofs.Json.Keeping
import AttributeStore.Proofs.Json.Recalling
import AttributeStore.Proofs.Period.Iso
import AttributeStore.Proofs.Plan.Files

/-! Definitions and what is written for them. Whatever a view, a service or an attribute has been read from, it is
written in one form, and this form is read as the same definition. -/
namespace AttributeStore

open Json

namespace Json

/-- What the codec reads has one written form, which is read as the same value: in memory, where fields stand in order,
and as a text, on one line or on many. A text is read back as far as its doubles are; a value in memory may moreover go
deeper than any text that can be read. -/
structure Codec.HasNormalForm (c : Codec α) : Prop where
  memory : ∀ v a, c.ofJson v = .ok a → c.ofJson (c.encode a).ordered = .ok a
  text : ∀ s a, c.ofText s = .ok a → (∀ x ∈ (c.encode a).floats, ReadsBack x) →
    c.ofText (c.encode a).compact = .ok a ∧ c.ofText (c.encode a).pretty = .ok a
  textOfMemory : ∀ v a, c.ofJson v = .ok a → (c.encode a).Legible → (c.encode a).levels ≤ maxDepth →
    c.ofText (c.encode a).compact = .ok a ∧ c.ofText (c.encode a).pretty = .ok a
  memoryOfText : ∀ s a, c.ofText s = .ok a → c.ofJson (c.encode a).ordered = .ok a

theorem Codec.decode_of_ofText {c : Codec α} {s : String} {a : α} (read : c.ofText s = .ok a) :
    c.decode .text (Json.read s).1 = .ok a := by
  obtain ⟨b, decoded, rest⟩ := bind_eq_ok_iff.mp read
  split at rest
  case h_1 =>
    cases rest
    exact decoded
  case h_2 => cases rest

theorem Codec.Recalls.ofJson {c : Codec α} {P : α → Prop} (recalls : c.Recalls P) {a : α} (holds : P a) :
    c.ofJson (c.encode a).ordered = .ok a := by
  obtain ⟨distinct, decoded⟩ := recalls a holds
  exact decoded .memory _ (shows_ordered _ distinct)

theorem Codec.Recalls.ofText {c : Codec α} {P : α → Prop} (recalls : c.Recalls P) {a : α} (holds : P a)
    (legible : (c.encode a).Legible) (shallow : (c.encode a).levels ≤ maxDepth) :
    c.ofText (c.encode a).compact = .ok a ∧ c.ofText (c.encode a).pretty = .ok a := by
  have decoded := (recalls a holds).2 .text _ (shows_readingAt _ (fits_top.mpr shallow))
  have whole {s : String} (read : Json.read s = ((c.encode a).readingAt 0, none)) : c.ofText s = .ok a := by
    rw [Codec.ofText, read]
    dsimp only
    rw [decoded]
    rfl
  exact ⟨whole (read_compact legible), whole (read_pretty legible)⟩

/-- A codec that knows all it reads by what it writes, and writes no more levels than it has read but for a few. -/
theorem Codec.hasNormalForm {c : Codec α} {P : α → Prop} {least : Nat} (keeps : c.Keeps least P)
    (few : least ≤ maxDepth) (recalls : c.Recalls P) : c.HasNormalForm where
  memory v a read := recalls.ofJson (keeps .memory 0 _ a nofun read).1
  text s a read back := by
    obtain ⟨holds, bounded⟩ := keeps .text 0 _ a (fun _ => read_proper s) (decode_of_ofText read)
    have shallow := (bounded rfl).levels
    rw [Nat.sub_zero, Nat.max_eq_right few] at shallow
    exact recalls.ofText holds ((bounded rfl).legible back) shallow
  textOfMemory v a read legible shallow := recalls.ofText (keeps .memory 0 _ a nofun read).1 legible shallow
  memoryOfText s a read :=
    recalls.ofJson (keeps .text 0 _ a (fun _ => read_proper s) (decode_of_ofText read)).1

end Json

/-! Operands. -/

namespace Operand

mutual

theorem levels_of_ofJson? (v : Json) {o : Operand} (read : ofJson? v = some o) : o.toJson.levels = v.levels :=
  match v with
  | .null | .obj _ => nomatch read
  | .bool _ | .float _ | .str _ => by
    cases read
    rfl
  | .int n => by
    rw [ofJson?] at read
    split at read <;> cases read <;> rfl
  | .arr items => by
    rw [ofJson?] at read
    obtain ⟨os, inside, rfl⟩ := Option.map_eq_some_iff.mp read
    rw [toJson, levels, levels, levels_of_ofJsons? items inside]

theorem levels_of_ofJsons? (items : List Json) {os : List Operand} (read : ofJsons? items = some os) :
    levelsOfItems (toJsons os) = levelsOfItems items :=
  match items with
  | [] => by
    cases read
    rfl
  | item :: rest => by
    rw [ofJsons?] at read
    split at read
    case h_1 o first =>
      obtain ⟨more, later, rfl⟩ := Option.map_eq_some_iff.mp read
      rw [toJsons, levelsOfItems, levelsOfItems, levels_of_ofJson? item first, levels_of_ofJsons? rest later]
    case h_2 => cases read

end

mutual

theorem wide_toJson (o : Operand) : ∀ n, .int n ∈ o.toJson.scalars → IsWide n :=
  match o with
  | .bool _ | .float _ | .str _ => fun _ member => nomatch List.mem_singleton.mp member
  | .int n => fun _ member =>
    Json.int.inj (List.mem_singleton.mp member) ▸ ⟨n.minValue_le_toInt, Int.lt_trans n.toInt_lt (by decide)⟩
  | .list items => wide_toJsons items

theorem wide_toJsons (items : List Operand) : ∀ n, .int n ∈ scalarsOfItems (toJsons items) → IsWide n :=
  match items with
  | [] => fun _ => nofun
  | item :: rest => fun n member =>
    (List.mem_append.mp member).elim (wide_toJson item n) (wide_toJsons rest n)

end

theorem codec_keeps : codec.Keeps 0 fun _ => True := by
  intro source depth r o proper read
  refine ⟨trivial, fun text => ?_⟩
  dsimp only [codec] at read ⊢
  split at read
  case h_2 => cases read
  case h_1 v kept =>
    split at read
    case h_2 => cases read
    case h_1 o' fits =>
      cases read
      have bounded := bounded_of_toJson r (proper text) (mapError_eq_ok_iff.mp kept)
      exact ⟨levels_of_ofJson? v fits ▸ bounded.levels, o.wide_toJson⟩

theorem codec_recalls : codec.Recalls fun _ => True := by
  intro o _
  have distinct := distinct_ordered o.toJson
  rw [o.ordered_toJson] at distinct
  refine ⟨distinct, fun source r shown => ?_⟩
  dsimp only [codec] at shown ⊢
  rw [readable_of_shows o.ordered_toJson shown]
  dsimp only
  rw [o.ofJson?_toJson]

end Operand

/-! The parts of attributes. -/

theorem Operator.codec_recalls : Operator.codec.Recalls fun _ => True :=
  Codec.choice_recalls fun a => by cases a <;> rfl

theorem Operator.codec_keeps {least : Nat} : Operator.codec.Keeps least fun _ => True := Codec.choice_keeps _ _

theorem Aggregation.codec_recalls : Aggregation.codec.Recalls fun _ => True :=
  Codec.choice_recalls fun a => by cases a <;> rfl

theorem Aggregation.codec_keeps {least : Nat} : Aggregation.codec.Keeps least fun _ => True := Codec.choice_keeps _ _

theorem Period.codec_recalls : Period.codec.Recalls fun _ => True := by
  refine Codec.recalls_scalar fun p _ => ⟨trivial, fun source => ?_⟩
  show (parse p.iso).mapError _ = .ok p
  rw [parse_iso]
  rfl

theorem Period.codec_keeps {least : Nat} : Period.codec.Keeps least fun _ => True :=
  Codec.keeps_of_bounded fun p _ => bounded_str p.iso

theorem bounded_nil {least depth : Nat} : (Json.arr []).Bounded (least + 1) depth := .arr (by simp)

theorem Criterion.codec_keeps : Criterion.codec.Keeps 1 fun _ => True := by
  have fields := Fields.Keeps.required Codec.string_keeps "property" (.required Operator.codec_keeps "operator"
    (.required Operand.codec_keeps "value" .nil))
  exact (Codec.Keeps.record fields "Criterion" fun _ => rfl).of_imp fun _ _ => trivial

theorem Criterion.codec_recalls : Criterion.codec.Recalls fun _ => True := by
  have fields := Fields.Recalls.required Codec.string_recalls "property" (.required Operator.codec_recalls "operator"
    (.required Operand.codec_recalls "value" .nil List.not_mem_nil) (by decide)) (by decide)
  exact (Codec.Recalls.record fields "Criterion" fun _ => rfl).of_imp fun _ _ => ⟨trivial, trivial, trivial, trivial⟩

theorem Criteria.codec_keeps : Criteria.codec.Keeps 3 fun _ => True := by
  have items := Criterion.codec_keeps.list
  have fields := Fields.Keeps.defaulted items "all" (List.forall_mem_nil _) (fun _ => bounded_nil)
    (.defaulted items "any" (List.forall_mem_nil _) (fun _ => bounded_nil) .nil)
  exact (Codec.Keeps.record fields "Criteria" fun _ => rfl).of_imp fun _ _ => trivial

theorem Criteria.codec_recalls : Criteria.codec.Recalls fun _ => True := by
  have items := Criterion.codec_recalls.list
  have fields := Fields.Recalls.defaulted items "all" [] (.defaulted items "any" [] .nil List.not_mem_nil) (by
    simp [Fields.names, defaulted])
  exact (Codec.Recalls.record fields "Criteria" fun _ => rfl).of_imp fun _ _ =>
    ⟨fun _ _ => trivial, fun _ _ => trivial, trivial⟩

theorem Event.codec_keeps : Event.codec.Keeps 1 fun _ => True := by
  have string : Codec.string.Keeps 0 fun _ => True := Codec.string_keeps
  have fields := Fields.Keeps.required string "vendor" (.defaulted string "name" trivial (fun _ => bounded_str "")
    (.required string "version" .nil))
  exact (Codec.Keeps.record fields "EventRef" fun _ => rfl).of_imp fun _ _ => trivial

theorem Event.codec_recalls : Event.codec.Recalls fun _ => True := by
  have fields := Fields.Recalls.required Codec.string_recalls "vendor" (.defaulted Codec.string_recalls "name" ""
    (.required Codec.string_recalls "version" .nil List.not_mem_nil) (by decide)) (by decide)
  exact (Codec.Recalls.record fields "EventRef" fun _ => rfl).of_imp fun _ _ => ⟨trivial, trivial, trivial, trivial⟩

/-! Attributes, views and services. -/

/-- What stands for a missing value is a value, with the fields of its objects in order. -/
def Attribute.Settled (a : Attribute) : Prop := ∀ v ∈ a.defaultValue, v ≠ .null ∧ v.ordered = v

theorem Attribute.codec_keeps : Attribute.codec.Keeps 4 Settled := by
  have events := Event.codec_keeps.list.mono (Nat.le_succ 2)
  have value := Codec.optional_json_keeps.mono (Nat.zero_le 3)
  have fields := Fields.Keeps.required Codec.string_keeps "name" (.skipped Codec.string_keeps.option "type" nofun
    (.required Aggregation.codec_keeps "aggregation" (.optional Codec.string_keeps.option "property" nofun
    (.required events "events" (.optional Criteria.codec_keeps.option "criteria" nofun
    (.optional Period.codec_keeps.option "period" nofun (.skipped Codec.string_keeps.option "description" nofun
    (.skipped value "default_value" nofun .nil))))))))
  exact (Codec.Keeps.record fields "AttributeDefinition" fun _ => rfl).of_imp
    fun _ ⟨_, _, _, _, _, _, _, _, settled, _⟩ => settled

theorem Attribute.codec_recalls : Attribute.codec.Recalls Settled := by
  have string := Codec.string_recalls.option fun _ _ => nofun
  have value : (Codec.option .json).Recalls fun o => ∀ v ∈ o, v ≠ .null ∧ v.ordered = v :=
    (Codec.json_recalls.of_imp fun v settled => settled.2).option fun v settled => settled.1
  have fields := Fields.Recalls.required Codec.string_recalls "name" (.skipped string "type"
    (.required Aggregation.codec_recalls "aggregation" (.optional string "property"
    (.required Event.codec_recalls.list "events" (.optional (Criteria.codec_recalls.option fun _ _ => nofun) "criteria"
    (.optional (Period.codec_recalls.option fun _ _ => nofun) "period" (.skipped string "description"
    (.skipped value "default_value" .nil
    List.not_mem_nil) (by decide)) (by decide)) (by decide)) (by decide)) (by decide)) (by decide)) (by decide))
    (by decide)
  exact (Codec.Recalls.record fields "AttributeDefinition" fun _ => rfl).of_imp fun _ settled =>
    ⟨trivial, fun _ _ => trivial, trivial, fun _ _ => trivial, fun _ _ => trivial, fun _ _ => trivial,
      fun _ _ => trivial, fun _ _ => trivial, settled, trivial⟩

theorem Entity.codec_keeps : Entity.codec.Keeps 1 fun _ => True := by
  have string : Codec.string.Keeps 0 fun _ => True := Codec.string_keeps
  have fields := Fields.Keeps.required string "name" (.skipped string.option "key" nofun
    (.skipped string.option "description" nofun .nil))
  exact (Codec.Keeps.record fields "Entity" fun _ => rfl).of_imp fun _ _ => trivial

theorem Entity.codec_recalls : Entity.codec.Recalls fun _ => True := by
  have string := Codec.string_recalls.option fun _ _ => nofun
  have fields := Fields.Recalls.required Codec.string_recalls "name" (.skipped string "key"
    (.skipped string "description" .nil List.not_mem_nil) (by decide)) (by decide)
  exact (Codec.Recalls.record fields "Entity" fun _ => rfl).of_imp fun _ _ =>
    ⟨trivial, fun _ _ => trivial, fun _ _ => trivial, trivial⟩

theorem ViewReference.codec_keeps : ViewReference.codec.Keeps 1 fun _ => True := by
  have string : Codec.string.Keeps 0 fun _ => True := Codec.string_keeps
  have fields := Fields.Keeps.required string "name" (.required Codec.u32_keeps "version" .nil)
  exact (Codec.Keeps.record fields "ViewReference" fun _ => rfl).of_imp fun _ _ => trivial

theorem ViewReference.codec_recalls : ViewReference.codec.Recalls fun _ => True := by
  have fields := Fields.Recalls.required Codec.string_recalls "name" (.required Codec.u32_recalls "version" .nil
    List.not_mem_nil) (by decide)
  exact (Codec.Recalls.record fields "ViewReference" fun _ => rfl).of_imp fun _ _ => ⟨trivial, trivial, trivial⟩

theorem View.codec_keeps : View.codec.Keeps 6 fun v => ∀ a ∈ v.attributes, a.Settled := by
  have entity := Entity.codec_keeps.mono (Nat.le_add_left 1 4)
  have fields := Fields.Keeps.required Codec.string_keeps "name"
    (.defaulted Codec.u32_keeps "version" trivial (fun _ => bounded_int (Codec.isWide_u32 1))
    (.required entity "entity"
    (.defaulted Attribute.codec_keeps.list "attributes" (List.forall_mem_nil _) (fun _ => bounded_nil)
    (.skipped Codec.string_keeps.option "owner" nofun (.skipped Codec.string_keeps.option "description" nofun
    (.defaulted Codec.bool_keeps "online" trivial (fun _ => bounded_bool true)
    (.defaulted Codec.bool_keeps "offline" trivial (fun _ => bounded_bool false)
    (.skipped Period.codec_keeps.option "ttl" nofun
    (.defaulted Codec.bool_keeps "is_published" trivial (fun _ => bounded_bool false) .nil)))))))))
  exact (Codec.Keeps.record fields "View" fun _ => rfl).of_imp fun _ ⟨_, _, _, settled, _⟩ => settled

theorem View.codec_recalls : View.codec.Recalls fun v => ∀ a ∈ v.attributes, a.Settled := by
  have string := Codec.string_recalls.option fun _ _ => nofun
  have fields := Fields.Recalls.required Codec.string_recalls "name" (.defaulted Codec.u32_recalls "version" 1
    (.required Entity.codec_recalls "entity" (.defaulted Attribute.codec_recalls.list "attributes" []
    (.skipped string "owner" (.skipped string "description" (.defaulted Codec.bool_recalls "online" true
    (.defaulted Codec.bool_recalls "offline" false (.skipped (Period.codec_recalls.option fun _ _ => nofun) "ttl"
    (.defaulted Codec.bool_recalls "is_published" false .nil
    List.not_mem_nil) (by decide)) (by decide)) (by decide)) (by decide)) (by decide)) (by decide)) (by decide))
    (by decide)) (by decide)
  exact (Codec.Recalls.record fields "View" fun _ => rfl).of_imp fun _ settled =>
    ⟨trivial, trivial, trivial, settled, fun _ _ => trivial, fun _ _ => trivial, trivial, trivial, fun _ _ => trivial,
      trivial, trivial⟩

theorem Service.codec_keeps : Service.codec.Keeps 3 fun _ => True := by
  have views := ViewReference.codec_keeps.list
  have fields := Fields.Keeps.required Codec.string_keeps "name" (.skipped Codec.string_keeps.option "description" nofun
    (.skipped Codec.string_keeps.option "owner" nofun
    (.defaulted views "views" (List.forall_mem_nil _) (fun _ => bounded_nil)
    (.defaulted Codec.bool_keeps "is_published" trivial (fun _ => bounded_bool false) .nil))))
  exact (Codec.Keeps.record fields "Service" fun _ => rfl).of_imp fun _ _ => trivial

theorem Service.codec_recalls : Service.codec.Recalls fun _ => True := by
  have string := Codec.string_recalls.option fun _ _ => nofun
  have fields := Fields.Recalls.required Codec.string_recalls "name" (.skipped string "description"
    (.skipped string "owner" (.defaulted ViewReference.codec_recalls.list "views" []
    (.defaulted Codec.bool_recalls "is_published" false .nil List.not_mem_nil) (by decide)) (by decide)) (by decide))
    (by decide)
  exact (Codec.Recalls.record fields "Service" fun _ => rfl).of_imp fun _ _ =>
    ⟨trivial, fun _ _ => trivial, fun _ _ => trivial, fun _ _ => trivial, trivial, trivial⟩

/-- Views, services and attributes have one written form each, whatever shapes they have been read in. -/
theorem definitions_haveNormalForm :
    View.codec.HasNormalForm ∧ Service.codec.HasNormalForm ∧ Attribute.codec.HasNormalForm :=
  ⟨Codec.hasNormalForm View.codec_keeps (by decide) View.codec_recalls,
    Codec.hasNormalForm Service.codec_keeps (by decide) Service.codec_recalls,
    Codec.hasNormalForm Attribute.codec_keeps (by decide) Attribute.codec_recalls⟩

/-- A view in unusual shapes: records as lists of their fields, an aggregation as an object, a number of seconds that is
no whole one, an integer beyond 64 bits, lists in lists. -/
def ordersFile : Json :=
  .obj [("ttl", .float 90.5), ("name", .str "orders"), ("entity", .arr [.str "user"]),
    ("attributes", .arr [.obj [("aggregation", .obj [("sum", .null)]), ("name", .str "revenue"),
      ("events", .arr [.arr [.str "com.acme", .str "order", .str "1-0-0"]]), ("property", .str "order.total"),
      ("period", .str "7 days"), ("criteria", .arr [.arr [
        .arr [.str "order.total", .str ">", .int 18446744073709551615],
        .arr [.str "order.tags", .str "in", .arr [.arr [.int 1, .float 2.5], .bool true]]]]),
      ("default_value", .obj [("b", .float 0.5), ("a", .null)])]])]

theorem definitions_haveNormalForm_of_orders : ∃ v, View.codec.ofText ordersFile.pretty = .ok v ∧
    (View.codec.encode v).pretty ≠ ordersFile.pretty ∧ View.codec.ofText (View.codec.encode v).compact = .ok v := by
  have legible : ordersFile.Legible := by
    simp only [ordersFile, Legible, LegibleItems, LegibleFields]
    decide +kernel
  have run : (View.codec.decode .text (ordersFile.readingAt 0)).toOption.map (fun v =>
      decide (∀ x ∈ (View.codec.encode v).floats, ReadsBack x) &&
        decide ((View.codec.encode v).pretty ≠ ordersFile.pretty)) = some true := by
    decide +kernel
  obtain ⟨v, decoded, facts⟩ := Option.map_eq_some_iff.mp run
  obtain ⟨back, other⟩ := Bool.and_eq_true_iff.mp facts
  have read : View.codec.ofText ordersFile.pretty = .ok v := by
    rw [Codec.ofText, read_pretty legible]
    dsimp only
    rw [eq_ok_of_toOption decoded]
    rfl
  exact ⟨v, read, of_decide_eq_true other,
    (definitions_haveNormalForm.1.text _ v read (of_decide_eq_true back)).1⟩

end AttributeStore
