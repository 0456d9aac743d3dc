import AttributeStore.Proofs.Json.Exact
import AttributeStore.Proofs.Json.Proper

/-! What is known of a value once a codec has read it: something of the value itself, whatever it has been read from,
and of one that has been read from a text, that it is written no deeper than a reader goes. Each way to make a codec of
others keeps this. -/
namespace AttributeStore.Json

/-- All that the codec reads satisfies `P`, and what it reads from a level of a text is written on that level with no
more below it than a reader opens, or with some fixed levels. -/
def Codec.Keeps (c : Codec α) (least : Nat) (P : α → Prop) : Prop :=
  ∀ source depth r a, (source = .text → r.Proper depth) → c.decode source r = .ok a →
    P a ∧ (source = .text → (c.encode a).Bounded least depth)

theorem mismatch_ne_ok (expected : String) (r : Reading) (a : α) : mismatch expected r ≠ .ok a := by
  cases r <;> exact nofun

namespace Codec

variable {least : Nat}

/-- A codec that writes nothing deep, whatever it reads. -/
theorem keeps_of_bounded {c : Codec α} (bounded : ∀ a depth, (c.encode a).Bounded least depth) :
    c.Keeps least fun _ => True := fun _ depth _ a _ _ => ⟨trivial, fun _ => bounded a depth⟩

theorem string_keeps : string.Keeps least fun _ => True := keeps_of_bounded fun s _ => bounded_str s

theorem bool_keeps : bool.Keeps least fun _ => True := keeps_of_bounded fun b _ => bounded_bool b

theorem isWide_u32 (n : UInt32) : IsWide n.toNat := by
  have small : n.toNat < 4294967296 := n.toNat_lt
  have low : Int64.minValue.toInt = -9223372036854775808 := rfl
  have wide : (UInt64.size : Int) = 18446744073709551616 := rfl
  rw [IsWide, low, wide]
  omega

theorem u32_keeps : u32.Keeps least fun _ => True := keeps_of_bounded fun n _ => bounded_int (isWide_u32 n)

theorem choice_keeps (name : α → String) (all : List α) : (choice name all).Keeps least fun _ => True :=
  keeps_of_bounded fun a _ => bounded_str (name a)

theorem Keeps.mono {c : Codec α} {P : α → Prop} (keeps : c.Keeps least P) {more : Nat} (le : least ≤ more) :
    c.Keeps more P := fun source depth r a proper read =>
  ⟨(keeps source depth r a proper read).1, fun text => ((keeps source depth r a proper read).2 text).mono le⟩

theorem Keeps.of_imp {c : Codec α} {P Q : α → Prop} (keeps : c.Keeps least P) (imp : ∀ a, P a → Q a) :
    c.Keeps least Q := fun source depth r a proper read =>
  ⟨imp a (keeps source depth r a proper read).1, (keeps source depth r a proper read).2⟩

theorem Keeps.option {c : Codec α} {P : α → Prop} (keeps : c.Keeps least P) :
    (option c).Keeps least fun o => ∀ a ∈ o, P a := by
  intro source depth r o proper read
  dsimp only [Codec.option] at read
  split at read
  case h_1 =>
    cases read
    exact ⟨nofun, fun _ => bounded_null⟩
  case h_2 =>
    obtain ⟨a, decoded, rfl⟩ := map_eq_ok_iff.mp read
    obtain ⟨holds, bounded⟩ := keeps source depth r a proper decoded
    exact ⟨fun _ same => Option.some.inj same ▸ holds, bounded⟩

/-- What is set aside is kept as a value that is something, with its fields in order. -/
theorem optional_json_keeps : (option json).Keeps 0 fun o => ∀ v ∈ o, v ≠ .null ∧ v.ordered = v := by
  intro source depth r o proper read
  dsimp only [Codec.option] at read
  split at read
  case h_1 =>
    cases read
    exact ⟨nofun, fun _ => bounded_null⟩
  case h_2 present =>
    obtain ⟨v, readable, rfl⟩ := map_eq_ok_iff.mp read
    have kept : r.toJson = .ok v := mapError_eq_ok_iff.mp readable
    have notNull : v ≠ .null := by
      rintro rfl
      exact present (eq_null_of_toJson kept)
    exact ⟨fun _ same => Option.some.inj same ▸ ⟨notNull, ordered_of_toJson r kept⟩,
      fun text => bounded_of_toJson r (proper text) kept⟩

theorem decodeItems_keeps {c : Codec α} {P : α → Prop} (keeps : c.Keeps least P) {source : Source} {depth : Nat}
    {items : List Reading} (proper : source = .text → ∀ item ∈ items, item.Proper depth) {as : List α}
    (read : decodeItems c.decode source items = .ok as) :
    ∀ a ∈ as, P a ∧ (source = .text → (c.encode a).Bounded least depth) := by
  induction items generalizing as with
  | nil =>
    cases read
    exact nofun
  | cons item rest ih =>
    obtain ⟨a, first, read⟩ := bind_eq_ok_iff.mp read
    obtain ⟨more, later, same⟩ := bind_eq_ok_iff.mp read
    cases same
    refine List.forall_mem_cons.mpr ⟨keeps source depth item a (fun text => proper text item (by simp)) first, ?_⟩
    exact ih (fun text r member => proper text r (List.mem_cons_of_mem _ member)) later

theorem Keeps.list {c : Codec α} {P : α → Prop} (keeps : c.Keeps least P) :
    (list c).Keeps (least + 1) fun as => ∀ a ∈ as, P a := by
  intro source depth r as proper read
  dsimp only [Codec.list] at read
  split at read
  case h_1 items =>
    have inside : source = .text → ∀ item ∈ items, item.Proper (depth + 1) :=
      fun text => (Reading.proper_arr.mp (proper text)).2
    have each := decodeItems_keeps keeps inside read
    exact ⟨fun a member => (each a member).1,
      fun text => .arr (List.forall_mem_map.mpr fun a member => (each a member).2 text)⟩
  case h_2 => exact absurd read (mismatch_ne_ok _ r as)

end Codec

/-! Records. -/

namespace Fields

variable {least : Nat} {source : Source} {f : Field α} {rest : Fields β} {entries : List (String × Reading)}

/-- Fields whose codecs keep something, which is also so of the values that stand for absent ones. -/
inductive Keeps (least : Nat) : {τ : Type} → Fields τ → (τ → Prop) → Prop
  | nil : Keeps least nil fun _ => True
  | cons {α β : Type} {f : Field α} {rest : Fields β} {P : α → Prop} {Q : β → Prop} (codec : f.codec.Keeps least P)
    (absent : ∀ a, f.absent = some a ∨ f.unlisted = some a →
      P a ∧ ∀ depth, (f.codec.encode a).Bounded least depth)
    (others : rest.Keeps least Q) : Keeps least (.cons f rest) fun t => P t.1 ∧ Q t.2

namespace Keeps

variable {c : Codec α} {P : α → Prop} {Q : β → Prop}

theorem required (codec : c.Keeps least P) (name : String) (others : rest.Keeps least Q) :
    (Fields.cons (required name c) rest).Keeps least fun t => P t.1 ∧ Q t.2 :=
  .cons codec (by rintro a (none | none) <;> cases none) others

theorem defaulted (codec : c.Keeps least P) (name : String) {value : α} (holds : P value)
    (bounded : ∀ depth, (c.encode value).Bounded least depth) (others : rest.Keeps least Q) :
    (Fields.cons (defaulted name c value) rest).Keeps least fun t => P t.1 ∧ Q t.2 := by
  refine .cons codec ?_ others
  rintro a (same | same) <;> exact Option.some.inj same ▸ ⟨holds, bounded⟩

theorem optional {P : Option α → Prop} (codec : (Codec.option c).Keeps least P) (name : String) (holds : P none)
    (others : rest.Keeps least Q) : (Fields.cons (optional name c) rest).Keeps least fun t => P t.1 ∧ Q t.2 := by
  refine .cons codec ?_ others
  rintro a (same | same) <;> exact Option.some.inj same ▸ ⟨holds, fun _ => bounded_null⟩

theorem skipped {P : Option α → Prop} (codec : (Codec.option c).Keeps least P) (name : String) (holds : P none)
    (others : rest.Keeps least Q) : (Fields.cons (skipped name c) rest).Keeps least fun t => P t.1 ∧ Q t.2 := by
  refine .cons codec ?_ others
  rintro a (same | same) <;> exact Option.some.inj same ▸ ⟨holds, fun _ => bounded_null⟩

end Keeps

/-- An entry goes to the first field, to a later one, or nowhere. -/
theorem fill_entry {key : String} {r : Reading} {o : Option α} {slots : Slots rest} {done : Slots (.cons f rest)}
    (filled : fill source (.cons f rest) (.pair o slots) ((key, r) :: entries) = .ok done) :
    (∃ a, f.codec.decode source r = .ok a ∧ fill source (.cons f rest) (.pair (some a) slots) entries = .ok done) ∨
      (∃ slots', put source key r rest slots = some (.ok slots') ∧
        fill source (.cons f rest) (.pair o slots') entries = .ok done) ∨
      fill source (.cons f rest) (.pair o slots) entries = .ok done := by
  unfold fill at filled
  by_cases own : f.name = key
  · subst own
    cases o with
    | some a =>
      rw [put, if_pos rfl] at filled
      cases filled
    | none =>
      rw [put_first] at filled
      obtain ⟨done', given, filled⟩ := bind_eq_ok_iff.mp filled
      obtain ⟨a, decoded, rfl⟩ := map_eq_ok_iff.mp given
      exact .inl ⟨a, decoded, filled⟩
  · rw [put_later own] at filled
    cases taken : put source key r rest slots with
    | none =>
      rw [taken] at filled
      obtain ⟨_, -, filled⟩ := bind_eq_ok_iff.mp filled
      exact .inr (.inr filled)
    | some result =>
      rw [taken] at filled
      obtain ⟨done', given, filled⟩ := bind_eq_ok_iff.mp filled
      obtain ⟨slots', decoded, rfl⟩ := map_eq_ok_iff.mp given
      exact .inr (.inl ⟨slots', congrArg some decoded, filled⟩)

/-- What has been filled in: the other fields by some of the entries, and the first by one of them if at all. -/
theorem fill_cons {o : Option α} {slots : Slots rest} {done : Slots (.cons f rest)}
    (filled : fill source (.cons f rest) (.pair o slots) entries = .ok done) :
    ∃ o' slots' others, done = .pair o' slots' ∧ others.Sublist entries ∧
      fill source rest slots others = .ok slots' ∧
      ∀ a, o' = some a → o = some a ∨ ∃ e ∈ entries, f.codec.decode source e.2 = .ok a := by
  induction entries generalizing o slots with
  | nil =>
    cases filled
    exact ⟨o, slots, [], rfl, .refl _, rfl, fun _ => .inl⟩
  | cons e entries ih =>
    obtain ⟨key, r⟩ := e
    have elsewhere {a : α} (later : ∃ e ∈ entries, f.codec.decode source e.2 = .ok a) :
        ∃ e ∈ (key, r) :: entries, f.codec.decode source e.2 = .ok a := by
      obtain ⟨e, member, decoded⟩ := later
      exact ⟨e, List.mem_cons_of_mem _ member, decoded⟩
    rcases fill_entry filled with ⟨a, decoded, filled⟩ | ⟨slots', taken, filled⟩ | filled
    · obtain ⟨o', slots', others, whole, inside, filled, origin⟩ := ih filled
      refine ⟨o', slots', others, whole, inside.cons _, filled, fun b same => .inr ?_⟩
      rcases origin b same with first | later
      · exact ⟨_, List.mem_cons_self, Option.some.inj first ▸ decoded⟩
      · exact elsewhere later
    · obtain ⟨o', slots'', others, whole, inside, filled, origin⟩ := ih filled
      refine ⟨o', slots'', (key, r) :: others, whole, inside.cons_cons _, ?_,
        fun b same => (origin b same).imp_right elsewhere⟩
      rw [fill, taken]
      exact filled
    · obtain ⟨o', slots', others, whole, inside, filled, origin⟩ := ih filled
      exact ⟨o', slots', others, whole, inside.cons _, filled, fun b same => (origin b same).imp_right elsewhere⟩

theorem complete_eq_ok {a : Option α} {slots : Slots rest} {t : α × β}
    (completed : complete (.cons f rest) (.pair a slots) = .ok t) :
    a.or f.absent = some t.1 ∧ complete rest slots = .ok t.2 := by
  cases value : a.or f.absent with
  | none =>
    rw [complete] at completed
    dsimp only [Slots.pair] at completed
    rw [value] at completed
    cases completed
  | some b =>
    rw [complete_pair value] at completed
    obtain ⟨more, later, rfl⟩ := map_eq_ok_iff.mp completed
    exact ⟨rfl, later⟩

/-- A record that is read from an object: the first field from an entry, if it is not absent. -/
theorem ofObject_cons {t : α × β} (read : (Fields.cons f rest).ofObject source entries = .ok t) :
    (f.absent = some t.1 ∨ ∃ e ∈ entries, f.codec.decode source e.2 = .ok t.1) ∧
      ∃ others : List (String × Reading), others.Sublist entries ∧ rest.ofObject source others = .ok t.2 := by
  obtain ⟨done, filled, completed⟩ := ofObject_eq_ok read
  have unfilled : (Fields.cons f rest).empty = .pair none rest.empty := rfl
  obtain ⟨o, slots, others, rfl, inside, filled, origin⟩ := fill_cons (unfilled ▸ filled)
  obtain ⟨value, completed⟩ := complete_eq_ok completed
  refine ⟨?_, others, inside, bind_eq_ok_iff.mpr ⟨slots, filled, completed⟩⟩
  cases o with
  | none => exact .inl value
  | some a => exact .inr ((origin t.1 value).resolve_left nofun)

theorem toFields_bounded {depth : Nat} {t : α × β} (first : (f.codec.encode t.1).Bounded least depth)
    (others : ∀ e ∈ rest.toFields t.2, e.2.Bounded least depth) :
    ∀ e ∈ (Fields.cons f rest).toFields t, e.2.Bounded least depth := by
  obtain ⟨a, more⟩ := t
  rw [toFields]
  split
  · exact others
  · exact List.forall_mem_cons.mpr ⟨first, others⟩

/-- What is known of a record that has been read from an object, and of the entries that are written for it. -/
theorem Keeps.ofObject {fs : Fields τ} {P : τ → Prop} (keeps : fs.Keeps least P) {depth : Nat} {t : τ}
    (proper : source = .text → ∀ e ∈ entries, e.2.Proper depth) (read : fs.ofObject source entries = .ok t) :
    P t ∧ (source = .text → ∀ e ∈ fs.toFields t, e.2.Bounded least depth) := by
  induction keeps generalizing entries with
  | nil => exact ⟨trivial, fun _ => nofun⟩
  | @cons _ _ f _ P _ codec absent _ ih =>
    obtain ⟨origin, others, inside, read⟩ := ofObject_cons read
    obtain ⟨holds, bounded⟩ := ih (fun text e member => proper text e (inside.subset member)) read
    have first : P t.1 ∧ (source = .text → (f.codec.encode t.1).Bounded least depth) := by
      rcases origin with missing | ⟨e, member, decoded⟩
      · exact (absent t.1 (.inl missing)).imp id fun bounded _ => bounded depth
      · exact codec source depth e.2 t.1 (fun text => proper text e member) decoded
    exact ⟨⟨first.1, holds⟩, fun text => toFields_bounded (first.2 text) (bounded text)⟩

/-- The same of a record that has been read from a list. -/
theorem Keeps.ofItems {fs : Fields τ} {P : τ → Prop} (keeps : fs.Keeps least P) {depth : Nat} {t : τ}
    {items more : List Reading} (proper : source = .text → ∀ item ∈ items, item.Proper depth)
    {tooShort : Nat → Fault} {index : Nat} (read : fs.ofItems source tooShort index items = .ok (t, more)) :
    P t ∧ (source = .text → ∀ e ∈ fs.toFields t, e.2.Bounded least depth) := by
  induction keeps generalizing items index more with
  | nil => exact ⟨trivial, fun _ => nofun⟩
  | @cons _ _ f _ P _ codec absent _ ih =>
    cases items with
    | nil =>
      rw [Fields.ofItems] at read
      split at read
      case h_1 => cases read
      case h_2 a unlisted =>
        obtain ⟨⟨others, left⟩, later, same⟩ := bind_eq_ok_iff.mp read
        cases same
        obtain ⟨holds, bounded⟩ := ih (fun _ => List.forall_mem_nil _) later
        have first := absent a (.inr unlisted)
        exact ⟨⟨first.1, holds⟩, fun text => toFields_bounded (first.2 depth) (bounded text)⟩
    | cons item rest =>
      obtain ⟨a, decoded, read⟩ := bind_eq_ok_iff.mp read
      obtain ⟨⟨others, left⟩, later, same⟩ := bind_eq_ok_iff.mp read
      cases same
      have first := codec source depth item a (fun text => proper text item List.mem_cons_self) decoded
      obtain ⟨holds, bounded⟩ := ih (fun text r member => proper text r (List.mem_cons_of_mem _ member)) later
      exact ⟨⟨first.1, holds⟩, fun text => toFields_bounded (first.2 text) (bounded text)⟩

end Fields

/-- A record that is read as an object or as a list of its fields. -/
theorem Codec.Keeps.record {fs : Fields τ} {P : τ → Prop} {least : Nat} (keeps : fs.Keeps least P) (type : String)
    {make : τ → α} {parts : α → τ} (whole : ∀ t, parts (make t) = t) :
    (Codec.record type fs make parts).Keeps (least + 1) fun a => P (parts a) := by
  intro source depth r a proper read
  dsimp only [Codec.record] at read ⊢
  split at read
  case h_1 entries =>
    obtain ⟨t, made, rfl⟩ := map_eq_ok_iff.mp read
    obtain ⟨holds, bounded⟩ := keeps.ofObject (fun text => (Reading.proper_obj.mp (proper text)).2) made
    rw [whole]
    exact ⟨holds, fun text => .obj (bounded text)⟩
  case h_2 items =>
    obtain ⟨t, made, rfl⟩ := map_eq_ok_iff.mp read
    obtain ⟨⟨t', more⟩, taken, rest⟩ := bind_eq_ok_iff.mp made
    obtain ⟨_, -, same⟩ := bind_eq_ok_iff.mp rest
    cases same
    obtain ⟨holds, bounded⟩ := keeps.ofItems (fun text => (Reading.proper_arr.mp (proper text)).2) taken
    rw [whole]
    exact ⟨holds, fun text => .obj (bounded text)⟩
  case h_3 => exact absurd read (mismatch_ne_ok _ r a)

end AttributeStore.Json
