import AttributeStore.Proofs.Json.Exact
import AttributeStore.Proofs.Json.Shown

/-! Codecs that know a value by any view of what they write for it, in a text or in memory, whatever the order of
fields; each way to make a codec of others keeps this. -/
namespace AttributeStore.Json

/-- The codec reads what it writes for the values that satisfy `P`, however it is seen. -/
def Codec.Recalls (c : Codec α) (P : α → Prop) : Prop :=
  ∀ a, P a → (c.encode a).Distinct ∧ ∀ source r, (c.encode a).Shows r → c.decode source r = .ok a

namespace Codec

/-- A codec whose values are scalars. -/
theorem recalls_scalar {c : Codec α} {P : α → Prop}
    (reads : ∀ a, P a → (c.encode a).IsScalar ∧ ∀ source, c.decode source (c.encode a).reading = .ok a) :
    c.Recalls P := by
  intro a holds
  obtain ⟨isScalar, decoded⟩ := reads a holds
  generalize c.encode a = v at isScalar decoded
  have distinct : v.Distinct := by
    cases v with
    | arr items => exact isScalar.elim
    | obj fields => exact isScalar.elim
    | _ => trivial
  refine ⟨distinct, fun source r shown => ?_⟩
  have same : r = v.reading := by
    cases v with
    | arr items => exact isScalar.elim
    | obj fields => exact isScalar.elim
    | _ => exact shown
  rw [same, decoded]

theorem string_recalls : string.Recalls fun _ => True := recalls_scalar fun _ _ => ⟨trivial, fun _ => rfl⟩

theorem bool_recalls : bool.Recalls fun _ => True := recalls_scalar fun _ _ => ⟨trivial, fun _ => rfl⟩

theorem u32_recalls : u32.Recalls fun _ => True := by
  refine recalls_scalar fun n _ => ⟨trivial, fun source => ?_⟩
  have bounded : (0 : Int) ≤ n.toNat ∧ (n.toNat : Int) < UInt32.size :=
    ⟨Int.natCast_nonneg _, Int.ofNat_lt.mpr n.toNat_lt_size⟩
  have read : whole "u32" 0 UInt32.size source (.int n.toNat) = .ok n.toNat := by
    rw [whole]
    simp only [if_pos bounded]
  dsimp only [u32, reading]
  rw [read]
  exact congrArg Except.ok (by simp)

theorem choice_recalls {name : α → String} {all : List α} (known : ∀ a, pick name all (name a) = .ok a) :
    (choice name all).Recalls fun _ => True := recalls_scalar fun a _ => ⟨trivial, fun _ => known a⟩

/-- Any value with its fields in order. -/
theorem json_recalls : json.Recalls fun v => v.ordered = v := fun v inOrder =>
  ⟨inOrder ▸ distinct_ordered v, fun _ _ shown => readable_of_shows inOrder shown⟩

theorem eq_null_of_shows {v : Json} (shown : v.Shows .null) : v = .null := by
  cases v with
  | null => rfl
  | arr items =>
    obtain ⟨_, same, -⟩ := shown
    cases same
  | obj fields =>
    obtain ⟨_, _, same, -⟩ := shown
    cases same
  | _ => cases shown

theorem Recalls.option {c : Codec α} {P : α → Prop} (recalls : c.Recalls P)
    (present : ∀ a, P a → c.encode a ≠ .null) : (option c).Recalls fun o => ∀ a ∈ o, P a := by
  intro o holds
  cases o with
  | none =>
    refine ⟨trivial, fun source r shown => ?_⟩
    cases shown
    rfl
  | some a =>
    obtain ⟨distinct, decoded⟩ := recalls a (holds a rfl)
    refine ⟨distinct, fun source r shown => ?_⟩
    have read := decoded source r shown
    dsimp only [Codec.option]
    split
    case h_1 => exact absurd (eq_null_of_shows shown) (present a (holds a rfl))
    case h_2 =>
      rw [read]
      rfl

theorem decodeItems_of_shows {c : Codec α} {P : α → Prop} (recalls : c.Recalls P) {as : List α}
    (holds : ∀ a ∈ as, P a) (source : Source) {rs : List Reading} (shown : ShowsItems (as.map c.encode) rs) :
    decodeItems c.decode source rs = .ok as := by
  induction as generalizing rs with
  | nil =>
    cases shown
    rfl
  | cons a as ih =>
    obtain ⟨r, more, rfl, first, later⟩ := shown
    obtain ⟨here, others⟩ := List.forall_mem_cons.mp holds
    rw [decodeItems, (recalls a here).2 source r first]
    show (decodeItems c.decode source more >>= _) = _
    rw [ih others later]
    rfl

theorem Recalls.list {c : Codec α} {P : α → Prop} (recalls : c.Recalls P) :
    (list c).Recalls fun as => ∀ a ∈ as, P a := by
  intro as holds
  refine ⟨distinctItems_iff.mpr (List.forall_mem_map.mpr fun a member => (recalls a (holds a member)).1), ?_⟩
  rintro source r ⟨rs, rfl, shown⟩
  exact decodeItems_of_shows recalls holds source shown

theorem Recalls.of_imp {c : Codec α} {P Q : α → Prop} (recalls : c.Recalls P) (imp : ∀ a, Q a → P a) :
    c.Recalls Q := fun a holds => recalls a (imp a holds)

end Codec

/-! Records. -/

namespace Fields

/-- Fields with names of their own whose codecs know what they write, and that take for absent what they leave out. -/
inductive Recalls : {τ : Type} → Fields τ → (τ → Prop) → Prop
  | nil : Recalls nil fun _ => True
  | cons {α β : Type} {f : Field α} {rest : Fields β} {P : α → Prop} {Q : β → Prop} (codec : f.codec.Recalls P)
    (omitted : ∀ a, f.omits a = true → f.absent = some a) (others : rest.Recalls Q) (new : f.name ∉ rest.names) :
    Recalls (.cons f rest) fun t => P t.1 ∧ Q t.2

namespace Recalls

variable {c : Codec α} {rest : Fields β} {P : α → Prop} {Q : β → Prop}

theorem required (codec : c.Recalls P) (name : String) (others : rest.Recalls Q) (new : name ∉ rest.names) :
    (Fields.cons (required name c) rest).Recalls fun t => P t.1 ∧ Q t.2 := .cons codec nofun others new

theorem defaulted (codec : c.Recalls P) (name : String) (value : α) (others : rest.Recalls Q)
    (new : name ∉ rest.names) :
    (Fields.cons (defaulted name c value) rest).Recalls fun t => P t.1 ∧ Q t.2 := .cons codec nofun others new

theorem optional {P : Option α → Prop} (codec : (Codec.option c).Recalls P) (name : String) (others : rest.Recalls Q)
    (new : name ∉ rest.names) : (Fields.cons (optional name c) rest).Recalls fun t => P t.1 ∧ Q t.2 :=
  .cons codec nofun others new

theorem skipped {P : Option α → Prop} (codec : (Codec.option c).Recalls P) (name : String) (others : rest.Recalls Q)
    (new : name ∉ rest.names) : (Fields.cons (skipped name c) rest).Recalls fun t => P t.1 ∧ Q t.2 :=
  .cons codec (fun _ none => congrArg some (Option.isNone_iff_eq_none.mp none).symm) others new

end Recalls

theorem fill_append (fs : Fields τ) (source : Source) (slots : Slots fs) (front back : List (String × Reading)) :
    fs.fill source slots (front ++ back) = fs.fill source slots front >>= fun slots => fs.fill source slots back := by
  induction front generalizing slots with
  | nil => rfl
  | cons e front ih =>
    obtain ⟨key, r⟩ := e
    rw [List.cons_append, fill, fill]
    cases put source key r fs slots with
    | none => cases r.skip.mapError Fault.stopped <;> [rfl; exact ih slots]
    | some done => cases done <;> [rfl; exact ih _]

/-- An object with the first field somewhere among the others. -/
theorem ofObject_inserted {f : Field α} {rest : Fields β} (source : Source) {r : Reading} {a : α} {t : β}
    (decoded : f.codec.decode source r = .ok a) {front back : List (String × Reading)}
    (apart : ∀ e ∈ front ++ back, f.name ≠ e.1) (read : rest.ofObject source (front ++ back) = .ok t) :
    (Fields.cons f rest).ofObject source (front ++ (f.name, r) :: back) = .ok (a, t) := by
  obtain ⟨slots, filled, completed⟩ := ofObject_eq_ok read
  rw [fill_append] at filled
  obtain ⟨early, first, later⟩ := bind_eq_ok_iff.mp filled
  have whole : fill source (.cons f rest) (.pair none rest.empty) (front ++ (f.name, r) :: back) =
      .ok (.pair (some a) slots) := by
    rw [fill_append, fill_later source none _ fun e member => apart e (List.mem_append_left _ member), first]
    show fill source (.cons f rest) (.pair none early) ((f.name, r) :: back) = _
    rw [fill, put_first, decoded]
    show fill source (.cons f rest) (.pair (some a) early) back = _
    rw [fill_later source (some a) _ fun e member => apart e (List.mem_append_right _ member), later]
    rfl
  unfold ofObject
  show fill source (.cons f rest) (.pair none rest.empty) _ >>= _ = _
  rw [whole]
  show complete (.cons f rest) (.pair (some a) slots) = _
  rw [complete_pair (a := some a) rfl slots, completed]
  rfl

/-- The written fields are read as the record, in whatever order they are seen. -/
theorem Recalls.ofObject {fs : Fields τ} {P : τ → Prop} (recalls : fs.Recalls P) {t : τ} (holds : P t)
    (source : Source) {es es' : List (String × Reading)} (perm : es.Perm es')
    (shown : ShowsFields (fs.toFields t) es') : fs.ofObject source es = .ok t := by
  induction recalls generalizing es es' with
  | nil =>
    cases shown
    cases List.perm_nil.mp perm
    rfl
  | @cons _ _ f rest _ _ codec omitted _ new ih =>
    obtain ⟨a, more⟩ := t
    have apart {others others' : List (String × Reading)} (perm : others.Perm others')
        (shown : ShowsFields (rest.toFields more) others') : ∀ e ∈ others, f.name ≠ e.1 := by
      intro e member same
      have named : e.1 ∈ (rest.toFields more).map (·.1) := by
        rw [← names_of_showsFields shown]
        exact List.mem_map_of_mem (perm.mem_iff.mp member)
      obtain ⟨g, written, name⟩ := List.mem_map.mp named
      exact new (same ▸ name ▸ toFields_names rest more g written)
    rw [toFields] at shown
    split at shown
    case isTrue omits =>
      rw [ofObject_omitted (omitted a omits) source (apart perm shown), ih holds.2 perm shown]
      rfl
    case isFalse =>
      obtain ⟨r, others, rfl, first, later⟩ := shown
      obtain ⟨front, back, rfl⟩ := List.append_of_mem (perm.mem_iff.mpr List.mem_cons_self)
      have without : (front ++ back).Perm others := (List.perm_middle.symm.trans perm).cons_inv
      exact ofObject_inserted source ((codec a holds.1).2 source r first) (apart without later)
        (ih holds.2 without later)

theorem Recalls.distinct {fs : Fields τ} {P : τ → Prop} (recalls : fs.Recalls P) {t : τ} (holds : P t) :
    ((fs.toFields t).map (·.1)).Nodup ∧ DistinctFields (fs.toFields t) := by
  induction recalls with
  | nil => exact ⟨.nil, trivial⟩
  | @cons _ _ f rest _ _ codec _ _ new ih =>
    obtain ⟨a, more⟩ := t
    obtain ⟨names, values⟩ := ih holds.2
    rw [toFields]
    split
    case isTrue => exact ⟨names, values⟩
    case isFalse =>
      refine ⟨List.nodup_cons.mpr ⟨fun member => ?_, names⟩, (codec a holds.1).1, values⟩
      obtain ⟨g, written, name⟩ := List.mem_map.mp member
      have listed := toFields_names rest more g written
      rw [name] at listed
      exact new listed

end Fields

/-- A record of fields that are known by what is written for them. -/
theorem Codec.Recalls.record {fs : Fields τ} {P : τ → Prop} (recalls : fs.Recalls P) (type : String) {make : τ → α}
    {parts : α → τ} (whole : ∀ a, make (parts a) = a) :
    (Codec.record type fs make parts).Recalls fun a => P (parts a) := by
  intro a holds
  refine ⟨recalls.distinct holds, ?_⟩
  rintro source r ⟨es, es', rfl, perm, shown⟩
  show (fs.ofObject source es).map make = .ok a
  rw [recalls.ofObject holds source perm shown]
  exact congrArg Except.ok (whole a)

end AttributeStore.Json
