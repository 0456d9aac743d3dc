import AttributeStore.Proofs.Json.Levels

/-! Codecs that read what they write. A value is read as itself if what is written for it stays within the levels that
a reader opens, and is refused if it does not; each way to make a codec of others keeps this. -/
namespace AttributeStore.Json

/-- The codec reads what it writes for the values that satisfy `P`, on any level. -/
def Codec.Exact (c : Codec α) (P : α → Prop) : Prop :=
  ∀ a, P a → (c.encode a).Legible ∧
    ∀ source depth, Settles ((c.encode a).Fits depth) a (c.decode source ((c.encode a).readingAt depth))

/-- What is written is read by its own codec if and only if it stays within the levels of a reader. -/
theorem Codec.Exact.ofText {c : Codec α} {P : α → Prop} (exact' : c.Exact P) {a : α} (holds : P a) :
    Settles ((c.encode a).levels ≤ maxDepth) a (c.ofText (c.encode a).pretty) := by
  obtain ⟨legible, settles⟩ := exact' a holds
  have decoded := (settles .text 0).iff fits_top
  have text : c.ofText (c.encode a).pretty = c.decode .text ((c.encode a).readingAt 0) := by
    rw [Codec.ofText, read_pretty legible]
    dsimp only
    cases c.decode .text ((c.encode a).readingAt 0) <;> rfl
  rwa [text]

namespace Codec

/-- A codec whose values are scalars. -/
theorem exact_scalar {c : Codec α} {P : α → Prop}
    (reads : ∀ a, P a → (c.encode a).levels = 0 ∧ (c.encode a).Legible ∧
      ∀ source depth, c.decode source ((c.encode a).readingAt depth) = .ok a) : c.Exact P := by
  intro a holds
  obtain ⟨flat, legible, decoded⟩ := reads a holds
  refine ⟨legible, fun source depth => ?_⟩
  rw [decoded]
  exact .ok (.inl flat) a

theorem string_exact : string.Exact fun _ => True := exact_scalar fun _ _ => ⟨rfl, trivial, fun _ _ => rfl⟩

theorem bool_exact : bool.Exact fun _ => True := exact_scalar fun _ _ => ⟨rfl, trivial, fun _ _ => rfl⟩

theorem i64_exact : i64.Exact fun _ => True := by
  refine exact_scalar fun n _ => ?_
  have low := n.minValue_le_toInt
  have high := n.toInt_lt
  refine ⟨rfl, ⟨low, Int.lt_trans high (by decide)⟩, fun source depth => ?_⟩
  have read : whole "i64" Int64.minValue.toInt (Int64.maxValue.toInt + 1) source (.int n.toInt) = .ok n.toInt :=
    if_pos ⟨low, high⟩
  show (whole "i64" Int64.minValue.toInt (Int64.maxValue.toInt + 1) source (.int n.toInt)).map Int64.ofInt = .ok n
  rw [read]
  exact congrArg _ n.ofInt_toInt

theorem choice_exact {name : α → String} {all : List α} (known : ∀ a, pick name all (name a) = .ok a) :
    (choice name all).Exact fun _ => True :=
  exact_scalar fun a _ => ⟨rfl, trivial, fun _ _ => known a⟩

theorem readingAt_eq_null {v : Json} {depth : Nat} (null : v.readingAt depth = .null) : v = .null := by
  cases v with
  | null => rfl
  | arr items =>
    rw [readingAt, sealed] at null
    split at null <;> cases null
  | obj fields =>
    rw [readingAt, sealed] at null
    split at null <;> cases null
  | _ => cases null

theorem Exact.option {c : Codec α} {P : α → Prop} (exact' : c.Exact P) (present : ∀ a, c.encode a ≠ .null) :
    (option c).Exact fun o => ∀ a ∈ o, P a := by
  intro o holds
  cases o with
  | none => exact ⟨trivial, fun source depth => .ok (.inl rfl) none⟩
  | some a =>
    obtain ⟨legible, settles⟩ := exact' a (holds a rfl)
    refine ⟨legible, fun source depth => ?_⟩
    have mapped := (settles source depth).map some
    have decoded : (Codec.option c).decode source ((c.encode a).readingAt depth) =
        (c.decode source ((c.encode a).readingAt depth)).map some := by
      dsimp only [Codec.option]
      split
      case h_1 null => exact absurd (readingAt_eq_null null) (present a)
      case h_2 => rfl
    show Settles _ _ ((Codec.option c).decode source ((c.encode a).readingAt depth))
    rwa [decoded]

theorem decodeItems_settles {c : Codec α} {P : α → Prop} (exact' : c.Exact P) {as : List α} (holds : ∀ a ∈ as, P a)
    (source : Source) (depth : Nat) :
    Settles (∀ item ∈ as.map c.encode, item.Fits depth) as
      (decodeItems c.decode source ((as.map c.encode).map (readingAt depth))) := by
  induction as with
  | nil => exact .ok nofun []
  | cons a as ih =>
    have first := (exact' a (holds a (by simp))).2 source depth
    have others := ih fun b member => holds b (List.mem_cons_of_mem a member)
    exact (first.bind (others.map (a :: ·))).iff List.forall_mem_cons.symm

theorem Exact.list {c : Codec α} {P : α → Prop} (exact' : c.Exact P) : (list c).Exact fun as => ∀ a ∈ as, P a := by
  intro as holds
  have legible : (Json.arr (as.map c.encode)).Legible := by
    rw [Legible, legibleItems_iff]
    exact List.forall_mem_map.mpr fun a member => (exact' a (holds a member)).1
  refine ⟨legible, fun source depth => ?_⟩
  refine Settles.iff ?_ fits_arr.symm
  show Settles _ as ((Codec.list c).decode source (sealed depth (.arr (readingsAt (depth + 1) (as.map c.encode)))))
  rw [sealed]
  split
  case isTrue here =>
    have items := decodeItems_settles exact' holds source (depth + 1)
    rw [← readingsAt_eq_map] at items
    exact items.iff (by simp [here])
  case isFalse below => exact .error (fun both => below both.1) as _

theorem Exact.refine {c : Codec α} {P : α → Prop} {Q : β → Prop} (exact' : c.Exact P) {read : α → Except String β}
    {write : β → α} (back : ∀ b, Q b → P (write b) ∧ read (write b) = .ok b) : (refine c read write).Exact Q := by
  intro b holds
  obtain ⟨holds', same⟩ := back b holds
  obtain ⟨legible, settles⟩ := exact' (write b) holds'
  refine ⟨legible, fun source depth => ?_⟩
  have next : Settles True b ((read (write b)).mapError Fault.refused) := by
    rw [same]
    exact .ok trivial b
  exact ((settles source depth).bind next).iff (and_iff_left trivial)

theorem Exact.of_imp {c : Codec α} {P Q : α → Prop} (exact' : c.Exact P) (imp : ∀ a, Q a → P a) : c.Exact Q :=
  fun a holds => exact' a (imp a holds)

end Codec

/-! Records. -/

/-- The field reads what it writes, and takes for absent what it does not write. -/
structure Field.Exact (f : Field α) (P : α → Prop) : Prop where
  codec : f.codec.Exact P
  omitted : ∀ a, f.omits a = true → f.absent = some a

namespace Fields

def names : Fields τ → List String
  | nil => []
  | cons f rest => f.name :: rest.names

/-- Fields with names of their own that read what they write. -/
inductive Exact : {τ : Type} → Fields τ → (τ → Prop) → Prop
  | nil : Exact nil fun _ => True
  | cons {α β : Type} {f : Field α} {rest : Fields β} {P : α → Prop} {Q : β → Prop} (field : f.Exact P)
    (others : rest.Exact Q) (new : f.name ∉ rest.names) : Exact (.cons f rest) fun t => P t.1 ∧ Q t.2

theorem toFields_names (fs : Fields τ) (t : τ) : ∀ e ∈ fs.toFields t, e.1 ∈ fs.names := by
  induction fs with
  | nil => nofun
  | cons f rest ih =>
    intro e member
    rw [toFields] at member
    split at member
    · exact List.mem_cons_of_mem _ (ih t.2 e member)
    · rcases List.mem_cons.mp member with rfl | later
      · exact List.mem_cons_self
      · exact List.mem_cons_of_mem _ (ih t.2 e later)

/-- A record takes the entries of its own names and no others. -/
theorem put_isSome (fs : Fields τ) (source : Source) (key : String) (r : Reading) (slots : Slots fs) :
    (put source key r fs slots).isSome ↔ key ∈ fs.names := by
  induction fs with
  | nil => simp [put, names]
  | cons f rest ih =>
    rw [put, names, List.mem_cons]
    split
    case isTrue same => simp [same]
    case isFalse other => rw [Option.isSome_map, ih, or_iff_right (Ne.symm other)]

/-- A value for the first field, before those of the others. -/
def Slots.pair {f : Field α} {rest : Fields β} (a : Option α) (slots : Slots rest) : Slots (.cons f rest) := (a, slots)

theorem put_first {f : Field α} {rest : Fields β} (source : Source) (r : Reading) (slots : Slots rest) :
    put source f.name r (.cons f rest) (.pair none slots) =
      some ((f.codec.decode source r).map fun a => .pair (some a) slots) := by
  rw [put]
  exact if_pos rfl

theorem put_later {f : Field α} {rest : Fields β} {key : String} (other : f.name ≠ key) (source : Source) (r : Reading)
    (a : Option α) (slots : Slots rest) :
    put source key r (.cons f rest) (.pair a slots) =
      (put source key r rest slots).map fun done => done.map (Slots.pair a) := by
  rw [put]
  exact if_neg other

/-- Entries of other names leave the first field as it is. -/
theorem fill_later {f : Field α} {rest : Fields β} (source : Source) (a : Option α) (slots : Slots rest)
    {entries : List (String × Reading)} (others : ∀ e ∈ entries, f.name ≠ e.1) :
    fill source (.cons f rest) (.pair a slots) entries = (fill source rest slots entries).map (Slots.pair a) := by
  induction entries generalizing slots with
  | nil => rfl
  | cons e entries ih =>
    obtain ⟨key, r⟩ := e
    have later := fun slots => ih slots fun e member => others e (List.mem_cons_of_mem _ member)
    unfold fill
    rw [put_later (others (key, r) (by simp))]
    cases put source key r rest slots with
    | none =>
      dsimp only [Option.map_none]
      rw [later]
      cases r.skip.mapError Fault.stopped <;> rfl
    | some done =>
      cases done with
      | error fault => rfl
      | ok slots => exact later slots

theorem complete_pair {f : Field α} {rest : Fields β} {a : Option α} {b : α} (value : a.or f.absent = some b)
    (slots : Slots rest) : complete (.cons f rest) (.pair a slots) = (complete rest slots).map (b, ·) := by
  rw [complete]
  dsimp only [Slots.pair]
  rw [value]
  cases complete rest slots <;> rfl

theorem ofObject_eq_ok {fs : Fields τ} {source : Source} {entries : List (String × Reading)} {t : τ}
    (read : fs.ofObject source entries = .ok t) :
    ∃ slots, fs.fill source fs.empty entries = .ok slots ∧ fs.complete slots = .ok t := by
  unfold ofObject at read
  cases filled : fs.fill source fs.empty entries with
  | error fault =>
    rw [filled] at read
    cases read
  | ok slots =>
    rw [filled] at read
    exact ⟨slots, rfl, read⟩

/-- An object without the first field. -/
theorem ofObject_omitted {f : Field α} {rest : Fields β} {a : α} (absent : f.absent = some a) (source : Source)
    {entries : List (String × Reading)} (others : ∀ e ∈ entries, f.name ≠ e.1) :
    (Fields.cons f rest).ofObject source entries = (rest.ofObject source entries).map (a, ·) := by
  unfold ofObject
  show fill source (.cons f rest) (.pair none rest.empty) entries >>= _ = _
  rw [fill_later source none rest.empty others]
  cases fill source rest rest.empty entries with
  | error fault => rfl
  | ok slots => exact complete_pair (a := none) absent slots

/-- An object that starts with the first field. -/
theorem ofObject_written {f : Field α} {rest : Fields β} (source : Source) (r : Reading)
    {entries : List (String × Reading)} (others : ∀ e ∈ entries, f.name ≠ e.1) :
    (Fields.cons f rest).ofObject source ((f.name, r) :: entries) =
      f.codec.decode source r >>= fun a => (rest.ofObject source entries).map (a, ·) := by
  unfold ofObject
  show fill source (.cons f rest) (.pair none rest.empty) _ >>= _ = _
  rw [fill, put_first]
  cases f.codec.decode source r with
  | error fault => rfl
  | ok a =>
    show fill source (.cons f rest) (.pair (some a) rest.empty) entries >>= _ =
      (fill source rest rest.empty entries >>= complete rest).map (a, ·)
    rw [fill_later source (some a) rest.empty others]
    cases fill source rest rest.empty entries with
    | error fault => rfl
    | ok slots => exact complete_pair (a := some a) rfl slots

theorem others_of_new {f : Field α} {rest : Fields β} (new : f.name ∉ rest.names) (t : β) (depth : Nat) :
    ∀ e ∈ (rest.toFields t).map fun e => (e.1, e.2.readingAt depth), f.name ≠ e.1 := by
  refine List.forall_mem_map.mpr fun e member same => new ?_
  rw [same]
  exact toFields_names rest t e member

theorem Exact.legible {fs : Fields τ} {P : τ → Prop} (exact' : fs.Exact P) {t : τ} (holds : P t) :
    ∀ e ∈ fs.toFields t, e.2.Legible := by
  induction exact' with
  | nil => nofun
  | @cons _ _ f rest _ _ field _ _ ih =>
    obtain ⟨a, more⟩ := t
    have others := ih holds.2
    rw [toFields]
    split
    · exact others
    · exact List.forall_mem_cons.mpr ⟨(field.codec a holds.1).1, others⟩

/-- The written fields are read as the record. -/
theorem Exact.ofObject {fs : Fields τ} {P : τ → Prop} (exact' : fs.Exact P) {t : τ} (holds : P t) (source : Source)
    (depth : Nat) :
    Settles (∀ e ∈ fs.toFields t, e.2.Fits depth) t
      (fs.ofObject source ((fs.toFields t).map fun e => (e.1, e.2.readingAt depth))) := by
  induction exact' with
  | nil => exact .ok nofun ()
  | @cons _ _ f rest _ _ field _ new ih =>
    obtain ⟨a, more⟩ := t
    have others := (ih holds.2).map (a, ·)
    have distinct := others_of_new new more depth
    rw [toFields]
    split
    case isTrue omits =>
      rw [ofObject_omitted (field.omitted a omits) source distinct]
      exact others
    case isFalse =>
      rw [List.map_cons, ofObject_written source _ distinct]
      refine (((field.codec a holds.1).2 source depth).bind others).iff ?_
      rw [List.forall_mem_cons]

end Fields

/-- A record of fields that read what they write. -/
theorem Codec.Exact.record {fs : Fields τ} {P : τ → Prop} (exact' : fs.Exact P) (type : String) {make : τ → α}
    {parts : α → τ} (whole : ∀ a, make (parts a) = a) :
    (Codec.record type fs make parts).Exact fun a => P (parts a) := by
  intro a holds
  have legible : (Json.obj (fs.toFields (parts a))).Legible := by
    rw [Legible, legibleFields_iff]
    exact exact'.legible holds
  refine ⟨legible, fun source depth => ?_⟩
  refine Settles.iff ?_ fits_obj.symm
  show Settles _ a ((Codec.record type fs make parts).decode source
    (sealed depth (.obj (fieldReadingsAt (depth + 1) (fs.toFields (parts a))))))
  rw [sealed]
  split
  case isTrue here =>
    have made := (exact'.ofObject holds source (depth + 1)).map make
    rw [whole, ← fieldReadingsAt_eq_map] at made
    exact made.iff (by simp [here])
  case isFalse below => exact .error (fun both => below both.1) a _

/-! Fields by their kinds. -/

theorem required_exact {c : Codec α} {P : α → Prop} (exact' : c.Exact P) (name : String) :
    (required name c).Exact P := ⟨exact', nofun⟩

theorem defaulted_exact {c : Codec α} {P : α → Prop} (exact' : c.Exact P) (name : String) (value : α) :
    (defaulted name c value).Exact P := ⟨exact', nofun⟩

theorem nullable_exact {c : Codec α} {P : α → Prop} (exact' : c.Exact P) (present : ∀ a, c.encode a ≠ .null)
    (name : String) : (nullable name c).Exact fun o => ∀ a ∈ o, P a := ⟨exact'.option present, nofun⟩

theorem skipped_exact {c : Codec α} {P : α → Prop} (exact' : c.Exact P) (present : ∀ a, c.encode a ≠ .null)
    (name : String) : (skipped name c).Exact fun o => ∀ a ∈ o, P a :=
  ⟨exact'.option present, fun _ none => congrArg some (Option.isNone_iff_eq_none.mp none).symm⟩

end AttributeStore.Json
