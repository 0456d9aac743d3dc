import AttributeStore.Proofs.Json.Ordered

/-! What a text can be read as: whole numbers of 64 bits, and lists and objects only on the levels that a reader
opens. -/
namespace AttributeStore.Json

/-- A whole number that a text gives as such. -/
def IsWide (n : Int) : Prop := Int64.minValue.toInt ≤ n ∧ n < UInt64.size

namespace Reading

mutual

/-- What stands on a level of a text. -/
def Proper (depth : Nat) : Reading → Prop
  | .int n => IsWide n
  | .arr items => depth < maxDepth ∧ ProperItems (depth + 1) items
  | .obj fields => depth < maxDepth ∧ ProperFields (depth + 1) fields
  | _ => True

def ProperItems (depth : Nat) : List Reading → Prop
  | [] => True
  | item :: rest => item.Proper depth ∧ ProperItems depth rest

def ProperFields (depth : Nat) : List (String × Reading) → Prop
  | [] => True
  | (_, value) :: rest => value.Proper depth ∧ ProperFields depth rest

end

theorem properItems_iff {depth : Nat} {items : List Reading} :
    ProperItems depth items ↔ ∀ item ∈ items, item.Proper depth := by
  induction items with
  | nil => simp [ProperItems]
  | cons item rest ih => rw [ProperItems, ih, List.forall_mem_cons]

theorem properFields_iff {depth : Nat} {fields : List (String × Reading)} :
    ProperFields depth fields ↔ ∀ f ∈ fields, f.2.Proper depth := by
  induction fields with
  | nil => simp [ProperFields]
  | cons f rest ih => rw [ProperFields, ih, List.forall_mem_cons]

theorem proper_arr {depth : Nat} {items : List Reading} :
    (Reading.arr items).Proper depth ↔ depth < maxDepth ∧ ∀ item ∈ items, item.Proper (depth + 1) := by
  rw [Proper, properItems_iff]

theorem proper_obj {depth : Nat} {fields : List (String × Reading)} :
    (Reading.obj fields).Proper depth ↔ depth < maxDepth ∧ ∀ f ∈ fields, f.2.Proper (depth + 1) := by
  rw [Proper, properFields_iff]

end Reading

/-! A text is built of proper pieces. -/

theorem sealed_arr_proper {depth : Nat} {items : List Reading} (inside : ∀ item ∈ items, item.Proper (depth + 1)) :
    (sealed depth (.arr items)).Proper depth := by
  rw [sealed]
  split
  case isTrue here => exact Reading.proper_arr.mpr ⟨here, inside⟩
  case isFalse => trivial

theorem sealed_obj_proper {depth : Nat} {fields : List (String × Reading)}
    (inside : ∀ f ∈ fields, f.2.Proper (depth + 1)) : (sealed depth (.obj fields)).Proper depth := by
  rw [sealed]
  split
  case isTrue here => exact Reading.proper_obj.mpr ⟨here, inside⟩
  case isFalse => trivial

/-- What an open list or object on a level holds so far. -/
def Frame.Proper (depth : Nat) : Frame → Prop
  | .arr done => ∀ item ∈ done, item.Proper (depth + 1)
  | .obj done _ => ∀ f ∈ done, f.2.Proper (depth + 1)

def FramesProper : List Frame → Prop
  | [] => True
  | f :: outer => f.Proper outer.length ∧ FramesProper outer

def Next.Proper : Next → Prop
  | .go _ frames => FramesProper frames
  | .done r => r.Proper 0
  | .cut r => r.Proper 0

theorem abandon_proper {frames : List Frame} (proper : FramesProper frames) {r : Reading}
    (last : r.Proper frames.length) : (abandon r frames).Proper 0 := by
  induction frames generalizing r with
  | nil => exact last
  | cons f outer ih =>
    obtain ⟨here, around⟩ := proper
    cases f with
    | arr done =>
      refine ih around (sealed_arr_proper ?_)
      simpa [or_imp, forall_and] using ⟨here, last⟩
    | obj done name =>
      refine ih around (sealed_obj_proper fun f member => ?_)
      rcases List.mem_append.mp member with earlier | new
      · exact here f (List.mem_reverse.mp earlier)
      · rw [List.mem_singleton.mp new]
        exact last

theorem settle_proper {frames : List Frame} (proper : FramesProper frames) {r : Reading}
    (last : r.Proper frames.length) : (settle r frames).Proper := by
  cases frames with
  | nil => exact last
  | cons f outer =>
    obtain ⟨here, around⟩ := proper
    cases f with
    | arr done => exact ⟨List.forall_mem_cons.mpr ⟨last, here⟩, around⟩
    | obj done name => exact ⟨List.forall_mem_cons.mpr ⟨last, here⟩, around⟩

theorem breakOff_proper {frames : List Frame} (proper : FramesProper frames) (t : Token) :
    (breakOff t frames).Proper := abandon_proper proper trivial

theorem isWide_of_value? {n : Decimal.Numeral} {k : Int} (value : n.value? = some (.int k)) : IsWide k := by
  have wide : (UInt64.size : Int) = 18446744073709551616 := rfl
  have low : Int64.minValue.toInt = -9223372036854775808 := rfl
  have notFloat : n.float?.map Decimal.Number.float ≠ some (.int k) := by
    cases n.float? <;> simp
  unfold Decimal.Numeral.value? at value
  dsimp only at value
  rw [IsWide, wide, low]
  split at value
  case isTrue => exact absurd value notFloat
  case isFalse =>
    split at value
    case isTrue =>
      split at value
      case isTrue bounded =>
        rw [Bool.and_eq_true, decide_eq_true_iff, decide_eq_true_iff, low] at bounded
        cases value
        omega
      case isFalse => exact absurd value notFloat
    case isFalse =>
      split at value
      case isTrue bounded =>
        cases value
        omega
      case isFalse => exact absurd value notFloat

theorem scalar?_proper {t : Token} {r : Reading} (known : t.scalar? = some r) (depth : Nat) : r.Proper depth := by
  unfold Token.scalar? at known
  split at known
  case h_3 n =>
    split at known
    case h_1 k value =>
      cases known
      exact isWide_of_value? value
    all_goals
      cases known
      trivial
  case h_6 => cases known
  all_goals
    cases known
    trivial

theorem scalar_proper {frames : List Frame} (proper : FramesProper frames) (t : Token) : (scalar t frames).Proper := by
  rw [scalar]
  split
  case h_1 r known => exact settle_proper proper (scalar?_proper known _)
  case h_2 => exact breakOff_proper proper t

/-- A token changes proper pieces into proper pieces. -/
theorem next_proper {frames : List Frame} (proper : FramesProper frames) (place : Place) (t : Token) :
    (next place t frames).Proper := by
  have openArr : FramesProper (.arr [] :: frames) := ⟨nofun, proper⟩
  have openObj : FramesProper (.obj [] "" :: frames) := ⟨nofun, proper⟩
  have closeArr {done : List Reading} {outer : List Frame} (inside : FramesProper (.arr done :: outer)) :
      (settle (sealed outer.length (.arr done.reverse)) outer).Proper :=
    settle_proper inside.2 (sealed_arr_proper fun item member => inside.1 item (List.mem_reverse.mp member))
  have closeObj {done : List (String × Reading)} {name : String} {outer : List Frame}
      (inside : FramesProper (.obj done name :: outer)) :
      (settle (sealed outer.length (.obj done.reverse)) outer).Proper :=
    settle_proper inside.2 (sealed_obj_proper fun f member => inside.1 f (List.mem_reverse.mp member))
  have renamed {done : List (String × Reading)} {name other : String} {outer : List Frame}
      (inside : FramesProper (.obj done name :: outer)) : FramesProper (.obj done other :: outer) := inside
  unfold next
  split
  case h_1 | h_4 => exact openArr
  case h_2 | h_5 => exact openObj
  case h_3 | h_7 => exact scalar_proper proper t
  case h_6 | h_10 => exact closeArr proper
  case h_11 | h_12 => exact closeObj proper
  case h_16 => exact breakOff_proper (renamed proper) t
  case h_17 => exact breakOff_proper proper t
  all_goals exact proper

theorem build_proper {frames : List Frame} (proper : FramesProper frames) (place : Place) (tokens : List Token) :
    (build place frames tokens).1.Proper 0 := by
  induction tokens generalizing place frames with
  | nil =>
    have waiting : FramesProper (pending place frames) := by
      unfold pending
      split <;> exact proper
    exact abandon_proper waiting trivial
  | cons t rest ih =>
    have stepped := next_proper proper place t
    rw [build]
    split
    case h_1 going =>
      rw [going] at stepped
      exact ih stepped _
    case h_2 complete =>
      rw [complete] at stepped
      exact stepped
    case h_3 broken =>
      rw [broken] at stepped
      exact stepped

/-- Whatever a text is, it is read as something that a text can give. -/
theorem read_proper (s : String) : (read s).1.Proper 0 := by
  have start : FramesProper [] := trivial
  exact build_proper start .value (scan s.toList)

/-! What is kept of a text. -/

mutual

/-- The values within a value that are neither list nor object. -/
def scalars : Json → List Json
  | .arr items => scalarsOfItems items
  | .obj fields => scalarsOfFields fields
  | v => [v]

def scalarsOfItems : List Json → List Json
  | [] => []
  | item :: rest => item.scalars ++ scalarsOfItems rest

def scalarsOfFields : List (String × Json) → List Json
  | [] => []
  | (_, value) :: rest => value.scalars ++ scalarsOfFields rest

end

theorem mem_scalarsOfItems {s : Json} {items : List Json} :
    s ∈ scalarsOfItems items ↔ ∃ item ∈ items, s ∈ item.scalars := by
  induction items with
  | nil => simp [scalarsOfItems]
  | cons item rest ih => rw [scalarsOfItems, List.mem_append, ih, List.exists_mem_cons_iff]

theorem mem_scalarsOfFields {s : Json} {fields : List (String × Json)} :
    s ∈ scalarsOfFields fields ↔ ∃ f ∈ fields, s ∈ f.2.scalars := by
  induction fields with
  | nil => simp [scalarsOfFields]
  | cons f rest ih => rw [scalarsOfFields, List.mem_append, ih, List.exists_mem_cons_iff]

/-- The doubles of a value. -/
def floats (v : Json) : List Float :=
  v.scalars.filterMap fun
    | .float x => some x
    | _ => none

theorem mem_floats {v : Json} {x : Float} (member : .float x ∈ v.scalars) : x ∈ v.floats :=
  List.mem_filterMap.mpr ⟨_, member, rfl⟩

/-- A value whose whole numbers are of 64 bits, and that goes as deep as a reader, or as some levels if these are
more. -/
structure Bounded (least depth : Nat) (v : Json) : Prop where
  levels : v.levels ≤ max least (maxDepth - depth)
  wide : ∀ n, .int n ∈ v.scalars → IsWide n

variable {least depth : Nat}

theorem Bounded.arr {items : List Json} (inside : ∀ item ∈ items, item.Bounded least (depth + 1)) :
    (Json.arr items).Bounded (least + 1) depth where
  levels := by
    have below : levelsOfItems items ≤ max least (maxDepth - (depth + 1)) :=
      levelsOfItems_le_iff.mpr fun item member => (inside item member).levels
    rw [Json.levels]
    omega
  wide n member := by
    obtain ⟨item, listed, within⟩ := mem_scalarsOfItems.mp member
    exact (inside item listed).wide n within

theorem Bounded.obj {fields : List (String × Json)} (inside : ∀ f ∈ fields, f.2.Bounded least (depth + 1)) :
    (Json.obj fields).Bounded (least + 1) depth where
  levels := by
    have below : levelsOfFields fields ≤ max least (maxDepth - (depth + 1)) :=
      levelsOfFields_le_iff.mpr fun f member => (inside f member).levels
    rw [Json.levels]
    omega
  wide n member := by
    obtain ⟨f, listed, within⟩ := mem_scalarsOfFields.mp member
    exact (inside f listed).wide n within

theorem Bounded.mono {more : Nat} {v : Json} (bounded : v.Bounded least depth) (le : least ≤ more) :
    v.Bounded more depth := ⟨by have := bounded.levels; omega, bounded.wide⟩

/-- A level that is opened is one that a reader has left. -/
theorem Bounded.of_open {v : Json} (bounded : v.Bounded 1 depth) (here : depth < maxDepth) : v.Bounded 0 depth :=
  ⟨by have := bounded.levels; omega, bounded.wide⟩

theorem bounded_scalar {v : Json} (flat : v.levels = 0) (same : v.scalars = [v]) (wide : ∀ n, v = .int n → IsWide n) :
    v.Bounded least depth where
  levels := by omega
  wide n member := by
    rw [same, List.mem_singleton] at member
    exact wide n member.symm

theorem bounded_null : Json.null.Bounded least depth := bounded_scalar rfl rfl nofun

theorem bounded_bool (b : Bool) : (Json.bool b).Bounded least depth := bounded_scalar rfl rfl nofun

theorem bounded_float (x : Float) : (Json.float x).Bounded least depth := bounded_scalar rfl rfl nofun

theorem bounded_str (s : String) : (Json.str s).Bounded least depth := bounded_scalar rfl rfl nofun

theorem bounded_int {n : Int} (wide : IsWide n) : (Json.int n).Bounded least depth :=
  bounded_scalar rfl rfl fun _ same => Json.int.inj same ▸ wide

mutual

/-- What is kept of a text is no deeper than the text. -/
theorem bounded_of_toJson (r : Reading) {depth : Nat} (proper : r.Proper depth) {v : Json} (kept : r.toJson = .ok v) :
    v.Bounded 0 depth :=
  match r with
  | .null => Except.ok.inj kept ▸ bounded_null
  | .bool b => Except.ok.inj kept ▸ bounded_bool b
  | .int _ => Except.ok.inj kept ▸ bounded_int proper
  | .float x => Except.ok.inj kept ▸ bounded_float x
  | .str s => Except.ok.inj kept ▸ bounded_str s
  | .broken _ | .unreadable _ => nomatch kept
  | .arr items => by
    obtain ⟨values, inside, rfl⟩ := map_eq_ok_iff.mp kept
    exact (Bounded.arr (bounded_of_itemsToJson items proper.2 inside)).of_open proper.1
  | .obj fields => by
    obtain ⟨values, inside, rfl⟩ := map_eq_ok_iff.mp kept
    have each := bounded_of_fieldsToJson fields proper.2 inside
    exact (Bounded.obj fun f member => each f (mem_sortFields member)).of_open proper.1

theorem bounded_of_itemsToJson (items : List Reading) {depth : Nat} (proper : Reading.ProperItems depth items)
    {values : List Json} (kept : Reading.itemsToJson items = .ok values) : ∀ v ∈ values, v.Bounded 0 depth :=
  match items with
  | [] => by
    cases kept
    exact nofun
  | item :: rest => by
    obtain ⟨v, first, more, later, rfl⟩ := itemsToJson_cons kept
    exact List.forall_mem_cons.mpr
      ⟨bounded_of_toJson item proper.1 first, bounded_of_itemsToJson rest proper.2 later⟩

theorem bounded_of_fieldsToJson (fields : List (String × Reading)) {depth : Nat}
    (proper : Reading.ProperFields depth fields) {values : List (String × Json)}
    (kept : Reading.fieldsToJson fields = .ok values) : ∀ f ∈ values, f.2.Bounded 0 depth :=
  match fields with
  | [] => by
    cases kept
    exact nofun
  | (name, r) :: rest => by
    obtain ⟨v, first, more, later, rfl⟩ := fieldsToJson_cons kept
    exact List.forall_mem_cons.mpr
      ⟨bounded_of_toJson r proper.1 first, bounded_of_fieldsToJson rest proper.2 later⟩

end

mutual

/-- Wide whole numbers and doubles that are read back make a value legible. -/
theorem legible_of_scalars (v : Json) (wide : ∀ n, .int n ∈ v.scalars → IsWide n)
    (back : ∀ x, .float x ∈ v.scalars → ReadsBack x) : v.Legible :=
  match v with
  | .null | .bool _ | .str _ => trivial
  | .int n => wide n (List.mem_singleton_self _)
  | .float x => back x (List.mem_singleton_self _)
  | .arr items => legible_of_scalarsOfItems items wide back
  | .obj fields => legible_of_scalarsOfFields fields wide back

theorem legible_of_scalarsOfItems (items : List Json) (wide : ∀ n, .int n ∈ scalarsOfItems items → IsWide n)
    (back : ∀ x, .float x ∈ scalarsOfItems items → ReadsBack x) : LegibleItems items :=
  match items with
  | [] => trivial
  | item :: rest =>
    ⟨legible_of_scalars item (fun n member => wide n (List.mem_append_left _ member))
        fun x member => back x (List.mem_append_left _ member),
      legible_of_scalarsOfItems rest (fun n member => wide n (List.mem_append_right _ member))
        fun x member => back x (List.mem_append_right _ member)⟩

theorem legible_of_scalarsOfFields (fields : List (String × Json))
    (wide : ∀ n, .int n ∈ scalarsOfFields fields → IsWide n)
    (back : ∀ x, .float x ∈ scalarsOfFields fields → ReadsBack x) : LegibleFields fields :=
  match fields with
  | [] => trivial
  | (_, value) :: rest =>
    ⟨legible_of_scalars value (fun n member => wide n (List.mem_append_left _ member))
        fun x member => back x (List.mem_append_left _ member),
      legible_of_scalarsOfFields rest (fun n member => wide n (List.mem_append_right _ member))
        fun x member => back x (List.mem_append_right _ member)⟩

end

theorem Bounded.legible {v : Json} (bounded : v.Bounded least depth) (back : ∀ x ∈ v.floats, ReadsBack x) : v.Legible :=
  legible_of_scalars v bounded.wide fun x member => back x (mem_floats member)

end AttributeStore.Json
