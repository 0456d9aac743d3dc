import AttributeStore.Proofs.Json.Pretty

/-! How deep values go. A value is read whole if and only if it stays within the levels that a reader opens. -/
namespace AttributeStore.Json

mutual

/-- How many lists and objects lie around the innermost scalar. -/
def levels : Json → Nat
  | .arr items => levelsOfItems items + 1
  | .obj fields => levelsOfFields fields + 1
  | _ => 0

def levelsOfItems : List Json → Nat
  | [] => 0
  | item :: rest => max item.levels (levelsOfItems rest)

def levelsOfFields : List (String × Json) → Nat
  | [] => 0
  | (_, value) :: rest => max value.levels (levelsOfFields rest)

end

theorem levelsOfItems_le_iff {items : List Json} {n : Nat} :
    levelsOfItems items ≤ n ↔ ∀ item ∈ items, item.levels ≤ n := by
  induction items with
  | nil => simp [levelsOfItems]
  | cons item rest ih => rw [levelsOfItems, Nat.max_le, ih, List.forall_mem_cons]

theorem levelsOfFields_le_iff {fields : List (String × Json)} {n : Nat} :
    levelsOfFields fields ≤ n ↔ ∀ f ∈ fields, f.2.levels ≤ n := by
  induction fields with
  | nil => simp [levelsOfFields]
  | cons f rest ih => rw [levelsOfFields, Nat.max_le, ih, List.forall_mem_cons]

/-- A value on a level, with nothing in it below the last level that can be read. -/
def Fits (depth : Nat) (v : Json) : Prop := v.levels = 0 ∨ depth + v.levels ≤ maxDepth

theorem fits_arr {depth : Nat} {items : List Json} :
    (Json.arr items).Fits depth ↔ depth < maxDepth ∧ ∀ item ∈ items, item.Fits (depth + 1) := by
  have inside : depth + (Json.arr items).levels ≤ maxDepth ↔
      depth < maxDepth ∧ levelsOfItems items ≤ maxDepth - (depth + 1) := by
    rw [levels]
    omega
  rw [Fits, inside, levelsOfItems_le_iff]
  constructor
  · rintro (none | ⟨here, below⟩)
    · cases none
    · exact ⟨here, fun item member => .inr (by have := below item member; omega)⟩
  · rintro ⟨here, below⟩
    refine .inr ⟨here, fun item member => ?_⟩
    rcases below item member with flat | fits <;> omega

theorem fits_obj {depth : Nat} {fields : List (String × Json)} :
    (Json.obj fields).Fits depth ↔ depth < maxDepth ∧ ∀ f ∈ fields, f.2.Fits (depth + 1) := by
  have inside : depth + (Json.obj fields).levels ≤ maxDepth ↔
      depth < maxDepth ∧ levelsOfFields fields ≤ maxDepth - (depth + 1) := by
    rw [levels]
    omega
  rw [Fits, inside, levelsOfFields_le_iff]
  constructor
  · rintro (none | ⟨here, below⟩)
    · cases none
    · exact ⟨here, fun f member => .inr (by have := below f member; omega)⟩
  · rintro ⟨here, below⟩
    refine .inr ⟨here, fun f member => ?_⟩
    rcases below f member with flat | fits <;> omega

theorem fits_top {v : Json} : v.Fits 0 ↔ v.levels ≤ maxDepth := by
  rw [Fits, Nat.zero_add]
  constructor
  · rintro (flat | fits)
    · omega
    · exact fits
  · exact .inr

/-! Readers that give one value under a condition, and fail under no other. -/

/-- Gives `a` if and only if the condition holds, and else fails. -/
def Settles (condition : Prop) (a : α) (r : Except ε α) : Prop :=
  (condition → r = .ok a) ∧ (¬condition → ∃ fault, r = .error fault)

namespace Settles

variable {p q : Prop} {a : α} {b : β} {r : Except ε α}

theorem ok (holds : p) (a : α) : Settles (ε := ε) p a (.ok a) := ⟨fun _ => rfl, fun fails => absurd holds fails⟩

theorem error (fails : ¬p) (a : α) (fault : ε) : Settles p a (.error fault) :=
  ⟨fun holds => absurd holds fails, fun _ => ⟨fault, rfl⟩⟩

theorem iff (settles : Settles p a r) (same : p ↔ q) : Settles q a r :=
  ⟨fun holds => settles.1 (same.mpr holds), fun fails => settles.2 (mt same.mp fails)⟩

theorem map (settles : Settles p a r) (f : α → β) : Settles p (f a) (r.map f) := by
  refine ⟨fun holds => by rw [settles.1 holds]; rfl, fun fails => ?_⟩
  obtain ⟨fault, same⟩ := settles.2 fails
  exact ⟨fault, by rw [same]; rfl⟩

theorem mapError (settles : Settles p a r) (f : ε → ε') : Settles p a (r.mapError f) := by
  refine ⟨fun holds => by rw [settles.1 holds]; rfl, fun fails => ?_⟩
  obtain ⟨fault, same⟩ := settles.2 fails
  exact ⟨f fault, by rw [same]; rfl⟩

theorem bind (settles : Settles p a r) {f : α → Except ε β} (next : Settles q b (f a)) :
    Settles (p ∧ q) b (r >>= f) := by
  by_cases holds : p
  · rw [settles.1 holds]
    exact next.iff ⟨fun here => ⟨holds, here⟩, And.right⟩
  · obtain ⟨fault, same⟩ := settles.2 holds
    rw [same]
    exact .error (fun both => holds both.1) b fault

end Settles

/-! A value set aside. -/

mutual

/-- The value with the fields of its objects in ascending order. -/
def ordered : Json → Json
  | .arr items => .arr (orderedItems items)
  | .obj fields => .obj (sortFields (orderedFields fields))
  | v => v

def orderedItems : List Json → List Json
  | [] => []
  | item :: rest => item.ordered :: orderedItems rest

def orderedFields : List (String × Json) → List (String × Json)
  | [] => []
  | (name, value) :: rest => (name, value.ordered) :: orderedFields rest

end

theorem sealed_settles {here : Prop} {depth : Nat} {a : Json} {r : Reading} (settles : Settles here a r.toJson) :
    Settles (depth < maxDepth ∧ here) a (sealed depth r).toJson := by
  rw [sealed]
  split
  case isTrue above => exact settles.iff (by simp [above])
  case isFalse below => exact .error (fun both => below both.1) a _

mutual

/-- What is read on a level can be kept whole if and only if it fits. -/
theorem readingAt_settles (v : Json) (depth : Nat) : Settles (v.Fits depth) v.ordered (v.readingAt depth).toJson :=
  match v with
  | .null | .bool _ | .int _ | .float _ | .str _ => .ok (.inl rfl) _
  | .arr items => by
    refine Settles.iff ?_ fits_arr.symm
    exact sealed_settles ((readingsAt_settles items (depth + 1)).map Json.arr)
  | .obj fields => by
    refine Settles.iff ?_ fits_obj.symm
    exact sealed_settles ((fieldReadingsAt_settles fields (depth + 1)).map fun fields => Json.obj (sortFields fields))

theorem readingsAt_settles (items : List Json) (depth : Nat) :
    Settles (∀ item ∈ items, item.Fits depth) (orderedItems items) (Reading.itemsToJson (readingsAt depth items)) :=
  match items with
  | [] => .ok nofun []
  | item :: rest => by
    have both := (readingAt_settles item depth).bind
      (f := fun value => (Reading.itemsToJson (readingsAt depth rest)).map (value :: ·))
      ((readingsAt_settles rest depth).map (item.ordered :: ·))
    rw [readingsAt, Reading.itemsToJson]
    refine Settles.iff ?_ List.forall_mem_cons.symm
    cases known : (item.readingAt depth).toJson <;> rw [known] at both <;> exact both

theorem fieldReadingsAt_settles (fields : List (String × Json)) (depth : Nat) :
    Settles (∀ f ∈ fields, f.2.Fits depth) (orderedFields fields)
      (Reading.fieldsToJson (fieldReadingsAt depth fields)) :=
  match fields with
  | [] => .ok nofun []
  | (name, value) :: rest => by
    have both := (readingAt_settles value depth).bind
      (f := fun value => (Reading.fieldsToJson (fieldReadingsAt depth rest)).map ((name, value) :: ·))
      ((fieldReadingsAt_settles rest depth).map ((name, value.ordered) :: ·))
    rw [fieldReadingsAt, Reading.fieldsToJson]
    refine Settles.iff ?_ (List.forall_mem_cons (p := fun (f : String × Json) => f.2.Fits depth)).symm
    cases known : (value.readingAt depth).toJson <;> rw [known] at both <;> exact both

end

theorem readable_settles (v : Json) (depth : Nat) : Settles (v.Fits depth) v.ordered (readable (v.readingAt depth)) :=
  (readingAt_settles v depth).mapError _

end AttributeStore.Json
