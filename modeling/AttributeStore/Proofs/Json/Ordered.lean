import AttributeStore.Proofs.Json.Levels
import AttributeStore.Proofs.Outcome
import Mathlib.Data.List.Induction
import Mathlib.Data.List.Perm.Basic
import Mathlib.Data.String.Basic

/-! Values with the fields of their objects in ascending order, as they are kept in memory. What is read as a value has
this order, and what a reader sees of a value does not depend on it. -/
namespace AttributeStore.Json

/-! Sorted fields. -/

/-- Names in ascending order, each once. -/
def Ascending (fields : List (String × α)) : Prop := fields.Pairwise fun f g => f.1 < g.1

variable {fields others : List (String × α)}

theorem Ascending.nodup (ascending : Ascending fields) : (fields.map (·.1)).Nodup :=
  (List.pairwise_map.mpr (ascending.imp fun less => String.ne_of_lt less) :)

theorem mem_put {name : String} {value : α} {e : String × α} (member : e ∈ put name value fields) :
    e = (name, value) ∨ e ∈ fields := by
  induction fields with
  | nil => exact .inl (List.mem_singleton.mp member)
  | cons f rest ih =>
    unfold put at member
    split at member
    case isTrue => exact List.mem_cons.mp member
    case isFalse =>
      split at member
      case isTrue => exact (List.mem_cons.mp member).imp id (List.mem_cons_of_mem _)
      case isFalse =>
        rcases List.mem_cons.mp member with rfl | later
        · exact .inr List.mem_cons_self
        · exact (ih later).imp id (List.mem_cons_of_mem _)

theorem put_ascending (ascending : Ascending fields) (name : String) (value : α) :
    Ascending (put name value fields) := by
  induction fields with
  | nil => exact List.pairwise_singleton _ _
  | cons f rest ih =>
    obtain ⟨first, later⟩ := List.pairwise_cons.mp ascending
    unfold put
    split
    case isTrue before =>
      refine List.pairwise_cons.mpr ⟨List.forall_mem_cons.mpr ⟨before, fun e member => ?_⟩, ascending⟩
      exact String.lt_trans before (first e member)
    case isFalse notBefore =>
      split
      case isTrue same => exact List.pairwise_cons.mpr ⟨same ▸ first, later⟩
      case isFalse different =>
        refine List.pairwise_cons.mpr ⟨fun e member => ?_, ih later⟩
        rcases mem_put member with rfl | old
        · exact (lt_trichotomy f.1 name).resolve_right (not_or.mpr ⟨Ne.symm different, notBefore⟩)
        · exact first e old

theorem put_perm {name : String} (new : name ∉ fields.map (·.1)) (value : α) :
    (put name value fields).Perm ((name, value) :: fields) := by
  induction fields with
  | nil => exact .refl _
  | cons f rest ih =>
    rw [List.map_cons, List.mem_cons, not_or] at new
    unfold put
    split
    case isTrue => exact .refl _
    case isFalse =>
      rw [if_neg new.1]
      exact ((ih new.2).cons _).trans (.swap _ _ _)

theorem sortFields_concat (fields : List (String × α)) (f : String × α) :
    sortFields (fields ++ [f]) = put f.1 f.2 (sortFields fields) := List.foldl_concat ..

theorem sortFields_ascending (fields : List (String × α)) : Ascending (sortFields fields) := by
  induction fields using List.reverseRecOn with
  | nil => exact .nil
  | append_singleton fields f ih =>
    rw [sortFields_concat]
    exact put_ascending ih f.1 f.2

theorem mem_sortFields {e : String × α} (member : e ∈ sortFields fields) : e ∈ fields := by
  induction fields using List.reverseRecOn with
  | nil => cases member
  | append_singleton fields f ih =>
    rw [sortFields_concat] at member
    rcases mem_put member with rfl | old
    · exact List.mem_append_right _ (List.mem_singleton_self _)
    · exact List.mem_append_left _ (ih old)

theorem sortFields_perm (distinct : (fields.map (·.1)).Nodup) : (sortFields fields).Perm fields := by
  induction fields using List.reverseRecOn with
  | nil => exact .refl _
  | append_singleton fields f ih =>
    rw [List.map_append, List.map_singleton, List.nodup_append] at distinct
    obtain ⟨first, -, apart⟩ := distinct
    have sorted := ih first
    have new : f.1 ∉ (sortFields fields).map (·.1) := fun member =>
      apart f.1 ((sorted.map _).mem_iff.mp member) f.1 (List.mem_singleton_self _) rfl
    rw [sortFields_concat]
    exact (put_perm new f.2).trans ((sorted.cons f).trans (List.perm_append_singleton f fields).symm)

/-- The order of fields of different names does not show once they are sorted. -/
theorem sortFields_eq_of_perm (distinct : (fields.map (·.1)).Nodup) (perm : fields.Perm others) :
    sortFields fields = sortFields others := by
  have sorted := (sortFields_perm distinct).trans
    (perm.trans (sortFields_perm ((perm.map _).nodup_iff.mp distinct)).symm)
  refine sorted.eq_of_pairwise (fun f g _ _ before after => ?_) (sortFields_ascending _) (sortFields_ascending _)
  exact absurd after (String.lt_asymm before)

theorem sortFields_of_ascending (ascending : Ascending fields) : sortFields fields = fields :=
  (sortFields_perm ascending.nodup).eq_of_pairwise
    (fun _ _ _ _ before after => absurd after (String.lt_asymm before)) (sortFields_ascending _) ascending

/-! Values in order. -/

theorem eq_null_of_toJson {r : Reading} (kept : r.toJson = .ok .null) : r = .null := by
  cases r with
  | null => rfl
  | arr items =>
    obtain ⟨_, -, same⟩ := map_eq_ok_iff.mp kept
    cases same
  | obj fields =>
    obtain ⟨_, -, same⟩ := map_eq_ok_iff.mp kept
    cases same
  | _ => cases kept

theorem orderedFields_eq_map (fields : List (String × Json)) :
    orderedFields fields = fields.map fun f => (f.1, f.2.ordered) := by
  induction fields with
  | nil => rfl
  | cons f rest ih => rw [orderedFields, ih, List.map_cons]

theorem itemsToJson_cons {r : Reading} {rest : List Reading} {values : List Json}
    (kept : Reading.itemsToJson (r :: rest) = .ok values) :
    ∃ v, r.toJson = .ok v ∧ ∃ more, Reading.itemsToJson rest = .ok more ∧ values = v :: more := by
  rw [Reading.itemsToJson] at kept
  split at kept
  case h_1 v first =>
    obtain ⟨more, later, same⟩ := map_eq_ok_iff.mp kept
    exact ⟨v, first, more, later, same.symm⟩
  case h_2 => cases kept

theorem fieldsToJson_cons {name : String} {r : Reading} {rest : List (String × Reading)} {values : List (String × Json)}
    (kept : Reading.fieldsToJson ((name, r) :: rest) = .ok values) :
    ∃ v, r.toJson = .ok v ∧ ∃ more, Reading.fieldsToJson rest = .ok more ∧ values = (name, v) :: more := by
  rw [Reading.fieldsToJson] at kept
  split at kept
  case h_1 v first =>
    obtain ⟨more, later, same⟩ := map_eq_ok_iff.mp kept
    exact ⟨v, first, more, later, same.symm⟩
  case h_2 => cases kept

theorem fieldsToJson_eq_ok_iff {es : List (String × Reading)} {fields : List (String × Json)} :
    Reading.fieldsToJson es = .ok fields ↔
      List.Forall₂ (fun e f => e.1 = f.1 ∧ e.2.toJson = .ok f.2) es fields := by
  induction es generalizing fields with
  | nil => simp [Reading.fieldsToJson, eq_comm]
  | cons e rest ih =>
    obtain ⟨name, r⟩ := e
    rw [Reading.fieldsToJson, List.forall₂_cons_left_iff]
    cases r.toJson with
    | error why => simp
    | ok v =>
      rw [map_eq_ok_iff]
      simp only [ih, Except.ok.injEq]
      refine ⟨fun ⟨more, later, same⟩ => ⟨(name, v), more, ⟨rfl, rfl⟩, later, same.symm⟩, ?_⟩
      rintro ⟨⟨other, value⟩, more, ⟨rfl, rfl⟩, later, same⟩
      exact ⟨more, later, same.symm⟩

mutual

/-- A value that is kept whole has its fields in order. -/
theorem ordered_of_toJson (r : Reading) {v : Json} (kept : r.toJson = .ok v) : v.ordered = v :=
  match r with
  | .null | .bool _ | .int _ | .float _ | .str _ => by
    cases kept
    rfl
  | .broken _ | .unreadable _ => nomatch kept
  | .arr items => by
    obtain ⟨values, inside, rfl⟩ := map_eq_ok_iff.mp kept
    rw [ordered, ordered_of_itemsToJson items inside]
  | .obj fields => by
    obtain ⟨values, inside, rfl⟩ := map_eq_ok_iff.mp kept
    have each := ordered_of_fieldsToJson fields inside
    have same : orderedFields (sortFields values) = sortFields values := by
      rw [orderedFields_eq_map]
      refine (List.map_congr_left fun f member => ?_).trans (List.map_id _)
      exact Prod.ext rfl (each f (mem_sortFields member))
    rw [ordered, same, sortFields_of_ascending (sortFields_ascending values)]

theorem ordered_of_itemsToJson (items : List Reading) {values : List Json}
    (kept : Reading.itemsToJson items = .ok values) : orderedItems values = values :=
  match items with
  | [] => by
    cases kept
    rfl
  | item :: rest => by
    obtain ⟨v, first, more, later, rfl⟩ := itemsToJson_cons kept
    rw [orderedItems, ordered_of_toJson item first, ordered_of_itemsToJson rest later]

theorem ordered_of_fieldsToJson (fields : List (String × Reading)) {values : List (String × Json)}
    (kept : Reading.fieldsToJson fields = .ok values) : ∀ f ∈ values, f.2.ordered = f.2 :=
  match fields with
  | [] => by
    cases kept
    exact nofun
  | (name, r) :: rest => by
    obtain ⟨v, first, more, later, rfl⟩ := fieldsToJson_cons kept
    exact List.forall_mem_cons.mpr ⟨ordered_of_toJson r first, ordered_of_fieldsToJson rest later⟩

end

end AttributeStore.Json
