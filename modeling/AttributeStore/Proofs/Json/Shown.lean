import AttributeStore.Proofs.Json.Ordered

/-! What a reader sees of a value, in a text or in memory: the value itself, with the fields of its objects in some
order. A value whose objects have each name once is known by any such view of it. -/
namespace AttributeStore.Json

mutual

/-- The reader sees this value. -/
def Shows : Json → Reading → Prop
  | .arr items, r => ∃ rs, r = .arr rs ∧ ShowsItems items rs
  | .obj fields, r => ∃ es es', r = .obj es ∧ es.Perm es' ∧ ShowsFields fields es'
  | v, r => r = v.reading

def ShowsItems : List Json → List Reading → Prop
  | [], rs => rs = []
  | item :: rest, rs => ∃ r more, rs = r :: more ∧ item.Shows r ∧ ShowsItems rest more

def ShowsFields : List (String × Json) → List (String × Reading) → Prop
  | [], es => es = []
  | (name, value) :: rest, es => ∃ r more, es = (name, r) :: more ∧ value.Shows r ∧ ShowsFields rest more

end

theorem names_of_showsFields {fields : List (String × Json)} {es : List (String × Reading)}
    (shown : ShowsFields fields es) : es.map (·.1) = fields.map (·.1) := by
  induction fields generalizing es with
  | nil =>
    cases shown
    rfl
  | cons f rest ih =>
    obtain ⟨r, more, rfl, -, later⟩ := shown
    rw [List.map_cons, List.map_cons, ih later]

mutual

/-- Each object has each of its names once. -/
def Distinct : Json → Prop
  | .arr items => DistinctItems items
  | .obj fields => (fields.map (·.1)).Nodup ∧ DistinctFields fields
  | _ => True

def DistinctItems : List Json → Prop
  | [] => True
  | item :: rest => item.Distinct ∧ DistinctItems rest

def DistinctFields : List (String × Json) → Prop
  | [] => True
  | (_, value) :: rest => value.Distinct ∧ DistinctFields rest

end

theorem distinctItems_iff {items : List Json} : DistinctItems items ↔ ∀ item ∈ items, item.Distinct := by
  induction items with
  | nil => simp [DistinctItems]
  | cons item rest ih => rw [DistinctItems, ih, List.forall_mem_cons]

theorem distinctFields_iff {fields : List (String × Json)} : DistinctFields fields ↔ ∀ f ∈ fields, f.2.Distinct := by
  induction fields with
  | nil => simp [DistinctFields]
  | cons f rest ih => rw [DistinctFields, ih, List.forall_mem_cons]

mutual

theorem distinct_ordered (v : Json) : v.ordered.Distinct :=
  match v with
  | .null | .bool _ | .int _ | .float _ | .str _ => trivial
  | .arr items => distinctItems_iff.mpr (distinct_orderedItems items)
  | .obj fields => ⟨(sortFields_ascending _).nodup,
      distinctFields_iff.mpr fun f member => distinct_orderedFields fields f (mem_sortFields member)⟩

theorem distinct_orderedItems (items : List Json) : ∀ item ∈ orderedItems items, item.Distinct :=
  match items with
  | [] => nofun
  | item :: rest => List.forall_mem_cons.mpr ⟨distinct_ordered item, distinct_orderedItems rest⟩

theorem distinct_orderedFields (fields : List (String × Json)) : ∀ f ∈ orderedFields fields, f.2.Distinct :=
  match fields with
  | [] => nofun
  | (_, value) :: rest => List.forall_mem_cons.mpr ⟨distinct_ordered value, distinct_orderedFields rest⟩

end

/-! The two ways a written value is seen. -/

mutual

/-- In a text, if it goes no deeper than the reader. -/
theorem shows_readingAt (v : Json) {depth : Nat} (fits : v.Fits depth) : v.Shows (v.readingAt depth) :=
  match v with
  | .null | .bool _ | .int _ | .float _ | .str _ => rfl
  | .arr items => by
    obtain ⟨here, below⟩ := fits_arr.mp fits
    rw [readingAt, sealed, if_pos here]
    exact ⟨_, rfl, showsItems_readingsAt items below⟩
  | .obj fields => by
    obtain ⟨here, below⟩ := fits_obj.mp fits
    rw [readingAt, sealed, if_pos here]
    exact ⟨_, _, rfl, .refl _, showsFields_readingsAt fields below⟩

theorem showsItems_readingsAt (items : List Json) {depth : Nat} (fits : ∀ item ∈ items, item.Fits depth) :
    ShowsItems items (readingsAt depth items) :=
  match items with
  | [] => rfl
  | item :: rest => by
    obtain ⟨first, others⟩ := List.forall_mem_cons.mp fits
    exact ⟨_, _, rfl, shows_readingAt item first, showsItems_readingsAt rest others⟩

theorem showsFields_readingsAt (fields : List (String × Json)) {depth : Nat} (fits : ∀ f ∈ fields, f.2.Fits depth) :
    ShowsFields fields (fieldReadingsAt depth fields) :=
  match fields with
  | [] => rfl
  | (_, value) :: rest => by
    obtain ⟨first, others⟩ := List.forall_mem_cons.mp fits
    exact ⟨_, _, rfl, shows_readingAt value first, showsFields_readingsAt rest others⟩

end

theorem fieldReadings_eq_map (fields : List (String × Json)) :
    fieldReadings fields = fields.map fun f => (f.1, f.2.reading) := by
  induction fields with
  | nil => rfl
  | cons f rest ih => rw [fieldReadings, ih, List.map_cons]

theorem orderedFields_names (fields : List (String × Json)) :
    (orderedFields fields).map (·.1) = fields.map (·.1) := by
  rw [orderedFields_eq_map, List.map_map]
  rfl

mutual

/-- In memory, where names stand in order. -/
theorem shows_ordered (v : Json) (distinct : v.Distinct) : v.Shows v.ordered.reading :=
  match v with
  | .null | .bool _ | .int _ | .float _ | .str _ => rfl
  | .arr items => ⟨_, rfl, showsItems_ordered items distinct⟩
  | .obj fields => by
    have names : ((orderedFields fields).map (·.1)).Nodup := by
      rw [orderedFields_names]
      exact distinct.1
    refine ⟨_, fieldReadings (orderedFields fields), rfl, ?_, showsFields_ordered fields distinct.2⟩
    rw [fieldReadings_eq_map, fieldReadings_eq_map]
    exact (sortFields_perm names).map _

theorem showsItems_ordered (items : List Json) (distinct : DistinctItems items) :
    ShowsItems items (readings (orderedItems items)) :=
  match items with
  | [] => rfl
  | item :: rest => ⟨_, _, rfl, shows_ordered item distinct.1, showsItems_ordered rest distinct.2⟩

theorem showsFields_ordered (fields : List (String × Json)) (distinct : DistinctFields fields) :
    ShowsFields fields (fieldReadings (orderedFields fields)) :=
  match fields with
  | [] => rfl
  | (_, value) :: rest => ⟨_, _, rfl, shows_ordered value distinct.1, showsFields_ordered rest distinct.2⟩

end

/-! What is kept of a value that is seen. -/

/-- Fields that are read in another order are the same once they are sorted. -/
theorem sortFields_fieldsToJson {es es' : List (String × Reading)} (perm : es.Perm es')
    (distinct : (es'.map (·.1)).Nodup) {fields : List (String × Json)}
    (kept : Reading.fieldsToJson es' = .ok fields) :
    (Reading.fieldsToJson es).map sortFields = .ok (sortFields fields) := by
  obtain ⟨others, same, shuffled⟩ := List.perm_comp_forall₂ perm (fieldsToJson_eq_ok_iff.mp kept)
  have names : es.map (·.1) = others.map (·.1) :=
    List.forall₂_eq_eq_eq ▸ List.forall₂_map_left_iff.mpr
      (List.forall₂_map_right_iff.mpr (same.imp fun _ _ => And.left))
  rw [fieldsToJson_eq_ok_iff.mpr same]
  refine congrArg _ (sortFields_eq_of_perm ?_ shuffled)
  rw [← names]
  exact (perm.map _).nodup_iff.mpr distinct

mutual

theorem toJson_of_shows (v : Json) (distinct : v.Distinct) {r : Reading} (shown : v.Shows r) :
    r.toJson = .ok v.ordered :=
  match v with
  | .null | .bool _ | .int _ | .float _ | .str _ => by
    cases shown
    rfl
  | .arr items => by
    obtain ⟨rs, rfl, inside⟩ := shown
    rw [Reading.toJson, itemsToJson_of_shows items distinct inside]
    rfl
  | .obj fields => by
    obtain ⟨es, es', rfl, perm, inside⟩ := shown
    have sorted := sortFields_fieldsToJson perm (names_of_showsFields inside ▸ distinct.1)
      (fieldsToJson_of_shows fields distinct.2 inside)
    obtain ⟨values, kept, same⟩ := map_eq_ok_iff.mp sorted
    rw [Reading.toJson, kept]
    exact congrArg (fun fields => Except.ok (Json.obj fields)) same

theorem itemsToJson_of_shows (items : List Json) (distinct : DistinctItems items) {rs : List Reading}
    (shown : ShowsItems items rs) : Reading.itemsToJson rs = .ok (orderedItems items) :=
  match items with
  | [] => by
    cases shown
    rfl
  | item :: rest => by
    obtain ⟨r, more, rfl, first, later⟩ := shown
    rw [Reading.itemsToJson, toJson_of_shows item distinct.1 first]
    dsimp only
    rw [itemsToJson_of_shows rest distinct.2 later]
    rfl

theorem fieldsToJson_of_shows (fields : List (String × Json)) (distinct : DistinctFields fields)
    {es : List (String × Reading)} (shown : ShowsFields fields es) :
    Reading.fieldsToJson es = .ok (orderedFields fields) :=
  match fields with
  | [] => by
    cases shown
    rfl
  | (_, value) :: rest => by
    obtain ⟨r, more, rfl, first, later⟩ := shown
    rw [Reading.fieldsToJson, toJson_of_shows value distinct.1 first]
    dsimp only
    rw [fieldsToJson_of_shows rest distinct.2 later]
    rfl

end

/-- A value with its fields in order is seen as itself. -/
theorem readable_of_shows {v : Json} (inOrder : v.ordered = v) {r : Reading} (shown : v.Shows r) :
    readable r = .ok v := by
  have kept := toJson_of_shows v (inOrder ▸ distinct_ordered v) shown
  rw [readable, kept, inOrder]
  rfl

end AttributeStore.Json
