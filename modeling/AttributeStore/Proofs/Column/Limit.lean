import AttributeStore.Proofs.Column.Bare
import AttributeStore.Proofs.Column.Sanitized

/-! The limit on names. Only name characters are in a name that is put together, so that as many bytes as characters are
held against the limit. The name of a filter is left in it as it is, however deep the lists in its values are. -/
namespace AttributeStore.Column

theorem utf8Size_of_isNameChar {c : Char} (named : isNameChar c) : c.utf8Size = 1 := by
  rw [Char.utf8Size_eq_one_iff, UInt32.le_iff_toNat_le]
  simp only [isNameChar, Text.isLetter, Text.isDigit, Bool.or_eq_true, Bool.and_eq_true, decide_eq_true_eq,
    Char.le_def, UInt32.le_iff_toNat_le] at named
  rcases named with ((⟨-, small⟩ | ⟨-, capital⟩) | ⟨-, digit⟩) | rfl
  · exact Nat.le_trans small (by decide)
  · exact Nat.le_trans capital (by decide)
  · exact Nat.le_trans digit (by decide)
  · decide

theorem utf8ByteSize_eq_length {name : String} (spelled : ∀ c ∈ name.toList, isNameChar c) :
    name.utf8ByteSize = name.length := by
  induction name using String.push_induction with
  | empty => rfl
  | push front c ih =>
    rw [String.toList_push, List.forall_mem_append, List.forall_mem_singleton] at spelled
    rw [String.utf8ByteSize_push, String.length_push, ih spelled.1, utf8Size_of_isNameChar spelled.2]

/-! The names of filters. -/

theorem intercalate_isNameChar {sep : String} {parts : List String} (marked : ∀ c ∈ sep.toList, isNameChar c)
    (spelled : ∀ part ∈ parts, ∀ c ∈ part.toList, isNameChar c) :
    ∀ c ∈ (sep.intercalate parts).toList, isNameChar c := by
  induction parts with
  | nil => simp
  | cons part rest ih =>
    obtain ⟨first, others⟩ := List.forall_mem_cons.mp spelled
    cases rest with
    | nil => rwa [String.intercalate_singleton]
    | cons next rest =>
      rw [String.intercalate_cons_cons, String.toList_append, String.toList_append]
      exact List.forall_mem_append.mpr ⟨List.forall_mem_append.mpr ⟨first, marked⟩, ih others⟩

mutual

/-- Whatever characters are in a value, and however deep. -/
theorem ofValue_isNameChar (value : Operand) : ∀ c ∈ (ofValue value).toList, isNameChar c :=
  match value with
  | .bool _ | .int _ | .float _ | .str _ => by
    simp only [ofValue, String.toList_ofList]
    exact keepNameChars_isNameChar _
  | .list items => by
    rw [ofValue]
    exact intercalate_isNameChar (by decide) (ofValues_isNameChar items)

theorem ofValues_isNameChar (items : List Operand) : ∀ part ∈ ofValues items, ∀ c ∈ part.toList, isNameChar c :=
  match items with
  | [] => by simp [ofValues]
  | item :: rest => by
    rw [ofValues]
    exact List.forall_mem_cons.mpr ⟨ofValue_isNameChar item, ofValues_isNameChar rest⟩

end

theorem abbreviation_isNameChar (o : Operator) : ∀ c ∈ o.abbreviation.toList, isNameChar c := by
  cases o <;> decide

theorem ofCriterion_isNameChar (c : Criterion) : ∀ d ∈ (ofCriterion c).toList, isNameChar d := by
  have joined : ofCriterion c = "_".intercalate [ofPath c.property, c.operator.abbreviation, ofValue c.value] := by
    simp [ofCriterion, toString, String.append_assoc]
  rw [joined]
  refine intercalate_isNameChar (by decide) ?_
  simp only [List.forall_mem_cons]
  exact ⟨ofPath_isNameChar _, abbreviation_isNameChar _, ofValue_isNameChar _, by simp⟩

theorem ofCriteria_isNameChar (c : Criteria) : ∀ d ∈ (ofCriteria c).toList, isNameChar d := by
  unfold ofCriteria
  refine intercalate_isNameChar ?_ fun part member => ?_
  · split <;> decide
  · obtain ⟨d, -, rfl⟩ := List.mem_map.mp (List.mem_mergeSort.mp member)
    exact ofCriterion_isNameChar d

/-! Names that are put together. -/

theorem intercalate_eq_empty_iff {part : String} {rest : List String} :
    "_".intercalate (part :: rest) = "" ↔ part = "" ∧ rest = [] := by
  cases rest with
  | nil => simp
  | cons next rest => simp [String.intercalate_cons_cons, String.append_eq_empty_iff]

section

variable (a : Attribute) (aggregation : String) (property : Option String)

/-- Each part is cleaned for itself, and of the filter nothing is taken. -/
theorem fullName_eq_undigit : fullName a aggregation property =
    undigit ("_".intercalate ((aggregation :: (property.toList ++ a.events.map (·.name))).map kept ++
      a.activeCriteria.toList.map ofCriteria)) := by
  have filter : (a.activeCriteria.toList.map ofCriteria).map kept = a.activeCriteria.toList.map ofCriteria := by
    rw [List.map_map]
    exact List.map_congr_left fun c _ => kept_eq_self (ofCriteria_isNameChar c)
  rw [fullName, sanitize_eq_undigit, kept_intercalate, List.map_append, filter]
  rfl

theorem fullName_eq_empty_iff : fullName a aggregation property = "" ↔ kept aggregation = "" ∧
    property.toList ++ a.events.map (·.name) ++ a.activeCriteria.toList.map ofCriteria = [] := by
  rw [fullName_eq_undigit, undigit_eq_empty_iff, List.map_cons, List.cons_append, intercalate_eq_empty_iff]
  simp only [List.append_eq_nil_iff, List.map_eq_nil_iff]

theorem fullName_isSanitized : IsSanitized (fullName a aggregation property) := sanitize_isSanitized _

theorem daily_eq_ite : daily a aggregation property =
    if (fullName a aggregation property).length ≤ maxLength then fullName a aggregation property else a.name := by
  -- bytes are held against the limit, and each name character is one
  rw [daily, utf8ByteSize_eq_length (fullName_isSanitized a aggregation property).spelled, ← ite_not]
  simp only [Nat.not_lt]

end

/-- A name that is put together is what is left of its parts. It is taken if it has at most sixty characters; else the
days are called like the attribute. A name that is taken is left alone when it is sanitized again, and is empty only
where nothing is left of an aggregation that stands by itself. The aggregation of a step always leaves something, and
such a name is bare. -/
theorem daily_within_limit (a : Attribute) (aggregation : String) (property : Option String) :
    let parts := property.toList ++ a.events.map (·.name)
    let filter := a.activeCriteria.toList.map ofCriteria
    let full := sanitize ("_".intercalate (aggregation :: parts ++ filter))
    let name := daily a aggregation property
    full = undigit ("_".intercalate ((aggregation :: parts).map kept ++ filter)) ∧
    name = (if full.length ≤ 60 then full else a.name) ∧
    (full.length ≤ 60 → IsSanitized name ∧ sanitize name = name ∧
      (name = "" ↔ kept aggregation = "" ∧ parts ++ filter = []) ∧
      ∀ fold : Fold, aggregation = fold.name → IsBare name) := by
  intro parts filter full name
  have limited : name = if full.length ≤ 60 then full else a.name := daily_eq_ite a aggregation property
  refine ⟨fullName_eq_undigit a aggregation property, limited, fun short => ?_⟩
  have taken : name = full := limited.trans (if_pos short)
  have sanitized : IsSanitized full := fullName_isSanitized a aggregation property
  rw [taken]
  refine ⟨sanitized, sanitize_eq_self_iff.mpr sanitized, fullName_eq_empty_iff a aggregation property, ?_⟩
  rintro fold rfl
  obtain ⟨more, begins⟩ := fullName_fold a fold property
  exact isBare_of_fold begins sanitized.spelled

/-- Orders from an island, by two events and a filter with a list in a list. Much of it cannot stand in a name. -/
def islandOrders : Attribute :=
  { Attribute.ofEvents "island_orders" .sum
      [⟨"com.acme", "add-to-cart", "1-0-0"⟩, ⟨"com.acme", "café_öffnen", "1-0-0"⟩] with
    criteria := some { all := [⟨"geo.country", .isIn, .list [.str "São Tomé", .list [.str "50%", .bool true]]⟩] } }

/-- Sixty characters are taken, one more is too much. -/
theorem daily_within_limit_island :
    let full := "sum_prix__add_to_cart_caf_ffnen_country_in_so_tom_50pct_true"
    full.length = 60 ∧ daily islandOrders "sum" (some "prix_€") = full ∧ sanitize full = full ∧ IsBare full ∧
      daily islandOrders "sum" (some "prix_€s") = "island_orders" := by
  intro full
  have put : fullName islandOrders "sum" (some "prix_€") = full := by decide +kernel
  have length : full.length = 60 := by decide +kernel
  have short : (fullName islandOrders "sum" (some "prix_€")).length ≤ 60 :=
    Nat.le_of_eq ((congrArg String.length put).trans length)
  have long : ¬(fullName islandOrders "sum" (some "prix_€s")).length ≤ 60 := by decide +kernel
  obtain ⟨-, limited, rule⟩ := daily_within_limit islandOrders "sum" (some "prix_€")
  obtain ⟨-, limited', -⟩ := daily_within_limit islandOrders "sum" (some "prix_€s")
  have taken : daily islandOrders "sum" (some "prix_€") = full := (limited.trans (if_pos short)).trans put
  obtain ⟨-, same, -, bare⟩ := rule short
  rw [taken] at same bare
  exact ⟨length, taken, same, bare .sum rfl, limited'.trans (if_neg long)⟩

/-- A name that would begin with a digit, and one that nothing is left of. -/
example : daily (.ofEvents "visits" .counter [⟨"com.acme", "visit", "1-0-0"⟩]) "3d" none = "n_3d_visit" ∧
    daily (.ofEvents "visits" .counter []) "%" none = "" := by
  decide +kernel

end AttributeStore.Column
