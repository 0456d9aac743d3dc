import AttributeStore.Proofs.Decimal.Written
import AttributeStore.Proofs.Text.Splitting
import AttributeStore.Registry

/-! What deletions address. Names are put into paths as they are, and a path ends at its first question mark or number
sign. As long as names have neither, a path tells kind, name and version of its object; a name with one cuts its path
short, and two objects meet in what is left. -/
namespace AttributeStore.Registry

/-- The characters that end the path of an address. -/
def isMark (c : Char) : Bool := c = '?' || c = '#'

def upToMark (s : List Char) : List Char := s.takeWhile (!isMark ·)

/-- What a request is about: its path, as far as it is one. -/
def Request.resource (r : Request) : List Char := upToMark r.path.toList

def IsUnmarked (s : List Char) : Prop := ∀ c ∈ s, isMark c = false

instance (s : List Char) : Decidable (IsUnmarked s) := List.decidableBAll _ s

/-- A name that does not end the path that it is put into. -/
def IsPlain (name : String) : Prop := IsUnmarked name.toList

instance (name : String) : Decidable (IsPlain name) := inferInstanceAs (Decidable (IsUnmarked _))

theorem isUnmarked_cons {c : Char} {s : List Char} : IsUnmarked (c :: s) ↔ isMark c = false ∧ IsUnmarked s :=
  List.forall_mem_cons

theorem upToMark_append (s t : List Char) :
    upToMark (s ++ t) = if IsUnmarked s then s ++ upToMark t else upToMark s := by
  induction s with
  | nil => simp [IsUnmarked]
  | cons c s ih =>
    unfold upToMark at ih ⊢
    cases mark : isMark c
    · simp only [List.cons_append, List.takeWhile_cons, mark, ih, isUnmarked_cons, true_and, Bool.not_false, if_true]
      split <;> rfl
    · simp [mark, isUnmarked_cons]

theorem upToMark_of_unmarked {s : List Char} (unmarked : IsUnmarked s) : upToMark s = s := by
  have whole := upToMark_append s []
  rw [if_pos unmarked] at whole
  simpa [upToMark] using whole

namespace Object

def version? : Object → Option UInt32
  | view v => some v.version
  | _ => none

/-- What tells an object from all others of a registry. -/
def identity (o : Object) : String × String × Option UInt32 := (o.kind, o.name, o.version?)

/-- The end of an object's path, behind its collection. -/
def item : Object → String
  | view v => v.name ++ "/versions/" ++ toString v.version
  | o => o.name

/-- Two objects whose deletions cannot be told apart. Plain names tell all; a name with a mark is read up to it, and
against what another path has in its place, be it a name or a name and a version. -/
def Meets (o o' : Object) : Prop :=
  o.kind = o'.kind ∧
    if IsPlain o.name then
      if IsPlain o'.name then o.name = o'.name ∧ o.version? = o'.version?
      else o.item.toList = upToMark o'.name.toList
    else
      if IsPlain o'.name then upToMark o.name.toList = o'.item.toList
      else upToMark o.name.toList = upToMark o'.name.toList

theorem path_toList (o : Object) : o.path.toList = o.collection.toList ++ '/' :: o.item.toList := by
  cases o <;> simp [path, collection, item, name, toString, String.toList_append]

theorem version_digits (version : UInt32) : ∀ c ∈ (toString version).toList, Text.isDigit c :=
  (Decimal.isDigits_toString version.toNat).digits

theorem version_injective {version other : UInt32} (same : (toString version).toList = (toString other).toList) :
    version = other := by
  have values := congrArg Text.digitsValue same
  rw [show toString version = toString version.toNat from rfl, show toString other = toString other.toNat from rfl,
    Decimal.digitsValue_toString, Decimal.digitsValue_toString] at values
  exact UInt32.toNat_inj.mp values

theorem notMem_version {c : Char} (other : Text.isDigit c = false) (version : UInt32) :
    c ∉ (toString version).toList := by
  intro member
  rw [version_digits version c member] at other
  cases other

/-- Objects of one kind are told apart by the ends of their paths, whatever their names. -/
theorem item_eq_iff {o o' : Object} (alike : o.kind = o'.kind) :
    o.item = o'.item ↔ o.name = o'.name ∧ o.version? = o'.version? := by
  have views (v w : View) : (view v).item = (view w).item ↔ v.name = w.name ∧ v.version = w.version := by
    have chars (u : View) :
        (view u).item.toList = (u.name ++ "/versions").toList ++ '/' :: (toString u.version).toList := by
      simp [item, String.toList_append]
    constructor
    · intro same
      have lists := congrArg String.toList same
      rw [chars, chars, Text.append_cons_inj (notMem_version (by decide) _) (notMem_version (by decide) _)] at lists
      obtain ⟨names, versions⟩ := lists
      simp only [String.toList_append, List.append_cancel_right_eq] at names
      exact ⟨String.toList_injective names, version_injective versions⟩
    · rintro ⟨name, version⟩
      rw [item, item, name, version]
  cases o with
  | entity e => cases o' <;> simp_all [kind, item, name, version?]
  | service s => cases o' <;> simp_all [kind, item, name, version?]
  | view v =>
    cases o' with
    | view w => rw [views]; simp [name, version?]
    | entity e => simp [kind] at alike
    | service s => simp [kind] at alike

theorem collection_cases (o : Object) : o.collection ∈ ["entities", "views", "services"] := by
  cases o <;> simp [collection]

theorem collection_eq_iff {o o' : Object} : o.collection = o'.collection ↔ o.kind = o'.kind := by
  cases o <;> cases o' <;> simp [collection, kind]

/-- What is left of the end of a path at its first mark, which is in the name if anywhere. -/
theorem upToMark_item (o : Object) :
    upToMark o.item.toList = if IsPlain o.name then o.item.toList else upToMark o.name.toList := by
  have rest : ∃ more, o.item.toList = o.name.toList ++ more ∧ upToMark more = more := by
    cases o with
    | view v =>
      refine ⟨"/versions/".toList ++ (toString v.version).toList, by simp [item, name, String.toList_append], ?_⟩
      have middle : IsUnmarked "/versions/".toList := by decide
      refine upToMark_of_unmarked (List.forall_mem_append.mpr ⟨middle, fun c member => ?_⟩)
      cases mark : isMark c with
      | false => rfl
      | true =>
        rw [isMark, Bool.or_eq_true, decide_eq_true_iff, decide_eq_true_iff] at mark
        rcases mark with rfl | rfl <;> exact absurd member (notMem_version (by decide) _)
    | entity e => exact ⟨[], by simp [item, name], rfl⟩
    | service s => exact ⟨[], by simp [item, name], rfl⟩
  obtain ⟨more, chars, unmarked⟩ := rest
  rw [chars, upToMark_append, unmarked]
  rfl

end Object

/-- The request that deletes an object. -/
def deletion (o : Object) : Request := { method := .delete, path := s!"{root}/{o.path}" }

/-- No name touches the front of the path. -/
theorem resource_deletion (o : Object) :
    (deletion o).resource = root.toList ++ '/' :: (o.collection.toList ++ '/' :: upToMark o.item.toList) := by
  have chars : (deletion o).path.toList =
      (root.toList ++ '/' :: (o.collection.toList ++ ['/'])) ++ o.item.toList := by
    simp [deletion, Object.path_toList, toString, String.toList_append]
  have unmarked : ∀ s ∈ ["entities", "views", "services"],
      IsUnmarked (root.toList ++ '/' :: (s.toList ++ ['/'])) := by decide
  rw [Request.resource, chars, upToMark_append, if_pos (unmarked _ o.collection_cases)]
  simp

theorem resource_eq_iff {o o' : Object} : (deletion o).resource = (deletion o').resource ↔ o.Meets o' := by
  have closed : ∀ s ∈ ["entities", "views", "services"], '/' ∉ s.toList := by decide
  rw [resource_deletion, resource_deletion, List.append_cancel_left_eq, List.cons.injEq,
    Text.cons_append_inj (closed _ o.collection_cases) (closed _ o'.collection_cases), String.toList_inj,
    Object.collection_eq_iff, Object.Meets]
  simp only [true_and]
  refine and_congr_right fun alike => ?_
  rw [Object.upToMark_item, Object.upToMark_item]
  split <;> split
  · rw [String.toList_inj, Object.item_eq_iff alike]
  all_goals rfl

theorem resources_delete (objects : List Object) :
    (Operation.delete objects).requests.map Request.resource = objects.map fun o => (deletion o).resource := by
  rw [Operation.requests, List.map_map]
  rfl

theorem meets_iff_of_plain {o o' : Object} (plain : IsPlain o.name) (plain' : IsPlain o'.name) :
    o.Meets o' ↔ o.identity = o'.identity := by
  simp [Object.Meets, Object.identity, plain, plain']

/-- Deletions of some objects go to resources of their own exactly where no two of the objects meet. Among objects with
plain names those are all that differ in kind, name or version. -/
theorem delete_resources_nodup_iff (objects : List Object) :
    (((Operation.delete objects).requests.map Request.resource).Nodup ↔
      objects.Pairwise fun o o' => ¬o.Meets o') ∧
    ((∀ o ∈ objects, IsPlain o.name) →
      (((Operation.delete objects).requests.map Request.resource).Nodup ↔ (objects.map Object.identity).Nodup)) := by
  have meeting : ((Operation.delete objects).requests.map Request.resource).Nodup ↔
      objects.Pairwise fun o o' => ¬o.Meets o' := by
    rw [resources_delete, List.Nodup, List.pairwise_map]
    simp only [ne_eq, resource_eq_iff]
  refine ⟨meeting, fun plain => ?_⟩
  rw [meeting, List.Nodup, List.pairwise_map]
  constructor
  · intro apart
    refine apart.imp_of_mem fun {o o'} member member' other => ?_
    rwa [meets_iff_of_plain (plain o member) (plain o' member')] at other
  · intro apart
    refine apart.imp_of_mem fun {o o'} member member' other => ?_
    rwa [meets_iff_of_plain (plain o member) (plain o' member')]

/-- Objects that share a name, and a view whose name looks like the path of another. -/
theorem delete_resources_of_user :
    let user : Entity := ⟨"user", some "user_id", none⟩
    let objects : List Object := [.entity user, .service ⟨"user", none, none, [], false⟩,
      .view (.ofEntity "user" 1 user), .view (.ofEntity "user" 12 user), .view (.ofEntity "user/versions/1" 2 user)]
    (∀ o ∈ objects, IsPlain o.name) ∧ ((Operation.delete objects).requests.map Request.resource).Nodup := by
  intro user objects
  have plain : ∀ o ∈ objects, IsPlain o.name := by
    simp only [objects, List.forall_mem_cons]
    refine ⟨?_, ?_, ?_, ?_, ?_, by simp⟩ <;> decide
  exact ⟨plain, ((delete_resources_nodup_iff objects).2 plain).mpr (by decide)⟩

/-- An entity is deleted in place of another, and a version of a view in place of another view. -/
theorem delete_resources_of_marked_names :
    let user : Entity := ⟨"user", some "user_id", none⟩
    let entities : List Object := [.entity user, .entity { user with name := "user#old" }]
    let views : List Object := [.view (.ofEntity "visits" 1 user), .view (.ofEntity "visits/versions/1?" 2 user)]
    (∀ o ∈ entities ++ views, o.name ≠ "") ∧ ((entities ++ views).map Object.identity).Nodup ∧
      ¬((Operation.delete entities).requests.map Request.resource).Nodup ∧
      ¬((Operation.delete views).requests.map Request.resource).Nodup := by
  intro user entities views
  refine ⟨?_, by decide, by decide, by decide⟩
  simp [entities, views, user, Object.name, View.ofEntity]

end AttributeStore.Registry
