import AttributeStore.Plan.Shape
import AttributeStore.Proofs.Json.Exact
import AttributeStore.Proofs.Plan.Compilation
import Mathlib.Data.String.Basic

/-! Compiled views as files. A blueprint is read from the text that it is written as, if its lists lie no deeper than
a reader goes. -/
namespace AttributeStore

open Json

theorem Operator.codec_exact : Operator.codec.Exact fun _ => True :=
  Codec.choice_exact fun a => by cases a <;> rfl

theorem Stage.codec_exact : Stage.codec.Exact fun _ => True := Codec.choice_exact fun a => by cases a <;> rfl

theorem Fold.codec_exact : Fold.codec.Exact fun _ => True := Codec.choice_exact fun a => by cases a <;> rfl

/-! Operands. -/

namespace Operand

mutual

/-- The doubles of an operand. -/
def floats : Operand → List Float
  | .float x => [x]
  | .list items => floatsOfItems items
  | _ => []

def floatsOfItems : List Operand → List Float
  | [] => []
  | item :: rest => item.floats ++ floatsOfItems rest

end

mutual

theorem legible_toJson (o : Operand) (back : ∀ x ∈ o.floats, ReadsBack x) : o.toJson.Legible :=
  match o with
  | .bool _ | .str _ => trivial
  | .int n => ⟨n.minValue_le_toInt, Int.lt_trans n.toInt_lt (by decide)⟩
  | .float x => back x (List.mem_singleton_self x)
  | .list items => legible_toJsons items back

theorem legible_toJsons (items : List Operand) (back : ∀ x ∈ floatsOfItems items, ReadsBack x) :
    LegibleItems (toJsons items) :=
  match items with
  | [] => trivial
  | item :: rest =>
    ⟨legible_toJson item fun x member => back x (List.mem_append_left _ member),
      legible_toJsons rest fun x member => back x (List.mem_append_right _ member)⟩

end

mutual

theorem ordered_toJson (o : Operand) : o.toJson.ordered = o.toJson :=
  match o with
  | .bool _ | .str _ | .int _ | .float _ => rfl
  | .list items => congrArg Json.arr (ordered_toJsons items)

theorem ordered_toJsons (items : List Operand) : orderedItems (toJsons items) = toJsons items :=
  match items with
  | [] => rfl
  | item :: rest => by rw [toJsons, orderedItems, ordered_toJson item, ordered_toJsons rest]

end

mutual

/-- The first kind that fits what is written for an operand is its own. -/
theorem ofJson?_toJson (o : Operand) : ofJson? o.toJson = some o :=
  match o with
  | .bool _ | .str _ | .float _ => rfl
  | .int n => by
    rw [toJson, ofJson?, if_pos ⟨n.minValue_le_toInt, n.toInt_le⟩, n.ofInt_toInt]
  | .list items => by rw [toJson, ofJson?, ofJsons?_toJsons items]; rfl

theorem ofJsons?_toJsons (items : List Operand) : ofJsons? (toJsons items) = some items :=
  match items with
  | [] => rfl
  | item :: rest => by
    rw [toJsons, ofJsons?, ofJson?_toJson item]
    dsimp only
    rw [ofJsons?_toJsons rest]
    rfl

end

theorem codec_exact : codec.Exact fun o => ∀ x ∈ o.floats, ReadsBack x := by
  intro o back
  refine ⟨o.legible_toJson back, fun source depth => ?_⟩
  have kept := readable_settles o.toJson depth
  rw [o.ordered_toJson] at kept
  refine ⟨fun fits => ?_, fun deep => ?_⟩
  · dsimp only [codec]
    rw [kept.1 fits]
    dsimp only
    rw [o.ofJson?_toJson]
  · obtain ⟨fault, refused⟩ := kept.2 deep
    refine ⟨fault, ?_⟩
    dsimp only [codec]
    rw [refused]

end Operand

/-! Conditions and steps. -/

def Criteria.floats (c : Criteria) : List Float := (c.all ++ c.any).flatMap (·.value.floats)

def Step.floats (s : Step) : List Float := s.criteria.elim [] Criteria.floats

def Plan.floats (p : Plan) : List Float := p.steps.flatMap Step.floats

def Blueprint.floats (b : Blueprint) : List Float := b.plans.flatMap Plan.floats

theorem Criterion.codecNamed_exact (type : String) :
    (codecNamed type).Exact fun c => ∀ x ∈ c.value.floats, ReadsBack x := by
  have fields := Fields.Exact.cons (required_exact Codec.string_exact "property") (.cons
    (required_exact Operator.codec_exact "operator") (.cons
    (required_exact Operand.codec_exact "value") .nil List.not_mem_nil) (by decide)) (by decide)
  exact (Codec.Exact.record fields type fun _ => rfl).of_imp fun c back => ⟨trivial, trivial, back, trivial⟩

theorem Criteria.codecNamed_exact (type item : String) :
    (codecNamed type item).Exact fun c => ∀ x ∈ c.floats, ReadsBack x := by
  have items := (Criterion.codecNamed_exact item).list
  have fields := Fields.Exact.cons (defaulted_exact items "all" []) (.cons
    (defaulted_exact items "any" []) .nil List.not_mem_nil) (by simp [Fields.names, defaulted])
  refine (Codec.Exact.record fields type fun _ => rfl).of_imp fun c back => ?_
  have group : ∀ a ∈ c.all ++ c.any, ∀ x ∈ a.value.floats, ReadsBack x :=
    fun a member x inside => back x (List.mem_flatMap.mpr ⟨a, member, inside⟩)
  exact ⟨fun a member => group a (List.mem_append_left _ member),
    fun a member => group a (List.mem_append_right _ member), trivial⟩

theorem Step.codec_exact : Step.codec.Exact fun s => ∀ x ∈ s.floats, ReadsBack x := by
  have fields := Fields.Exact.cons (required_exact Stage.codec_exact "step_type") (.cons
    (required_exact Codec.bool_exact "enabled") (.cons
    (nullable_exact Fold.codec_exact (fun _ => nofun) "aggregation") (.cons
    (nullable_exact Codec.string_exact (fun _ => nofun) "column_name") (.cons
    (nullable_exact (Criteria.codecNamed_exact "ModelingCriteria" "Condition") (fun _ => nofun) "modeling_criteria")
    .nil List.not_mem_nil) (by decide)) (by decide)) (by decide)) (by decide)
  refine (Codec.Exact.record fields "ModelingStep" fun _ => rfl).of_imp fun s back => ?_
  refine ⟨trivial, trivial, fun _ _ => trivial, fun _ _ => trivial, fun c member => ?_, trivial⟩
  rwa [Step.floats, show s.criteria = some c from member] at back

/-! Plans and blueprints. -/

/-- The steps stand in the order of the stages. -/
def Plan.InOrder (p : Plan) : Prop := p.steps.map (·.stage) = Stage.all

theorem Plan.ofSteps_steps {p : Plan} (inOrder : p.InOrder) : ofSteps p.steps = .ok p := if_pos inOrder

theorem Plan.codec_exact : Plan.codec.Exact fun p => p.InOrder ∧ ∀ x ∈ p.floats, ReadsBack x := by
  refine Step.codec_exact.list.refine fun p ⟨inOrder, back⟩ => ⟨fun s member x inside => ?_, ?_⟩
  · exact back x (List.mem_flatMap.mpr ⟨s, member, inside⟩)
  · rw [ofSteps_steps inOrder]
    rfl

theorem Ledger.insertSorted_last {s : String} {done : List String} (last : ∀ t ∈ done, t < s) :
    insertSorted s done = done ++ [s] := by
  induction done with
  | nil => rfl
  | cons t rest ih =>
    have above : t < s := last t (by simp)
    rw [insertSorted, if_neg (String.lt_asymm above), if_neg (String.ne_of_lt above).symm,
      ih fun u member => last u (List.mem_cons_of_mem t member)]
    rfl

theorem Ledger.insertSorted_ascending {done texts : List String} (ascending : (done ++ texts).Pairwise (· < ·)) :
    texts.foldl (fun done s => insertSorted s done) done = done ++ texts := by
  induction texts generalizing done with
  | nil => simp
  | cons s rest ih =>
    have last : ∀ t ∈ done, t < s := fun t member => (List.pairwise_append.mp ascending).2.2 t member s (by simp)
    rw [List.foldl_cons, insertSorted_last last, ih (by simpa using ascending)]
    simp

theorem sortedTexts_exact : sortedTexts.Exact fun texts => texts.Pairwise (· < ·) := by
  intro texts ascending
  obtain ⟨legible, settles⟩ := Codec.string_exact.list texts fun _ _ => trivial
  refine ⟨legible, fun source depth => ?_⟩
  have sorted := (settles source depth).map fun texts => texts.foldl (fun done s => Ledger.insertSorted s done) []
  have same : texts.foldl (fun done s => Ledger.insertSorted s done) [] = texts :=
    Ledger.insertSorted_ascending ascending
  rwa [same] at sorted

theorem Column.Binding.codec_exact : Column.Binding.codec.Exact fun _ => True := by
  intro b _
  refine ⟨⟨trivial, trivial⟩, fun source depth => ?_⟩
  show Settles _ b (codec.decode source (sealed depth (.obj [(b.path, .str b.name)])))
  refine Settles.iff ?_ fits_obj.symm
  rw [sealed]
  split
  case isTrue here => exact .ok ⟨here, by simp [Fits, levels]⟩ b
  case isFalse below => exact .error (fun both => below both.1) b _

/-- A blueprint that can be written and read again: its plans and periods stand in their orders, and its doubles are
read from their own texts. -/
structure Blueprint.Storable (b : Blueprint) : Prop where
  inOrder : ∀ p ∈ b.plans, p.InOrder
  ascending : b.periods.Pairwise (· < ·)
  readsBack : ∀ x ∈ b.floats, ReadsBack x

theorem Blueprint.codec_exact : Blueprint.codec.Exact Storable := by
  have fields := Fields.Exact.cons (required_exact Codec.string_exact.list "events") (.cons
    (required_exact Column.Binding.codec_exact.list "properties") (.cons
    (required_exact sortedTexts_exact "periods") (.cons
    (required_exact Plan.codec_exact.list "transformed_attributes") (.cons
    (required_exact Codec.string_exact "entity_key")
    .nil List.not_mem_nil) (by decide)) (by decide)) (by decide)) (by decide)
  refine (Codec.Exact.record fields "BaseConfig" fun _ => rfl).of_imp fun b storable => ?_
  refine ⟨fun _ _ => trivial, fun _ _ => trivial, storable.ascending, fun p member => ⟨storable.inOrder p member, ?_⟩,
    trivial, trivial⟩
  exact fun x inside => storable.readsBack x (List.mem_flatMap.mpr ⟨p, member, inside⟩)

theorem Blueprint.ofText_pretty {b : Blueprint} (storable : b.Storable) :
    Settles ((codec.encode b).levels ≤ maxDepth) b (codec.ofText (codec.encode b).pretty) :=
  codec_exact.ofText storable

/-! Compiled blueprints. -/

theorem Ledger.insertSorted_pairwise {s : String} {texts : List String} (ascending : texts.Pairwise (· < ·)) :
    (insertSorted s texts).Pairwise (· < ·) := by
  induction texts with
  | nil => simp [insertSorted]
  | cons t rest ih =>
    obtain ⟨first, others⟩ := List.pairwise_cons.mp ascending
    rw [insertSorted]
    split
    case isTrue before =>
      refine List.pairwise_cons.mpr ⟨List.forall_mem_cons.mpr ⟨before, fun u member => ?_⟩, ascending⟩
      exact String.lt_trans before (first u member)
    case isFalse notBefore =>
      split
      case isTrue => exact ascending
      case isFalse different =>
        refine List.pairwise_cons.mpr ⟨fun u member => ?_, ih others⟩
        rcases mem_insertSorted.mp member with rfl | old
        · exact (lt_trichotomy t u).resolve_right (not_or.mpr ⟨Ne.symm different, notBefore⟩)
        · exact first u old

theorem Ledger.enterAll_ascending {l : Ledger} (ascending : l.periods.Pairwise (· < ·)) (attributes : List Attribute) :
    (l.enterAll attributes).periods.Pairwise (· < ·) := by
  induction attributes generalizing l with
  | nil => exact ascending
  | cons a rest ih =>
    refine ih ?_
    show (a.period.elim l.periods fun p => insertSorted p.iso l.periods).Pairwise (· < ·)
    cases a.period with
    | none => exact ascending
    | some p => exact insertSorted_pairwise ascending

/-- A compiled view can be written and read again as far as its doubles can. -/
theorem Blueprint.ofView_storable {v : View} {b : Blueprint} (compiled : ofView v = .ok b)
    (back : ∀ x ∈ b.floats, ReadsBack x) : b.Storable := by
  obtain ⟨plans, planned, rfl⟩ := ofAttributes_eq_ok_iff.mp compiled
  refine ⟨fun p member => ?_, Ledger.enterAll_ascending .nil v.attributes, back⟩
  obtain ⟨a, -, made⟩ := (exists_of_mapM_eq_ok (mapM_eq_ok_iff.mpr planned)).2 p member
  obtain ⟨fold, daily, -, -, -, rfl⟩ := Attribute.planIn_eq_ok_iff.mp made
  rfl

end AttributeStore
