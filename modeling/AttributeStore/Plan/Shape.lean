import AttributeStore.Attribute.Shape
import AttributeStore.CompileError
import AttributeStore.Plan.Ledger

/-! The JSON shapes of plans and blueprints. A plan is the list of its three steps in their order. -/
namespace AttributeStore

open Json

def Stage.codec : Codec Stage := .choice name all

def Fold.codec : Codec Fold := .choice name all

def Step.codec : Codec Step :=
  .record "ModelingStep"
    (.cons (required "step_type" Stage.codec) <| .cons (required "enabled" .bool) <|
      .cons (nullable "aggregation" Fold.codec) <| .cons (nullable "column_name" .string) <|
      .cons (nullable "modeling_criteria" Criteria.boundCodec) .nil)
    (fun (stage, enabled, fold, column, criteria, ()) => ⟨stage, enabled, fold, column, criteria⟩)
    (fun s => (s.stage, s.enabled, s.fold, s.column, s.criteria, ()))

def Plan.ofSteps (steps : List Step) : Except CompileError Plan :=
  match steps with
  | [filtered, daily, final] =>
    if steps.map (·.stage) = Stage.all then .ok ⟨filtered, daily, final⟩
    else .error (.malformedPlan (.order (steps.map (·.stage))))
  | steps => .error (.malformedPlan (.order (steps.map (·.stage))))

def Plan.codec : Codec Plan :=
  .refine (.list Step.codec) (fun steps => (ofSteps steps).mapError CompileError.message) steps

/-- Texts in ascending order, each once. -/
def sortedTexts : Codec (List String) where
  encode := (Codec.list .string).encode
  decode source r :=
    ((Codec.list .string).decode source r).map fun texts => texts.foldl (fun done s => Ledger.insertSorted s done) []

def Blueprint.codec : Codec Blueprint :=
  .record "BaseConfig"
    (.cons (required "events" (.list .string)) <| .cons (required "properties" (.list Column.Binding.codec)) <|
      .cons (required "periods" sortedTexts) <| .cons (required "transformed_attributes" (.list Plan.codec)) <|
      .cons (required "entity_key" .string) .nil)
    (fun (events, properties, periods, plans, entityKey, ()) => ⟨events, properties, periods, plans, entityKey⟩)
    (fun b => (b.events, b.properties, b.periods, b.plans, b.entityKey, ()))

end AttributeStore
