import AttributeStore.Plan.Basic
import AttributeStore.Sql.Fault

/-! Everything that keeps attributes from becoming models. -/
namespace AttributeStore

/-- What is wrong with steps that were read rather than compiled. -/
inductive PlanFault
  | order (found : List Stage)
  | noFold (subject : String) (stage : Stage)
  | noColumn (subject : String) (stage : Stage)

inductive ReferenceFault
  | scheme
  | parts
  | emptyPart

inductive CompileError
  | unsupportedAggregation (subject : String) (aggregation : Aggregation)
  | missingEventName (subject : String) (index : Nat)
  | missingProperty (subject aggregation : String)
  | invalidEventReference (reference : String) (fault : ReferenceFault)
  | invalidFilterOperator (subject : String) (operator : Operator) (value : Operand)
  | invalidAttributeType (name : String)
  | invalidPeriodValue (subject : String) (value : Operand)
  | invalidCriteria (subject : String)
  | invalidSql (subject clause : String) (fault : Sql.Fault)
  | malformedPlan (fault : PlanFault)

def PlanFault.message : PlanFault → String
  | .order found =>
    "expected [filtered_events, daily_aggregation, attribute_aggregation], found [" ++
      ", ".intercalate (found.map Stage.name) ++ "]"
  | .noFold subject stage => s!"attribute '{subject}': {stage.name} step has no aggregation"
  | .noColumn subject stage => s!"attribute '{subject}': {stage.name} step has no column name"

def ReferenceFault.message : ReferenceFault → String
  | .scheme => "must start with 'iglu:'"
  | .parts => "expected vendor/name/format/version"
  | .emptyPart => "empty component"

namespace CompileError

def message : CompileError → String
  | unsupportedAggregation subject aggregation =>
    s!"attribute '{subject}': aggregation '{aggregation.name}' is not supported by batch generation"
  | missingEventName subject index => s!"attribute '{subject}': event #{index} has no name"
  | missingProperty subject aggregation =>
    s!"attribute '{subject}': aggregation '{aggregation}' requires a property"
  | invalidEventReference reference fault => s!"invalid event reference '{reference}': {fault.message}"
  | invalidFilterOperator subject operator value =>
    s!"attribute '{subject}': operator '{operator.symbol}' cannot be applied to value '{value.text}'"
  | invalidAttributeType name => s!"unknown attribute type '{name}'"
  | invalidPeriodValue subject value =>
    s!"attribute '{subject}': period value '{value.text}' is not a whole number of days"
  | invalidCriteria subject =>
    s!"attribute '{subject}': only one of 'all' or 'any' may hold more than one condition"
  | invalidSql subject clause fault =>
    s!"attribute '{subject}': generated clause \x60{clause}\x60 is not valid SQL: {fault.message}"
  | malformedPlan fault => "malformed modeling steps: " ++ fault.message

/-- The attribute that the error is about, if it is about one. -/
def subject : CompileError → Option String
  | unsupportedAggregation a _ | missingEventName a _ | missingProperty a _ | invalidFilterOperator a _ _
  | invalidPeriodValue a _ | invalidCriteria a | invalidSql a _ _ => some a
  | invalidEventReference .. | invalidAttributeType .. | malformedPlan .. => none

end CompileError

end AttributeStore
