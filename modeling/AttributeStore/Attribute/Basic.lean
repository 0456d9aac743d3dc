import AttributeStore.Attribute.Criterion
import AttributeStore.Period.Basic
import AttributeStore.Json.Value

/-! Attributes: one value computed from a stream of events. -/
namespace AttributeStore

/-- How the values of an attribute's events become one. -/
inductive Aggregation
  | counter
  | sum
  | min
  | max
  | mean
  | first
  | last
  | uniqueList
  deriving DecidableEq

namespace Aggregation

def name : Aggregation → String
  | counter => "counter"
  | sum => "sum"
  | min => "min"
  | max => "max"
  | mean => "mean"
  | first => "first"
  | last => "last"
  | uniqueList => "unique_list"

def all : List Aggregation := [counter, sum, min, max, mean, first, last, uniqueList]

/-- The first or last value is a property's; without one there is nothing to take. -/
def requiresProperty : Aggregation → Bool
  | first | last => true
  | _ => false

end Aggregation

/-- An event schema. The name may be empty, in which case nothing can be computed from the event. -/
structure Event where
  vendor : String
  name : String
  version : String
  deriving DecidableEq

structure Attribute where
  name : String
  valueType : Option String
  aggregation : Aggregation
  property : Option String
  events : List Event
  criteria : Option Criteria
  period : Option Period
  description : Option String
  defaultValue : Option Json

namespace Attribute

/-- An attribute over some events with nothing else said. -/
def ofEvents (name : String) (aggregation : Aggregation) (events : List Event) : Attribute :=
  ⟨name, none, aggregation, none, events, none, none, none, none⟩

/-- The declared property; an empty one counts as none. -/
def propertyPath (a : Attribute) : Option String := a.property.filter (!·.isEmpty)

/-- The criteria with at least one condition. -/
def activeCriteria (a : Attribute) : Option Criteria := a.criteria.filter (!·.isEmpty)

end Attribute

end AttributeStore
