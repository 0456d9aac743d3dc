import AttributeStore.Attribute.Basic
import AttributeStore.Column.Binding

/-! Plans: how the warehouse computes one attribute, in three steps over filtered events, days and the whole window;
and the blueprint of a view, which holds the plans of its attributes with all that they share. -/
namespace AttributeStore

inductive Stage
  | filteredEvents
  | dailyAggregation
  | attributeAggregation
  deriving DecidableEq

namespace Stage

def name : Stage → String
  | filteredEvents => "filtered_events"
  | dailyAggregation => "daily_aggregation"
  | attributeAggregation => "attribute_aggregation"

def all : List Stage := [filteredEvents, dailyAggregation, attributeAggregation]

end Stage

/-- The aggregations that a warehouse computes. -/
inductive Fold
  | count
  | sum
  | min
  | max
  | first
  | last
  | uniqueList
  deriving DecidableEq

namespace Fold

def name : Fold → String
  | count => "count"
  | sum => "sum"
  | min => "min"
  | max => "max"
  | first => "first"
  | last => "last"
  | uniqueList => "unique_list"

def all : List Fold := [count, sum, min, max, first, last, uniqueList]

/-- A mean cannot be put together from daily means. -/
def ofAggregation? : Aggregation → Option Fold
  | .counter => some count
  | .sum => some sum
  | .min => some min
  | .max => some max
  | .first => some first
  | .last => some last
  | .uniqueList => some uniqueList
  | .mean => none

def isPositional : Fold → Bool
  | first | last => true
  | _ => false

/-- How daily values become one: counts are added up, all else folds as before. -/
def rollup : Fold → Fold
  | count => sum
  | other => other

end Fold

structure Step where
  stage : Stage
  enabled : Bool
  fold : Option Fold
  column : Option String
  criteria : Option Criteria

structure Plan where
  filtered : Step
  daily : Step
  final : Step

namespace Plan

/-- The attribute is the column of the last step. -/
def attributeName (p : Plan) : String := p.final.column.getD ""

def steps (p : Plan) : List Step := [p.filtered, p.daily, p.final]

end Plan

structure Blueprint where
  /-- Event addresses in the order of first use. -/
  events : List String
  properties : List Column.Binding
  /-- ISO texts in ascending order. -/
  periods : List String
  plans : List Plan
  entityKey : String

end AttributeStore
