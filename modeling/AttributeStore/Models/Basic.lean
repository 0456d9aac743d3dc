import AttributeStore.Plan.Shape
import AttributeStore.Sql.Clause

/-! What the models of a warehouse project are written from: the events and columns they read, the daily columns, and
the final columns in five buckets by the SQL that computes them. -/
namespace AttributeStore

inductive Bucket
  | lifetime
  | lastNDays
  | firstValue
  | lastValue
  | uniqueList
  deriving DecidableEq

namespace Bucket

def name : Bucket → String
  | lifetime => "lifetime_aggregates"
  | lastNDays => "last_n_day_aggregates"
  | firstValue => "first_value_attributes"
  | lastValue => "last_value_attributes"
  | uniqueList => "unique_list_attributes"

def all : List Bucket := [lifetime, lastNDays, firstValue, lastValue, uniqueList]

def parse (s : String) : Except CompileError Bucket :=
  match all.find? (·.name == s) with
  | some bucket => .ok bucket
  | none => .error (.invalidAttributeType s)

/-- The bucket of a rolled-up aggregation and its window. -/
def route (fold : Fold) (days : Option Int64) : Bucket :=
  match fold with
  | .first => firstValue
  | .last => lastValue
  | .uniqueList => uniqueList
  | _ => if days.isSome then lastNDays else lifetime

end Bucket

/-- A column of the attributes model, computed from a daily column. -/
structure FinalColumn where
  dailyName : String
  name : String
  /-- The window in days. -/
  days : Option Int64
  function : String
  deriving DecidableEq

structure DailyColumn where
  name : String
  function : String
  expression : String
  deriving DecidableEq

structure Buckets where
  lifetime : List FinalColumn := []
  lastNDays : List FinalColumn := []
  firstValue : List FinalColumn := []
  lastValue : List FinalColumn := []
  uniqueList : List FinalColumn := []

namespace Buckets

def get (b : Buckets) : Bucket → List FinalColumn
  | .lifetime => b.lifetime
  | .lastNDays => b.lastNDays
  | .firstValue => b.firstValue
  | .lastValue => b.lastValue
  | .uniqueList => b.uniqueList

def push (b : Buckets) (column : FinalColumn) : Bucket → Buckets
  | .lifetime => { b with lifetime := b.lifetime ++ [column] }
  | .lastNDays => { b with lastNDays := b.lastNDays ++ [column] }
  | .firstValue => { b with firstValue := b.firstValue ++ [column] }
  | .lastValue => { b with lastValue := b.lastValue ++ [column] }
  | .uniqueList => { b with uniqueList := b.uniqueList ++ [column] }

def map (f : List FinalColumn → List FinalColumn) (b : Buckets) : Buckets :=
  ⟨f b.lifetime, f b.lastNDays, f b.firstValue, f b.lastValue, f b.uniqueList⟩

def size (b : Buckets) : Nat := (Bucket.all.flatMap b.get).length

end Buckets

/-- The daily columns: those that fold all rows of a day, and the first and last values. -/
structure DailyModel where
  aggregates : List DailyColumn := []
  firstValues : List DailyColumn := []
  lastValues : List DailyColumn := []

/-- The parts of an event address `iglu:vendor/name/format/version`. -/
structure EventSchema where
  vendor : String
  name : String
  format : String
  version : String
  deriving DecidableEq

structure EventsModel where
  events : List EventSchema
  properties : List Column.Binding

structure Models where
  events : EventsModel
  daily : DailyModel
  buckets : Buckets

end AttributeStore
