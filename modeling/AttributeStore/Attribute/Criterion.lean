import AttributeStore.Decimal.Notation

/-! Filters: a property compared with a value, and two groups of such conditions. -/
namespace AttributeStore

inductive Operator
  | eq
  | notEq
  | lt
  | gt
  | ltEq
  | gtEq
  | like
  | isIn
  deriving DecidableEq

namespace Operator

def symbol : Operator → String
  | eq => "="
  | notEq => "!="
  | lt => "<"
  | gt => ">"
  | ltEq => "<="
  | gtEq => ">="
  | like => "like"
  | isIn => "in"

/-- The name of the operator inside a column name. -/
def abbreviation : Operator → String
  | eq => "eq"
  | notEq => "neq"
  | lt => "lt"
  | gt => "gt"
  | ltEq => "lte"
  | gtEq => "gte"
  | like => "like"
  | isIn => "in"

def isOrdering : Operator → Bool
  | lt | gt | ltEq | gtEq => true
  | _ => false

def all : List Operator := [eq, notEq, lt, gt, ltEq, gtEq, like, isIn]

end Operator

/-- The right side of a condition. -/
inductive Operand
  | bool (b : Bool)
  | int (n : Int64)
  | float (x : Float)
  | str (s : String)
  | list (items : List Operand)
  deriving Inhabited

namespace Operand

mutual

/-- The bare text of an operand; a list is its items with commas between. -/
def text : Operand → String
  | .bool b => if b then "true" else "false"
  | .int n => toString n.toInt
  | .float x => Decimal.plain x
  | .str s => s
  | .list items => ",".intercalate (texts items)

def texts : List Operand → List String
  | [] => []
  | item :: rest => item.text :: texts rest

end

def isText : Operand → Bool
  | .str _ => true
  | _ => false

end Operand

/-- A comparison of one property with one value. Declared, it names a path into an event; bound, a column. -/
structure Criterion where
  property : String
  operator : Operator
  value : Operand

/-- Two groups of conditions. Only one of them may hold more than one. -/
structure Criteria where
  all : List Criterion := []
  any : List Criterion := []

namespace Criteria

def isEmpty (c : Criteria) : Bool := c.all.isEmpty && c.any.isEmpty

def isValid (c : Criteria) : Bool := !(c.all.length > 1 && c.any.length > 1)

/-- The `any` group filters only when the `all` group is empty. -/
def usesAny (c : Criteria) : Bool := c.all.isEmpty && !c.any.isEmpty

/-- The conditions that filter; the other group is ignored. -/
def active (c : Criteria) : List Criterion := if c.usesAny then c.any else c.all

end Criteria

end AttributeStore
