import AttributeStore.Json.Reading
import AttributeStore.Text.Printable

/-! How a JSON value fails to have the shape that is read from it. -/
namespace AttributeStore.Json

/-- What stands where something else should. -/
inductive Found
  | null
  | bool (b : Bool)
  | int (n : Int)
  | float (x : Float)
  | str (s : String)
  | list
  | object

inductive Fault
  | stopped (why : Stop)
  | missingField (name : String)
  | duplicateField (name : String)
  | unknownVariant (name : String) (expected : List String)
  | wrongType (found : Found) (expected : String)
  | wrongValue (found : Found) (expected : String)
  | wrongLength (length : Nat) (expected : String)
  /-- No case of a type whose cases are told apart by shape alone. -/
  | noVariant (type : String)
  /-- The shape is right and its content is refused. -/
  | refused (reason : String)

def Found.text : Found → String
  | .null => "null"
  | .bool b => "boolean \x60" ++ (if b then "true" else "false") ++ "\x60"
  | .int n => s!"integer \x60{n}\x60"
  | .float x => "floating point \x60" ++ Decimal.json x ++ "\x60"
  | .str s => "string " ++ Text.display s
  | .list => "sequence"
  | .object => "map"

/-- Names between backticks: one, two with `or`, more as `one of` a list. -/
def oneOf (names : List String) : String :=
  let quoted := names.map fun name => "\x60" ++ name ++ "\x60"
  match quoted with
  | [] => ""
  | [a] => a
  | [a, b] => a ++ " or " ++ b
  | many => "one of " ++ ", ".intercalate many

def Fault.message : Fault → String
  | .stopped .malformed => "<syntax>"
  | .stopped .ended => "<eof>"
  | .missingField name => s!"missing field \x60{name}\x60"
  | .duplicateField name => s!"duplicate field \x60{name}\x60"
  | .unknownVariant name [] => s!"unknown variant \x60{name}\x60, there are no variants"
  | .unknownVariant name expected => s!"unknown variant \x60{name}\x60, expected {oneOf expected}"
  | .wrongType found expected => s!"invalid type: {found.text}, expected {expected}"
  | .wrongValue found expected => s!"invalid value: {found.text}, expected {expected}"
  | .wrongLength length expected => s!"invalid length {length}, expected {expected}"
  | .noVariant type => s!"data did not match any variant of untagged enum {type}"
  | .refused reason => reason

end AttributeStore.Json
