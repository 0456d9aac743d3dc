import AttributeStore.Column.Reserved
import AttributeStore.Text.Blank
import AttributeStore.Attribute.Basic

/-! Column names made from property paths, event names and filters. -/
namespace AttributeStore.Column

/-- The characters of a bare SQL name. -/
def isNameChar (c : Char) : Bool := Text.isLetter c || Text.isDigit c || c = '_'

/-- An underscore goes in front of an uppercase letter that follows a lowercase one, then all is lowered. -/
def snakeFrom (previous : Option Char) : List Char → List Char
  | [] => []
  | c :: rest =>
    let lowered := Text.lowerChar c ++ snakeFrom (some c) rest
    if Text.isUppercase c && previous.any Text.isLowercase then '_' :: lowered else lowered

def snakeCase (s : List Char) : List Char := snakeFrom none s

/-- The part of a path that names its value: what follows the first colon, else what follows the last point. A path
with neither keeps its case. -/
def pathEnd (path : List Char) : List Char :=
  match Text.splitFirst ':' path with
  | some (_, after) => snakeCase after
  | none =>
    match Text.afterLast '.' path with
    | some after => snakeCase after
    | none => path

/-- What cannot stand in a name becomes an underscore. -/
def safe (s : List Char) : List Char := s.map fun c => if isNameChar c then c else '_'

/-- The column name of a property path. A reserved word is lowered and marked with `_col`. -/
def ofPath (path : String) : String :=
  let name := String.ofList (safe (pathEnd path.toList))
  if isReserved name then String.ofList (Text.lowerAscii name.toList) ++ "_col" else name

/-- The only characters left of a text, in a name made of several. -/
def keepNameChars (s : List Char) : List Char := s.filter isNameChar

def valueChar (c : Char) : List Char :=
  if c = ' ' then ['_']
  else if c = '%' then ['p', 'c', 't']
  else if c = '-' || c = '.' || c = '/' then ['_']
  else [c]

mutual

/-- A filter value inside a name: lowered, blanks and the marks of numbers and paths underscored, a per cent sign
spelled out, all else dropped. -/
def ofValue : Operand → String
  | .list items => "_".intercalate (ofValues items)
  | value => String.ofList (keepNameChars ((Text.lower value.text.toList).flatMap valueChar))

def ofValues : List Operand → List String
  | [] => []
  | item :: rest => ofValue item :: ofValues rest

end

def sortNames (names : List String) : List String := names.mergeSort fun a b => decide (a ≤ b)

/-- One condition inside a name. -/
def ofCriterion (c : Criterion) : String :=
  s!"{ofPath c.property}_{c.operator.abbreviation}_{ofValue c.value}"

/-- The filtering group inside a name. Its conditions are sorted, so that their order does not show. -/
def ofCriteria (c : Criteria) : String :=
  (if c.usesAny then "_any_" else "_all_").intercalate (sortNames (c.active.map ofCriterion))

/-- Drops what cannot stand in a name; a hyphen becomes an underscore and a first digit gets `n_` before it. -/
def sanitize (s : String) : String :=
  let name := keepNameChars (s.toList.map fun c => if c = '-' then '_' else c)
  String.ofList (if name.head?.any Text.isDigit then 'n' :: '_' :: name else name)

def maxLength : Nat := 60

/-- Aggregation, property, event names in their order and filter, before any limit on the length. -/
def fullName (a : Attribute) (aggregation : String) (property : Option String) : String :=
  sanitize ("_".intercalate
    (aggregation :: property.toList ++ a.events.map (·.name) ++ a.activeCriteria.toList.map ofCriteria))

/-- The daily column of an attribute; one whose name would be too long is called by the attribute. -/
def daily (a : Attribute) (aggregation : String) (property : Option String) : String :=
  let name := fullName a aggregation property
  if name.utf8ByteSize > maxLength then a.name else name

end AttributeStore.Column

namespace AttributeStore.Event

/-- The address of the event's schema. -/
def reference (e : Event) : String := s!"iglu:{e.vendor}/{e.name}/jsonschema/{e.version}"

/-- The addresses of some events in ascending order, each once. -/
def sortedReferences (events : List Event) : List String :=
  (Column.sortNames (events.map reference)).eraseReps

end AttributeStore.Event
