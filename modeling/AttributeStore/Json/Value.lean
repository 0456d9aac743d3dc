import AttributeStore.Decimal.Notation

/-! JSON values and their two written forms. Fields keep their order; a value built from a parsed text has them in
ascending order of their names, each name once. -/
namespace AttributeStore

inductive Json
  | null
  | bool (b : Bool)
  | int (n : Int)
  | float (x : Float)
  | str (s : String)
  | arr (items : List Json)
  | obj (fields : List (String × Json))
  deriving Inhabited

namespace Json

/-- Puts a field at its place among ascending names, over an earlier one of the same name. -/
def put (name : String) (value : α) : List (String × α) → List (String × α)
  | [] => [(name, value)]
  | (n, v) :: rest =>
    if name < n then (name, value) :: (n, v) :: rest
    else if name = n then (name, value) :: rest
    else (n, v) :: put name value rest

/-- Ascending names, the last value of each. -/
def sortFields (fields : List (String × α)) : List (String × α) :=
  fields.foldl (fun done (name, value) => put name value done) []

def field? (name : String) : Json → Option Json
  | .obj fields => fields.lookup name
  | _ => none

def hexDigit (n : Nat) : Char := if n < 10 then Char.ofNat (48 + n) else Char.ofNat (87 + n)

/-- A quote, a backslash and what stands below the space are escaped, the five common controls by a letter. -/
def escapeChar (c : Char) : List Char :=
  if c = '"' then ['\\', '"']
  else if c = '\\' then ['\\', '\\']
  else if c.toNat = 8 then ['\\', 'b']
  else if c.toNat = 9 then ['\\', 't']
  else if c.toNat = 10 then ['\\', 'n']
  else if c.toNat = 12 then ['\\', 'f']
  else if c.toNat = 13 then ['\\', 'r']
  else if c.toNat < 32 then ['\\', 'u', '0', '0', hexDigit (c.toNat / 16), hexDigit (c.toNat % 16)]
  else [c]

def quote (s : String) : String :=
  "\"" ++ String.ofList (s.toList.flatMap escapeChar) ++ "\""

/-- The text of a value that is neither list nor object. -/
def scalarText : Json → String
  | .bool b => if b then "true" else "false"
  | .int n => toString n
  | .float x => Decimal.json x
  | .str s => quote s
  | _ => "null"

mutual

/-- On one line, without any space. -/
def compact : Json → String
  | .arr items => "[" ++ compactItems items ++ "]"
  | .obj fields => "\x7b" ++ compactFields fields ++ "\x7d"
  | other => other.scalarText

def compactItems : List Json → String
  | [] => ""
  | [item] => item.compact
  | item :: rest => item.compact ++ "," ++ compactItems rest

def compactFields : List (String × Json) → String
  | [] => ""
  | [(name, value)] => quote name ++ ":" ++ value.compact
  | (name, value) :: rest => quote name ++ ":" ++ value.compact ++ "," ++ compactFields rest

end

def newline (depth : Nat) : String := "\n" ++ String.ofList (List.replicate (2 * depth) ' ')

mutual

/-- One item or field a line, two spaces a level; what is empty stays on its line. -/
def prettyAt (depth : Nat) : Json → String
  | .arr items => if items.isEmpty then "[]" else "[" ++ prettyItems depth items ++ newline depth ++ "]"
  | .obj fields =>
    if fields.isEmpty then "\x7b\x7d" else "\x7b" ++ prettyFields depth fields ++ newline depth ++ "\x7d"
  | other => other.scalarText

def prettyItems (depth : Nat) : List Json → String
  | [] => ""
  | [item] => newline (depth + 1) ++ item.prettyAt (depth + 1)
  | item :: rest => newline (depth + 1) ++ item.prettyAt (depth + 1) ++ "," ++ prettyItems depth rest

def prettyFields (depth : Nat) : List (String × Json) → String
  | [] => ""
  | [(name, value)] => newline (depth + 1) ++ quote name ++ ": " ++ value.prettyAt (depth + 1)
  | (name, value) :: rest =>
    newline (depth + 1) ++ quote name ++ ": " ++ value.prettyAt (depth + 1) ++ "," ++ prettyFields depth rest

end

def pretty (value : Json) : String := value.prettyAt 0

end Json

end AttributeStore
