import AttributeStore.Text.Blank

/-! The values of TOML, and the tables that a text builds up line by line. -/
namespace AttributeStore.Toml

/-- How a table came about, which decides what may still be added to it. -/
inductive Origin
  /-- By a header of its own. -/
  | header
  /-- By the header of a table below it. -/
  | above
  /-- By a dotted key. -/
  | dotted
  /-- In braces. -/
  | inline
  deriving DecidableEq

/-- Numbers with a point or a power, and moments, are kept as they are written. A list of tables that headers in
double brackets build up has its last table apart, where lines are still added. -/
inductive Value
  | str (s : String)
  | int (n : Int)
  | float (written : String)
  | bool (b : Bool)
  | moment (written : String)
  | arr (items : List Value)
  | table (origin : Origin) (entries : List (String × Value))
  | tables (before : List (List (String × Value))) (last : List (String × Value))

inductive Fault
  | malformed
  | duplicateKey (key : String)
  | missingField (name : String)
  | wrongType (name : String)

def Fault.message : Fault → String
  | malformed => "malformed TOML"
  | duplicateKey key => s!"key {key} is set twice"
  | missingField name => s!"missing field \x60{name}\x60"
  | wrongType name => s!"field \x60{name}\x60 has a value of another type"

/-- The entries of a table, and how it came about. -/
abbrev Table := Origin × List (String × Value)

/-- Sets an entry at its place, or behind all others. -/
def set (key : String) (v : Value) : List (String × Value) → List (String × Value)
  | [] => [(key, v)]
  | (k, w) :: rest => if k = key then (k, v) :: rest else (k, w) :: set key v rest

/-- Changes a table below another. Tables on the way that are missing come about as `made`, and a dotted key cannot
go through a table that a header has made. -/
def change (made : Origin) (f : Table → Except Fault Table) : List String → Table → Except Fault Table
  | [], t => f t
  | key :: path, (origin, entries) => do
    match entries.lookup key with
    | none =>
      let (o, below) ← change made f path (made, [])
      return (origin, set key (.table o below) entries)
    | some (.table .inline _) => .error (.wrongType key)
    | some (.table o below) =>
      if made = .dotted && o = .header then .error (.duplicateKey key)
      let (o, below) ← change made f path (o, below)
      return (origin, set key (.table o below) entries)
    | some (.tables before last) =>
      let (_, last) ← change made f path (.header, last)
      return (origin, set key (.tables before last) entries)
    | some _ => .error (.wrongType key)

/-- Adds an entry under a dotted key. A table takes dotted entries only if it came about by a dotted key. -/
def addEntry (path : List String) (key : String) (v : Value) : Table → Except Fault Table :=
  change .dotted (fun (origin, entries) =>
    if (origin == .dotted) == path.isEmpty then .error (.duplicateKey key)
    else if (entries.lookup key).isSome then .error (.duplicateKey key)
    else .ok (origin, set key v entries)) path

/-- Starts the table of a header. -/
def addTable (path : List String) (key : String) : Table → Except Fault Table :=
  change .above (fun (origin, entries) =>
    match entries.lookup key with
    | none => .ok (origin, set key (.table .header []) entries)
    | some (.table .above below) => .ok (origin, set key (.table .header below) entries)
    | some _ => .error (.duplicateKey key)) path

/-- Starts a table of the list of a header in double brackets. -/
def addToTables (path : List String) (key : String) : Table → Except Fault Table :=
  change .above (fun (origin, entries) =>
    match entries.lookup key with
    | none => .ok (origin, set key (.tables [] []) entries)
    | some (.tables before last) => .ok (origin, set key (.tables (before ++ [last]) []) entries)
    | some _ => .error (.duplicateKey key)) path

end AttributeStore.Toml
