import AttributeStore.Text.Blank

/-! A disk: files with a text, and directories. Its root is a directory that is always there. -/
namespace AttributeStore

/-- A name in a directory; it need not be text. -/
inductive Disk.Name
  | text (s : String)
  | raw (bytes : List UInt8)
  deriving DecidableEq

/-- The names from the root down. -/
abbrev Disk.Place := List Disk.Name

inductive Disk.Entry
  | file (text : String)
  | directory
  deriving DecidableEq

/-- Why an operation on files fails. -/
inductive Disk.Fault
  | missing
  | notDirectory
  | isDirectory
  | alreadyThere
  | nameTooLong
  | nulCharacter
  | other (message : String)
  deriving DecidableEq

def Disk.Fault.message : Disk.Fault → String
  | missing => "No such file or directory (os error 2)"
  | notDirectory => "Not a directory (os error 20)"
  | isDirectory => "Is a directory (os error 21)"
  | alreadyThere => "File exists (os error 17)"
  | nameTooLong => "File name too long (os error 36)"
  | nulCharacter => "file name contained an unexpected NUL byte"
  | other message => message

/-- What stands at which place, and the place where relative paths start. -/
structure Disk where
  entries : List (Disk.Place × Disk.Entry) := []
  home : Disk.Place := []

namespace Disk

def entry? (d : Disk) (p : Place) : Option Entry := if p = [] then some .directory else d.entries.lookup p

def put (p : Place) (e : Entry) (d : Disk) : Disk :=
  { d with entries := (p, e) :: d.entries.filter (·.1 ≠ p) }

def erase (p : Place) (d : Disk) : Disk := { d with entries := d.entries.filter (·.1 ≠ p) }

/-- The most bytes that a name has. -/
def maxName : Nat := 255

/-- One piece of a path, from a directory on: a dot stays, two go up. -/
def descend (d : Disk) (p : Place) (piece : String) : Except Fault Place :=
  match d.entry? p with
  | none => .error .missing
  | some (.file _) => .error .notDirectory
  | some .directory =>
    if piece = "" || piece = "." then .ok p
    else if piece = ".." then .ok p.dropLast
    else if piece.utf8ByteSize > maxName then .error .nameTooLong
    else .ok (p ++ [.text piece])

def pieces (path : String) : List String := (Text.splitAt '/' path.toList).map String.ofList

/-- Where a path starts: at the root if it starts with a slash. -/
def origin (d : Disk) (path : String) : Place := if path.startsWith "/" then [] else d.home

/-- The place that a path names, whether or not something stands there. All before it are directories. -/
def locate (d : Disk) (path : String) : Except Fault Place :=
  if path.contains '\x00' then .error .nulCharacter
  else if path.isEmpty then .error .missing
  else (pieces path).foldlM d.descend (d.origin path)

/-- What a path leads to. -/
def find (d : Disk) (path : String) : Except Fault (Place × Entry) := do
  let p ← d.locate path
  match d.entry? p with
  | some e => return (p, e)
  | none => .error .missing

def read (path : String) (d : Disk) : Except Fault String := do
  match ← d.find path with
  | (_, .file text) => return text
  | (_, .directory) => .error .isDirectory

/-- Writes a file, over an earlier one. Its directory must be there. -/
def write (path text : String) (d : Disk) : Except Fault Disk := do
  let p ← d.locate path
  match d.entry? p with
  | some .directory => .error .isDirectory
  | _ => return d.put p (.file text)

def remove (path : String) (d : Disk) : Except Fault Disk := do
  match ← d.find path with
  | (p, .file _) => return d.erase p
  | (_, .directory) => .error .isDirectory

/-- Makes one directory if nothing stands at its place. `isLast` tells a file in the way of the path from one at its
end. -/
def makeDirectory (p : Place) (isLast : Bool) (d : Disk) : Except Fault Disk :=
  match d.entry? p with
  | some .directory => .ok d
  | some (.file _) => .error (if isLast then .alreadyThere else .notDirectory)
  | none => .ok (d.put p .directory)

/-- Makes the missing directories of a path, from a directory down; those made before a failure stay. -/
def makeDirectoriesFrom (p : Place) : List Name → Disk → Disk × Except Fault Unit
  | [], d => (d, .ok ())
  | .text piece :: rest, d =>
    match d.descend p piece with
    | .error e => (d, .error e)
    | .ok next =>
      match d.makeDirectory next rest.isEmpty with
      | .error e => (d, .error e)
      | .ok d => makeDirectoriesFrom next rest d
  | name :: rest, d =>
    match d.makeDirectory (p ++ [name]) rest.isEmpty with
    | .error e => (d, .error e)
    | .ok d => makeDirectoriesFrom (p ++ [name]) rest d

/-- Makes a directory and those above it, as far as they are missing. -/
def makeDirectories (path : String) (d : Disk) : Disk × Except Fault Unit :=
  if path.contains '\x00' then (d, .error .nulCharacter)
  else makeDirectoriesFrom (d.origin path) ((pieces path).map .text) d

/-- The name of an entry right below a place. -/
def child? (p place : Place) : Option Name :=
  match place.getLast? with
  | some name => if place.dropLast = p then some name else none
  | none => none

/-- The directories in a directory. -/
def subdirectories (path : String) (d : Disk) : Except Fault (List Name) := do
  match ← d.find path with
  | (p, .directory) =>
    return d.entries.filterMap fun (place, e) => if e = .directory then child? p place else none
  | (_, .file _) => .error .notDirectory

/-- All files below a place, by their paths from there. -/
def filesBelow (p : Place) (d : Disk) : List (String × String) :=
  d.entries.filterMap fun (place, e) =>
    match e with
    | .file text =>
      if p.isPrefixOf place then
        some ("/".intercalate ((place.drop p.length).map fun
          | .text s => s
          | .raw _ => "\uFFFD"), text)
      else none
    | .directory => none

end Disk

end AttributeStore
