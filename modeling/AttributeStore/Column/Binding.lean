import AttributeStore.Column.Name
import AttributeStore.Json.Codec

/-! Property paths bound to columns. Bindings are kept in the order of their first use, and two paths whose cleaned
names meet are told apart by a number. -/
namespace AttributeStore.Column

structure Binding where
  path : String
  name : String
  deriving DecidableEq

/-- Adds a binding unless one of its sides is empty or it is there already. -/
def add (path name : String) (bindings : List Binding) : List Binding × Bool :=
  if path.isEmpty || name.isEmpty then (bindings, false)
  else if ⟨path, name⟩ ∈ bindings then (bindings, false)
  else (bindings ++ [⟨path, name⟩], true)

/-- The name itself, else the name with the least number from 2 on that is not taken. -/
def fresh (taken : List String) (name : String) : String :=
  if name ∈ taken then
    let numbered := (List.range' 2 (taken.length + 1)).map fun k => s!"{name}_{k}"
    (numbered.find? (· ∉ taken)).getD name
  else name

def resolveAfter (taken : List String) : List Binding → List Binding
  | [] => []
  | b :: rest =>
    let name := fresh taken b.name
    ⟨b.path, name⟩ :: resolveAfter (name :: taken) rest

/-- Gives every binding a name of its own; earlier ones keep theirs, whatever follows. -/
def resolve (bindings : List Binding) : List Binding := resolveAfter [] bindings

/-- The column of a path after resolution. -/
def column? (path : String) (bindings : List Binding) : Option String :=
  ((resolve bindings).find? (·.path == path)).map (·.name)

open Json in
def decodeEntries (source : Source) : List (String × Reading) → Except Fault (List (String × String))
  | [] => .ok []
  | (path, r) :: rest => do
    let name ← Codec.string.decode source r
    let more ← decodeEntries source rest
    return (path, name) :: more

open Json in
/-- A binding is an object with the path as its only field. -/
def Binding.codec : Codec Binding where
  encode b := .obj [(b.path, .str b.name)]
  decode source
    | .obj fields => do
      let entries ← decodeEntries source fields
      match sortFields entries with
      | [(path, name)] => return ⟨path, name⟩
      | other => .error (.refused s!"property mapping must have exactly one entry, found {other.length}")
    | r => mismatch "a map" r

end AttributeStore.Column
