import AttributeStore.Disk.Basic

/-! What the work on projects asks of a file system, and a disk as one. -/
namespace AttributeStore

/-- Files and directories by their paths. -/
class Files (m : Type → Type) where
  read : String → m (Except Disk.Fault String)
  write : String → String → m (Except Disk.Fault Unit)
  makeDirectories : String → m (Except Disk.Fault Unit)
  subdirectories : String → m (Except Disk.Fault (List Disk.Name))
  isThere : String → m Bool

instance : Files (StateM Disk) where
  read path := fun d => (d.read path, d)
  write path text := fun d =>
    match d.write path text with
    | .ok d => (.ok (), d)
    | .error e => (.error e, d)
  makeDirectories path := fun d =>
    let (d, r) := d.makeDirectories path
    (r, d)
  subdirectories path := fun d => (d.subdirectories path, d)
  isThere path := fun d => ((d.find path).isOk, d)

namespace Path

/-- The path of `b` below `a`; a `b` that starts at the root stays itself. -/
def join (a b : String) : String :=
  if b.startsWith "/" || a.isEmpty then b else if a.endsWith "/" then a ++ b else a ++ "/" ++ b

/-- The directory of a path: what stands before its last slash. -/
def parent (path : String) : String :=
  let chars := path.toList
  match Text.afterLast '/' chars with
  | some last => String.ofList (chars.take (chars.length - last.length - 1))
  | none => ""

end Path

end AttributeStore
