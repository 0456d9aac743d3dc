import AttributeStore.CommandLine.Run

/-! The program: its arguments, the file system and the variables as they are, and the lines it prints. -/
namespace AttributeStore

namespace Disk

/-- What an error of the system says about a path. -/
def Fault.ofSystem (e : IO.Error) : Fault :=
  match e with
  | .noFileOrDirectory .. => .missing
  | .alreadyExists .. => .alreadyThere
  | .inappropriateType _ code details =>
    if code = 20 then .notDirectory else if code = 21 then .isDirectory else .other details
  | .invalidArgument _ code details => if code = 36 then .nameTooLong else .other details
  | e => .other (toString e)

/-- An action of the system as an outcome. -/
def outcome (act : IO α) : IO (Except Fault α) := do
  try
    return .ok (← act)
  catch e => return .error (.ofSystem e)

end Disk

instance : Files IO where
  read path := Disk.outcome (IO.FS.readFile path)
  write path text := Disk.outcome (IO.FS.writeFile path text)
  makeDirectories path := do
    if path.isEmpty then return .ok ()
    Disk.outcome (IO.FS.createDirAll path)
  subdirectories path := Disk.outcome do
    let entries ← (← IO.FS.realPath path).readDir
    let found ← entries.toList.filterM fun e => do return (← e.path.metadata).type == .dir
    return found.map fun e => .text e.fileName
  isThere path := do
    match ← Disk.outcome (IO.FS.realPath path) with
    | .ok _ => return true
    | .error _ => return false

namespace CommandLine

def usage : String :=
  "usage: signals-autogen [options] <init | generate | compile | inspect | test-connection> [arguments]"

/-- The directory of configurations: the one of a variable, if it is a path from the root, or one in the home. -/
def configurations (lookUp : String → Option String) : String :=
  match (lookUp "XDG_CONFIG_HOME").filter (·.startsWith "/"), lookUp "HOME" with
  | some path, _ => path
  | none, some home => Path.join home ".config"
  | none, none => "."

def variableNames : List String :=
  ["SIGNALS_API_URL", "SIGNALS_API_KEY", "SIGNALS_API_KEY_ID", "SIGNALS_ORG_ID", "XDG_CONFIG_HOME", "HOME"]

/-- The variables of some names that are set. -/
def getSet : List String → IO (List (String × String))
  | [] => return []
  | name :: rest => do
    let more ← getSet rest
    match ← IO.getEnv name with
    | some value => return (name, value) :: more
    | none => return more

end CommandLine

end AttributeStore

open AttributeStore CommandLine in
def main (arguments : List String) : IO UInt32 := do
  match readArguments arguments with
  | .error .usage =>
    IO.eprintln usage
    return 2
  | .error .help =>
    IO.println usage
    return 0
  | .error .version =>
    IO.println "signals-sdk 0.1.0"
    return 0
  | .ok invocation =>
    let set ← getSet variableNames
    let lookUp (name : String) : Option String := set.lookup name
    let report ← (run ⟨lookUp, configurations lookUp⟩ invocation : IO Report)
    for line in report.printed do IO.println line
    for w in report.warnings do IO.println s!"WARN {w.message}"
    if let some e := report.failure then IO.println s!"ERROR {e.message}"
    return report.exitCode
