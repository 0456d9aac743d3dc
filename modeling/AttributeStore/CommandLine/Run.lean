import AttributeStore.CommandLine.Arguments
import AttributeStore.Project.Store
import AttributeStore.Registry

/-! What the commands do, and what they print. -/
namespace AttributeStore.CommandLine

/-- What a command finds around it: the variables, and the directory of configurations. -/
structure Surroundings where
  lookUp : String → Option String
  configurations : String

inductive Warning
  | noProjects (repository : String)

def Warning.message : Warning → String
  | .noProjects repository => s!"no initialized projects found repo={repository}"

/-- What a command prints, and how it fails if it does. -/
structure Report where
  printed : List String := []
  warnings : List Warning := []
  failure : Option Failure := none

def Report.exitCode (r : Report) : UInt32 := if r.failure.isSome then 1 else 0

/-- The entries of a bucket, as they are printed. -/
def bucketText (m : Models) (b : Bucket) : String :=
  ((Json.Codec.list FinalColumn.codec).encode (m.buckets.get b)).pretty

section

variable {m : Type → Type} [Monad m] [Files m]

/-- The settings of an invocation: its file, over it the variables, over these the options. -/
def settings (around : Surroundings) (i : Invocation) : ExceptT Failure m Settings := do
  let s ← Settings.load (Settings.path around.configurations)
  let s := s.withVariables around.lookUp
  return { s with
    apiUrl := i.apiUrl.getD s.apiUrl
    apiKey := i.apiKey.getD s.apiKey
    apiKeyId := i.apiKeyId.getD s.apiKeyId
    orgId := i.orgId.getD s.orgId }

/-- An operation on the registry, which this program has no way to reach. -/
def askRegistry (_ : Settings) (_ : Registry.Operation) : ExceptT Failure m α :=
  Failure.given (.error ⟨[], .request⟩)

def generateAll (r : Renderer) : List Project → ExceptT Failure m Unit
  | [] => pure ()
  | p :: rest => do
    let _ ← p.generate r
    generateAll r rest

/-- The lines that a command prints if it succeeds, and its warnings. -/
def execute (around : Surroundings) (r : Renderer) (i : Invocation) :
    ExceptT Failure m (List String × List Warning) := do
  match i.command with
  | .init view version =>
    let s ← settings around i
    askRegistry s (match view with
      | some name => .getView ⟨name, version.getD 1⟩
      | none => .listViews)
  | .generate project =>
    let projects ← match project with
      | some name => pure [Project.inRepository i.repository name]
      | none => Project.discover i.repository
    generateAll r projects
    return ([], if projects.isEmpty then [.noProjects i.repository] else [])
  | .compile file =>
    let text ← Failure.onFiles [.reading file] (Files.read file)
    let v ← Failure.given (attempt (.parsingView file) .json (View.codec.ofText text))
    let p ← Project.init r i.repository v
    let paths ← p.generate r
    return (paths, [])
  | .inspect project bucket =>
    let b ← Failure.given ((Bucket.parse bucket).mapError fun e => ⟨[], .compile e⟩)
    let models ← (Project.inRepository i.repository project).loadModels
    return ([bucketText models b], [])
  | .testConnection =>
    let s ← settings around i
    askRegistry s .testConnection

def run (around : Surroundings) (i : Invocation) : m Report := do
  match ← (execute around {} i).run with
  | .ok (printed, warnings) => return { printed := printed, warnings := warnings }
  | .error e => return { failure := some e }

end

end AttributeStore.CommandLine
