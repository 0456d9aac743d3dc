import AttributeStore.CompileError
import AttributeStore.Disk.Basic
import AttributeStore.Project.Template
import AttributeStore.Toml.Value
import AttributeStore.View

/-! Failures of whole operations: what was tried, from the outermost attempt in, and what went wrong in the end. -/
namespace AttributeStore

inductive Attempt
  | compiling (view : ViewReference)
  | opening (project : String)
  | building (project : String)
  | rendering (t : Template) (project : String)
  | reading (path : String)
  | writing (path : String)
  | parsing (path : String)
  | parsingView (path : String)
  | listing (path : String)

inductive Cause
  | compile (e : CompileError)
  | template (e : TemplateError)
  | json (f : Json.Fault)
  | toml (f : Toml.Fault)
  | file (f : Disk.Fault)
  /-- The registry cannot be reached. -/
  | request

structure Failure where
  attempts : List Attempt
  cause : Cause

def Attempt.message : Attempt → String
  | compiling view => s!"Failed to compile view {view.name}:{view.version}"
  | opening project => s!"Project {project} is not initialized, run init first"
  | building project => s!"Failed to build SQL context for {project}"
  | rendering t project => s!"Failed to render {t.name} for {project}"
  | reading path => s!"Could not read {path}"
  | writing path => s!"Could not write {path}"
  | parsing path => s!"Could not parse {path}"
  | parsingView path => s!"Could not parse view {path}"
  | listing path => s!"Could not read repository {path}"

def Cause.message : Cause → String
  | compile e => e.message
  | template e => e.message
  | json f => f.message
  | toml f => f.message
  | file f => f.message
  | request => "request failed"

namespace Failure

def tried (a : Attempt) (f : Failure) : Failure := { f with attempts := a :: f.attempts }

/-- The chain of messages, with another text for the cause if one is given. -/
def messageWith (cause : String) (f : Failure) : String := ": ".intercalate (f.attempts.map Attempt.message ++ [cause])

def message (f : Failure) : String := f.messageWith f.cause.message

end Failure

namespace Failure

section

variable {m : Type → Type} [Monad m]

/-- An outcome that is known. -/
def given (r : Except Failure α) : ExceptT Failure m α := ExceptT.mk (pure r)

/-- An operation on files, made for some attempts. -/
def onFiles (attempts : List Attempt) (r : m (Except Disk.Fault α)) : ExceptT Failure m α :=
  ExceptT.mk do return (← r).mapError fun e => ⟨attempts, .file e⟩

/-- Operations that are all made for an attempt. -/
def within (a : Attempt) (r : ExceptT Failure m α) : ExceptT Failure m α :=
  ExceptT.mk do return (← r.run).mapError (·.tried a)

end

end Failure

/-- The outcome of an attempt of its own. -/
def attempt (a : Attempt) (wrap : ε → Cause) (r : Except ε α) : Except Failure α :=
  r.mapError fun e => ⟨[a], wrap e⟩

end AttributeStore
