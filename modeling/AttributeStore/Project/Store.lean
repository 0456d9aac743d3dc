import AttributeStore.Disk.Files
import AttributeStore.Failure
import AttributeStore.Models.Build
import AttributeStore.Models.Shape
import AttributeStore.Plan.Shape

/-! Projects in a repository: one directory a view, with the compiled view, its models, and the files made of them. -/
namespace AttributeStore

/-- The name of a view's project, which is safe as the name of a directory. -/
def View.projectName (v : View) : String := Column.sanitize s!"{v.name}_{v.version}"

/-- A project: its name and the path of its directory. -/
structure Project where
  name : String
  root : String
  deriving DecidableEq

namespace Project

def inRepository (repository name : String) : Project := ⟨name, Path.join repository name⟩

def ofView (repository : String) (v : View) : Project := inRepository repository v.projectName

def blueprintPath (p : Project) : String := Path.join (Path.join p.root "configs") "base_config.json"

def modelsPath (p : Project) : String := Path.join (Path.join p.root "configs") "dbt_config.json"

def templatePath (p : Project) (t : Template) : String := Path.join p.root ("/".intercalate (t.path p.name))

/-- The files of templates, as they are rendered from a draft. -/
def rendered (r : Renderer) (p : Project) (d : Draft) (templates : List Template) :
    Except Failure (List (String × String)) :=
  templates.mapM fun t => do
    let text ← attempt (.rendering t p.name) .template (r.render d t)
    return (p.templatePath t, text)

/-- The files that a view's project starts with. -/
def initialFiles (r : Renderer) (p : Project) (v : View) : Except Failure (List (String × String)) := do
  let b ← attempt (.compiling v.reference) .compile (Blueprint.ofView v)
  let texts ← rendered r p ⟨p.name, b, none⟩ Template.scaffold
  return (p.blueprintPath, (Blueprint.codec.encode b).pretty) :: texts

/-- The files that are generated from a compiled view. -/
def generatedFiles (r : Renderer) (p : Project) (b : Blueprint) : Except Failure (List (String × String)) := do
  let m ← attempt (.building p.name) .compile (Models.ofBlueprint b)
  let texts ← rendered r p ⟨p.name, b, some m⟩ Template.models
  return (p.modelsPath, (Models.codec.encode m).pretty) :: texts

section

variable {m : Type → Type} [Monad m] [Files m]

/-- Writes a file and makes its directory if need be. -/
def store (path text : String) : ExceptT Failure m Unit := do
  Failure.onFiles [] (Files.makeDirectories (Path.parent path))
  Failure.onFiles [.writing path] (Files.write path text)

/-- Writes files in their order, up to the first that cannot be written. -/
def storeAll : List (String × String) → ExceptT Failure m Unit
  | [] => pure ()
  | (path, text) :: rest => do
    store path text
    storeAll rest

/-- Reads a file of JSON. -/
def load (c : Json.Codec α) (path : String) : ExceptT Failure m α := do
  let text ← Failure.onFiles [.reading path] (Files.read path)
  Failure.given (attempt (.parsing path) .json (c.ofText text))

def loadBlueprint (p : Project) : ExceptT Failure m Blueprint := load Blueprint.codec p.blueprintPath

def loadModels (p : Project) : ExceptT Failure m Models := load Models.codec p.modelsPath

def isInitialized (p : Project) : m Bool := Files.isThere p.blueprintPath

/-- Compiles a view and writes what its project starts with. -/
def init (r : Renderer) (repository : String) (v : View) : ExceptT Failure m Project := do
  let p := ofView repository v
  let files ← Failure.given (initialFiles r p v)
  storeAll files
  return p

/-- Writes the models of a project that has been initialized, and tells where. -/
def generate (r : Renderer) (p : Project) : ExceptT Failure m (List String) := do
  let b ← Failure.within (.opening p.name) (loadBlueprint p)
  let files ← Failure.given (generatedFiles r p b)
  storeAll files
  return Template.models.map p.templatePath

/-- The initialized ones among directories; a name that is no text is passed over. -/
def initialized (repository : String) : List Disk.Name → m (List Project)
  | [] => pure []
  | .text name :: rest => do
    let p := inRepository repository name
    let isThere ← p.isInitialized
    let more ← initialized repository rest
    return if isThere then p :: more else more
  | .raw _ :: rest => initialized repository rest

/-- Every initialized project of a repository, by name. -/
def discover (repository : String) : ExceptT Failure m (List Project) := do
  let names ← Failure.onFiles [.listing repository] (Files.subdirectories repository)
  let projects ← (initialized repository names : m (List Project))
  return projects.mergeSort fun a b => a.name ≤ b.name

end

end Project

end AttributeStore
