import AttributeStore.Project.Store

/-! What the operations on projects do to a disk, step by step: a file is stored or loaded, and a project is made and
its models are generated from what has been compiled and read. -/
namespace AttributeStore.Project

/-- Work on the files of a disk. -/
abbrev OnDisk := ExceptT Failure (StateM Disk)

namespace OnDisk

theorem run_bind (x : OnDisk α) (f : α → OnDisk β) (d : Disk) :
    (x >>= f).run.run d = match x.run.run d with
      | (.ok a, d') => (f a).run.run d'
      | (.error e, d') => (.error e, d') := by
  rw [ExceptT.run_bind, StateT.run_bind]
  rcases x.run.run d with ⟨⟨⟩ | ⟨⟩, d'⟩ <;> rfl

@[simp] theorem run_pure (a : α) (d : Disk) : (pure a : OnDisk α).run.run d = (.ok a, d) := rfl

@[simp] theorem run_given (r : Except Failure α) (d : Disk) : (Failure.given r : OnDisk α).run.run d = (r, d) := rfl

@[simp] theorem run_onFiles (attempts : List Attempt) (r : StateM Disk (Except Disk.Fault α)) (d : Disk) :
    (Failure.onFiles attempts r : OnDisk α).run.run d =
      ((r.run d).1.mapError fun e => ⟨attempts, .file e⟩, (r.run d).2) := rfl

@[simp] theorem run_within (a : Attempt) (r : OnDisk α) (d : Disk) :
    (Failure.within a r).run.run d = ((r.run.run d).1.mapError (·.tried a), (r.run.run d).2) := rfl

end OnDisk

/-- A file is stored by making its directory, and then by writing it. -/
theorem run_store (path text : String) (d : Disk) : (store path text : OnDisk Unit).run.run d =
    match d.makeDirectories (Path.parent path) with
    | (opened, .error e) => (.error ⟨[], .file e⟩, opened)
    | (opened, .ok ()) =>
      match opened.write path text with
      | .error e => (.error ⟨[.writing path], .file e⟩, opened)
      | .ok d' => (.ok (), d') := by
  have directories : (Files.makeDirectories (Path.parent path) : StateM Disk _).run d =
      ((d.makeDirectories (Path.parent path)).2, (d.makeDirectories (Path.parent path)).1) := rfl
  rw [store, OnDisk.run_bind, OnDisk.run_onFiles, directories]
  rcases d.makeDirectories (Path.parent path) with ⟨opened, e | u⟩
  · rfl
  · show (Failure.onFiles [.writing path] (Files.write path text) : OnDisk Unit).run.run opened = _
    rw [OnDisk.run_onFiles]
    dsimp only [Files.write, StateT.run]
    cases opened.write path text <;> rfl

theorem store_run {d opened d' : Disk} {path text : String}
    (made : d.makeDirectories (Path.parent path) = (opened, .ok ())) (written : opened.write path text = .ok d') :
    (store path text : OnDisk Unit).run.run d = (.ok (), d') := by
  rw [run_store, made]
  dsimp only
  rw [written]

/-- Nothing is written where something is loaded. -/
theorem run_load (c : Json.Codec α) (path : String) (d : Disk) : (load c path : OnDisk α).run.run d =
    (match d.read path with
      | .error fault => .error ⟨[.reading path], .file fault⟩
      | .ok text => attempt (.parsing path) .json (c.ofText text), d) := by
  have file : (Files.read path : StateM Disk _).run d = (d.read path, d) := rfl
  rw [load, OnDisk.run_bind, OnDisk.run_onFiles, file]
  cases d.read path <;> rfl

theorem load_run {d : Disk} {path text : String} (there : d.read path = .ok text) (c : Json.Codec α) :
    (load c path : OnDisk α).run.run d = (attempt (.parsing path) .json (c.ofText text), d) := by
  rw [run_load, there]

/-! The files that are written. -/

section

variable (r : Renderer) (project : String) (p : Project) (b : Blueprint) (m : Models)

/-- A model's text is there as soon as there are models, and the other texts do not depend on them. -/
def textOf : Template → String
  | .project => Renderer.projectText ⟨project, b, none⟩
  | .sources => r.sourcesText
  | .filteredEvents => r.eventsText ⟨project, b, some m⟩ m
  | .dailyAggregates => r.dailyText ⟨project, b, some m⟩ m
  | .attributes => Renderer.attributesText ⟨project, b, some m⟩ m

theorem render_eq (t : Template) : r.render ⟨project, b, some m⟩ t = .ok (textOf r project b m t) := by
  cases t <;> rfl

/-- The files that a project is given when it is made. -/
def initFiles : List (String × String) :=
  [(p.blueprintPath, (Blueprint.codec.encode b).pretty),
    (p.templatePath .project, Renderer.projectText ⟨p.name, b, none⟩), (p.templatePath .sources, r.sourcesText)]

/-- The files that are generated in a project. -/
def generateFiles : List (String × String) :=
  (p.modelsPath, (Models.codec.encode m).pretty) ::
    Template.models.map fun t => (p.templatePath t, textOf r p.name b m t)

end

/-- Files are stored, and then there is a result. -/
def storing (files : List (String × String)) (result : α) : OnDisk α := do
  storeAll files
  return result

theorem run_storing (files : List (String × String)) (result : α) (d : Disk) :
    (storing files result).run.run d =
      (((storeAll files : OnDisk Unit).run.run d).1.map fun _ => result,
        ((storeAll files : OnDisk Unit).run.run d).2) := by
  rw [storing, OnDisk.run_bind]
  rcases (storeAll files : OnDisk Unit).run.run d with ⟨_ | _, stored⟩ <;> rfl

/-! Making a project and generating its models. -/

variable {r : Renderer} {p : Project} {b : Blueprint} {m : Models}

theorem initialFiles_of_compiled {v : View} (compiled : Blueprint.ofView v = .ok b) :
    initialFiles r p v = .ok (initFiles r p b) := by
  rw [initialFiles, compiled]
  rfl

theorem generatedFiles_of_built (built : Models.ofBlueprint b = .ok m) :
    generatedFiles r p b = .ok (generateFiles r p b m) := by
  rw [generatedFiles, built]
  rfl

/-- A project is made of what its view is compiled to, or not at all. -/
theorem run_init (r : Renderer) (repository : String) (v : View) (d : Disk) :
    (init r repository v : OnDisk Project).run.run d =
      match Blueprint.ofView v with
      | .error e => (.error ⟨[.compiling v.reference], .compile e⟩, d)
      | .ok b => (storing (initFiles r (ofView repository v) b) (ofView repository v)).run.run d := by
  rw [init, OnDisk.run_bind, OnDisk.run_given]
  cases compiled : Blueprint.ofView v with
  | error =>
    rw [initialFiles, compiled]
    rfl
  | ok =>
    rw [initialFiles_of_compiled compiled]
    rfl

theorem init_of_compiled {repository : String} {v : View} (compiled : Blueprint.ofView v = .ok b) (d : Disk) :
    (init r repository v : OnDisk Project).run.run d =
      (storing (initFiles r (ofView repository v) b) (ofView repository v)).run.run d := by
  rw [run_init, compiled]

/-- Models are generated from what the blueprint's file is read to, or not at all. -/
theorem run_generate (r : Renderer) (p : Project) (d : Disk) : (p.generate r : OnDisk (List String)).run.run d =
    match d.read p.blueprintPath with
    | .error fault => (.error ⟨[.opening p.name, .reading p.blueprintPath], .file fault⟩, d)
    | .ok text =>
      match Blueprint.codec.ofText text with
      | .error fault => (.error ⟨[.opening p.name, .parsing p.blueprintPath], .json fault⟩, d)
      | .ok b =>
        match Models.ofBlueprint b with
        | .error e => (.error ⟨[.building p.name], .compile e⟩, d)
        | .ok m => (storing (generateFiles r p b m) (Template.models.map p.templatePath)).run.run d := by
  rw [generate, OnDisk.run_bind, OnDisk.run_within, loadBlueprint, run_load]
  cases d.read p.blueprintPath with
  | error => rfl
  | ok text =>
    dsimp only
    cases Blueprint.codec.ofText text with
    | error => rfl
    | ok b =>
      show ((Failure.given (generatedFiles r p b) >>= fun files =>
        storing files (Template.models.map p.templatePath) : OnDisk (List String))).run.run d = _
      rw [OnDisk.run_bind, OnDisk.run_given]
      dsimp only
      cases built : Models.ofBlueprint b with
      | error =>
        rw [generatedFiles, built]
        rfl
      | ok => rw [generatedFiles_of_built built]

section

variable {d : Disk} {text : String} (read : d.read p.blueprintPath = .ok text)

include read

theorem generate_of_unparsed {fault : Json.Fault} (refused : Blueprint.codec.ofText text = .error fault) :
    (p.generate r : OnDisk (List String)).run.run d =
      (.error ⟨[.opening p.name, .parsing p.blueprintPath], .json fault⟩, d) := by
  rw [run_generate, read]
  dsimp only
  rw [refused]

theorem generate_of_unbuilt (parsed : Blueprint.codec.ofText text = .ok b) {e : CompileError}
    (refused : Models.ofBlueprint b = .error e) :
    (p.generate r : OnDisk (List String)).run.run d = (.error ⟨[.building p.name], .compile e⟩, d) := by
  rw [run_generate, read]
  dsimp only
  rw [parsed]
  dsimp only
  rw [refused]

theorem generate_of_built (parsed : Blueprint.codec.ofText text = .ok b) (built : Models.ofBlueprint b = .ok m) :
    (p.generate r : OnDisk (List String)).run.run d =
      (storing (generateFiles r p b m) (Template.models.map p.templatePath)).run.run d := by
  rw [run_generate, read]
  dsimp only
  rw [parsed]
  dsimp only
  rw [built]

end

end AttributeStore.Project
