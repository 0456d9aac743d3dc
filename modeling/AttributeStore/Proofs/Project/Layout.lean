import AttributeStore.Project.Store
import AttributeStore.Proofs.Column.Name
import AttributeStore.Proofs.Disk.Tree

/-! Where the files of a project stand. Its directory is a single name below the repository, and no file of it stands
in the way of another. -/
namespace AttributeStore

open Disk (IsName)

theorem View.underscore_mem_projectName (v : View) : '_' ∈ v.projectName.toList := by
  refine Column.mem_sanitize ?_ (by decide) (by decide)
  simp only [String.toList_append, List.mem_append]
  exact .inl (.inr (List.mem_singleton_self '_'))

theorem View.projectName_isComponent (v : View) : Disk.IsComponent v.projectName := by
  have underscore := v.underscore_mem_projectName
  refine ⟨⟨?_, ?_, ?_⟩, fun member => ?_⟩
  case refine_4 => exact absurd (Column.sanitize_isNameChar s!"{v.name}_{v.version}" '/' member) (by decide)
  all_goals
    intro same
    rw [same] at underscore
    simp at underscore

/-- A project's name leads one level down, if it is not too long. -/
theorem View.projectName_isName {v : View} (short : v.projectName.utf8ByteSize ≤ Disk.maxName) :
    IsName v.projectName := by
  have component := v.projectName_isComponent
  have noNul : '\x00' ∉ v.projectName.toList := fun member =>
    absurd (Column.sanitize_isNameChar s!"{v.name}_{v.version}" '\x00' member) (by decide)
  exact ⟨component.plain.1, component.plain.2, component.uncut, noNul, short⟩

namespace Project

/-- The names that lead to a template's file from the repository. -/
def templateNames (project : String) (t : Template) : List String := project :: t.path project

def blueprintNames (project : String) : List String := [project, "configs", "base_config.json"]

def modelsNames (project : String) : List String := [project, "configs", "dbt_config.json"]

/-- The names of a file that a project may have. -/
inductive Owns (project : String) : List String → Prop
  | top {file : String} (named : IsName file) (other : file ≠ "configs" ∧ file ≠ "models") :
    Owns project [project, file]
  | inner {dir file : String} (known : dir = "configs" ∨ dir = "models") (named : IsName file) :
    Owns project [project, dir, file]

/-- No file of a project stands in the way of another. -/
theorem Owns.eq_of_ahead {project : String} {names others : List String} (first : Owns project names)
    (second : Owns project others) (ahead : names <+: others) : names = others := by
  cases first with
  | top named other =>
    cases second with
    | top =>
      simp only [List.cons_prefix_cons] at ahead
      simp [ahead.2.1]
    | inner known =>
      simp only [List.cons_prefix_cons] at ahead
      rcases known with rfl | rfl
      · exact absurd ahead.2.1 other.1
      · exact absurd ahead.2.1 other.2
  | inner =>
    cases second with
    | top => simp at ahead
    | inner =>
      simp only [List.cons_prefix_cons] at ahead
      simp [ahead.2.1, ahead.2.2.1]

/-- No file of a project has a name too long for a disk. -/
def Fits (project : String) : Prop := ∀ t : Template, ∀ part ∈ t.path project, part.utf8ByteSize ≤ Disk.maxName

theorem Fits.short {project : String} (fits : Fits project) : project.utf8ByteSize ≤ Disk.maxName := by
  have whole := fits .filteredEvents s!"{project}_{Template.name .filteredEvents}.sql" (by simp [Template.path])
  simp only [String.utf8ByteSize_append] at whole
  have same : (toString project).utf8ByteSize = project.utf8ByteSize := rfl
  omega

/-- A name with something behind it that is more than dots. -/
theorem isName_append {a b : String} (named : IsName a) (letter : ∃ c ∈ b.toList, c ≠ '.')
    (clear : '/' ∉ b.toList ∧ '\x00' ∉ b.toList) (short : (a ++ b).utf8ByteSize ≤ Disk.maxName) : IsName (a ++ b) := by
  obtain ⟨c, member, other⟩ := letter
  have inside : c ∈ (a ++ b).toList := by
    rw [String.toList_append]
    exact List.mem_append_right _ member
  refine ⟨fun same => ?_, ⟨fun same => ?_, fun same => ?_⟩, ?_, ?_, short⟩
  · simp [same] at inside
  · exact other (by simpa [same] using inside)
  · exact other (by simpa [same] using inside)
  · simp [String.toList_append, named.uncut, clear.1]
  · simp [String.toList_append, named.noNul, clear.2]

/-- The name of the file of a model. -/
def modelFile (project : String) (t : Template) : String := project ++ ("_" ++ t.name ++ ".sql")

theorem path_of_model (project : String) {t : Template} (model : t ∈ Template.models) :
    t.path project = ["models", modelFile project t] := by
  have written (name : String) : project ++ "_" ++ name ++ ".sql" = project ++ ("_" ++ name ++ ".sql") := by
    simp only [String.append_assoc]
  rw [modelFile, ← written]
  cases t with
  | project => simp [Template.models] at model
  | sources => simp [Template.models] at model
  | _ => rfl

theorem owns_template {project : String} (named : IsName project) (fits : Fits project) (t : Template) :
    Owns project (templateNames project t) := by
  have ofModel (model : t ∈ Template.models) : Owns project (templateNames project t) := by
    have path := path_of_model project model
    rw [templateNames, path]
    refine .inner (.inr rfl) (isName_append named ⟨'s', by simp [String.toList_append], by decide⟩ ?_ ?_)
    · cases t <;> decide
    · exact fits t _ (by simp [path, modelFile])
  cases t with
  | project => exact .top (by decide) (by decide)
  | sources => exact .inner (.inr rfl) (by decide)
  | _ => exact ofModel (by decide)

theorem owns_blueprint (project : String) : Owns project (blueprintNames project) := .inner (.inl rfl) (by decide)

theorem owns_models (project : String) : Owns project (modelsNames project) := .inner (.inl rfl) (by decide)

/-- The level of a file and the length of its name. -/
def shape (names : List String) : Nat × Nat := (names.length, (names.getLastD "").utf8ByteSize)

/-- The shape of a template's file, from the length of the project's name. -/
def templateShape (length : Nat) : Template → Nat × Nat
  | .project => (2, 15)
  | .sources => (3, 11)
  | .filteredEvents => (3, length + 20)
  | .dailyAggregates => (3, length + 21)
  | .attributes => (3, length + 15)

theorem shape_templateNames (project : String) (t : Template) :
    shape (templateNames project t) = templateShape project.utf8ByteSize t := by
  have ofModel (model : t ∈ Template.models) :
      shape (templateNames project t) = (3, project.utf8ByteSize + (t.name.utf8ByteSize + 5)) := by
    have path := path_of_model project model
    simp only [shape, templateNames, path, modelFile, List.length_cons, List.length_nil, List.getLastD_cons,
      List.getLastD_nil, String.utf8ByteSize_append]
    refine Prod.ext rfl ?_
    rw [show "_".utf8ByteSize = 1 from rfl, show ".sql".utf8ByteSize = 4 from rfl]
    dsimp only
    omega
  cases t with
  | project => rfl
  | sources => rfl
  | _ => exact ofModel (by decide)

/-- Two templates never share a file: their files lie on different levels or have names of different lengths. -/
theorem templateNames_injective (project : String) : Function.Injective (templateNames project) := by
  intro t t' same
  have equal := congrArg shape same
  rw [shape_templateNames, shape_templateNames] at equal
  cases t <;> cases t' <;> first | rfl | (simp [templateShape] at equal; try omega)

/-! The paths of the files. -/

/-- A path below the directory of a project, from the repository. -/
theorem join_root (repository : String) {name : String} (named : IsName name) {names : List String}
    (below : ∀ n ∈ names, IsName n) (some : names ≠ []) :
    Path.join (inRepository repository name).root (Path.ofNames names) =
      Path.join repository (Path.ofNames (name :: names)) := by
  rw [Path.ofNames_cons some]
  exact Path.join_join repository (Path.isInner_of_isName named) (Path.ofNames_isInner below some)

theorem Owns.isName {project : String} (named : IsName project) {names : List String} (owns : Owns project names) :
    ∀ n ∈ names, IsName n := by
  cases owns with
  | top file => simp [named, file]
  | inner known file =>
    have dir : IsName "configs" ∧ IsName "models" := by decide
    rcases known with rfl | rfl
    · simp [named, file, dir.1]
    · simp [named, file, dir.2]

theorem templatePath_eq (repository : String) {name : String} (named : IsName name) (fits : Fits name) (t : Template) :
    (inRepository repository name).templatePath t = Path.join repository (Path.ofNames (templateNames name t)) := by
  have all := (owns_template named fits t).isName named
  refine join_root repository named (fun n member => all n (List.mem_cons_of_mem _ member)) ?_
  cases t <;> exact List.cons_ne_nil _ _

theorem configPath_eq (repository : String) {name : String} (named : IsName name) {file : String}
    (namedFile : IsName file) : Path.join (Path.join (inRepository repository name).root "configs") file =
      Path.join repository (Path.ofNames [name, "configs", file]) := by
  have configs : IsName "configs" := by decide
  have below : ∀ n ∈ ["configs", file], IsName n := by simp [configs, namedFile]
  rw [← join_root repository named below (by simp)]
  exact Path.join_join _ (Path.isInner_of_isName configs) (Path.isInner_of_isName namedFile)

end Project

end AttributeStore
