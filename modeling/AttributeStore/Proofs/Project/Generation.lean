import AttributeStore.Proofs.Models.Files
import AttributeStore.Proofs.Project.Layout
import AttributeStore.Proofs.Project.Operations

/-! From a view to the files of its project. What is generated is made from the blueprint as it is read from its file,
which is the compiled one if the file can be read at all. -/
namespace AttributeStore.Project

open Json
open Disk (IsName)

variable {d : Disk} {repository : String} {base : Disk.Place} {files : List String → Option String}

/-! Storing the files of a project. -/

/-- Files by their names, laid over others. -/
def overlay (files : List String → Option String) (new : List (List String × String)) : List String → Option String :=
  new.foldl (fun files f => Function.update files f.1 (some f.2)) files

/-- Files by their paths from a repository. -/
def placed (repository : String) (new : List (List String × String)) : List (String × String) :=
  new.map fun f => (Path.join repository (Path.ofNames f.1), f.2)

theorem overlay_of_notMem {names : List String} {new : List (List String × String)} (other : names ∉ new.map (·.1)) :
    overlay files new names = files names := by
  induction new generalizing files with
  | nil => rfl
  | cons f rest ih =>
    rw [List.map_cons, List.mem_cons, not_or] at other
    exact (ih other.2).trans (Function.update_of_ne other.1 _ _)

theorem overlay_of_mem {names : List String} {text : String} {new : List (List String × String)}
    (distinct : (new.map (·.1)).Nodup) (member : (names, text) ∈ new) : overlay files new names = some text := by
  induction new generalizing files with
  | nil => cases member
  | cons f rest ih =>
    obtain ⟨apart, distinct⟩ := List.nodup_cons.mp distinct
    rcases List.mem_cons.mp member with rfl | later
    · exact (overlay_of_notMem apart).trans (Function.update_self ..)
    · exact ih distinct later

theorem overlay_append (first second : List (List String × String)) :
    overlay (overlay files first) second = overlay files (first ++ second) := (List.foldl_append ..).symm

theorem overlay_owned {project : String} (owned : ∀ names, (files names).isSome → Owns project names)
    {new : List (List String × String)} (own : ∀ f ∈ new, Owns project f.1) :
    ∀ names, (overlay files new names).isSome → Owns project names := by
  intro names there
  by_cases written : names ∈ new.map (·.1)
  · obtain ⟨f, member, rfl⟩ := List.mem_map.mp written
    exact own f member
  · rw [overlay_of_notMem written] at there
    exact owned names there

theorem owned_of_none (project : String) :
    ∀ names, ((fun _ => none : List String → Option String) names).isSome → Owns project names := fun _ => nofun

theorem Owns.admits {project : String} {dirs : List String} {name : String} (owns : Owns project (dirs ++ [name]))
    (owned : ∀ names, (files names).isSome → Owns project names) : Disk.Tree.Admits files dirs name where
  through front ahead := by
    by_contra there
    have same := (owned front (Option.isSome_iff_ne_none.mpr there)).eq_of_ahead owns
      (ahead.trans (List.prefix_append dirs [name]))
    exact Disk.ne_concat_of_ahead ahead same
  behind rest more := by
    by_contra there
    have same := owns.eq_of_ahead (owned _ (Option.isSome_iff_ne_none.mpr there)) (List.prefix_append _ rest)
    exact more (by simpa using same)

theorem storeAll_run {project : String} (named : IsName project) (tree : d.Tree repository base files)
    (owned : ∀ names, (files names).isSome → Owns project names) {new : List (List String × String)}
    (own : ∀ f ∈ new, Owns project f.1) :
    ∃ d', (storeAll (placed repository new) : OnDisk Unit).run.run d = (.ok (), d') ∧
      d'.Tree repository base (overlay files new) := by
  induction new generalizing d files with
  | nil => exact ⟨d, rfl, tree⟩
  | cons f rest ih =>
    obtain ⟨names, text⟩ := f
    have owns : Owns project names := own (names, text) (by simp)
    obtain ⟨dirs, name, some, rfl⟩ : ∃ dirs name, dirs ≠ [] ∧ names = dirs ++ [name] := by
      cases owns with
      | top => exact ⟨[_], _, by simp, rfl⟩
      | inner => exact ⟨[_, _], _, by simp, rfl⟩
    obtain ⟨opened, d', made, written, tree'⟩ := tree.store (owns.isName named) some (owns.admits owned) text
    have first : ∀ f ∈ [(dirs ++ [name], text)], Owns project f.1 := by simpa using owns
    have owned' := overlay_owned owned first
    obtain ⟨final, run, tree''⟩ := ih tree' owned' fun f member => own f (List.mem_cons_of_mem _ member)
    refine ⟨final, ?_, tree''⟩
    show (storeAll ((_, text) :: placed repository rest) : OnDisk Unit).run.run d = _
    rw [storeAll, OnDisk.run_bind, store_run made written]
    exact run

/-! The files that a project starts with and those that are generated. -/

variable (r : Renderer) (project : String) (b : Blueprint) (m : Models)

def templateFiles (templates : List Template) : List (List String × String) :=
  templates.map fun t => (templateNames project t, textOf r project b m t)

def startFiles : List (List String × String) :=
  (blueprintNames project, (Blueprint.codec.encode b).pretty) :: templateFiles r project b m Template.scaffold

def modelFiles : List (List String × String) :=
  (modelsNames project, (Models.codec.encode m).pretty) :: templateFiles r project b m Template.models

variable {r project b m}

theorem placed_templateFiles (named : IsName project) (fits : Fits project) (templates : List Template) :
    placed repository (templateFiles r project b m templates) =
      templates.map fun t => ((inRepository repository project).templatePath t, textOf r project b m t) := by
  rw [placed, templateFiles, List.map_map]
  refine List.map_congr_left fun t _ => ?_
  rw [templatePath_eq repository named fits]
  rfl

theorem blueprintPath_eq (repository : String) (named : IsName project) :
    (inRepository repository project).blueprintPath =
      Path.join repository (Path.ofNames (blueprintNames project)) := configPath_eq repository named (by decide)

theorem modelsPath_eq (repository : String) (named : IsName project) :
    (inRepository repository project).modelsPath =
      Path.join repository (Path.ofNames (modelsNames project)) := configPath_eq repository named (by decide)

theorem initFiles_eq (m : Models) (named : IsName project) (fits : Fits project) :
    initFiles r (inRepository repository project) b = placed repository (startFiles r project b m) := by
  have texts : placed repository (startFiles r project b m) =
      ((inRepository repository project).blueprintPath, (Blueprint.codec.encode b).pretty) ::
        placed repository (templateFiles r project b m Template.scaffold) := by
    rw [blueprintPath_eq repository named]
    rfl
  rw [texts, placed_templateFiles named fits]
  rfl

theorem generateFiles_eq (named : IsName project) (fits : Fits project) :
    generateFiles r (inRepository repository project) b m = placed repository (modelFiles r project b m) := by
  have texts : placed repository (modelFiles r project b m) =
      ((inRepository repository project).modelsPath, (Models.codec.encode m).pretty) ::
        placed repository (templateFiles r project b m Template.models) := by
    rw [modelsPath_eq repository named]
    rfl
  rw [texts, placed_templateFiles named fits]
  rfl

theorem owns_startFiles (named : IsName project) (fits : Fits project) :
    ∀ f ∈ startFiles r project b m, Owns project f.1 :=
  List.forall_mem_cons.mpr ⟨owns_blueprint _, List.forall_mem_map.mpr fun t _ => owns_template named fits t⟩

theorem owns_modelFiles (named : IsName project) (fits : Fits project) :
    ∀ f ∈ modelFiles r project b m, Owns project f.1 :=
  List.forall_mem_cons.mpr ⟨owns_models _, List.forall_mem_map.mpr fun t _ => owns_template named fits t⟩

theorem init_run {v : View} (tree : d.Tree repository base files)
    (owned : ∀ names, (files names).isSome → Owns v.projectName names) (fits : Fits v.projectName)
    (compiled : Blueprint.ofView v = .ok b) (m : Models) :
    ∃ d', (init r repository v : OnDisk Project).run.run d = (.ok (ofView repository v), d') ∧
      d'.Tree repository base (overlay files (startFiles r v.projectName b m)) := by
  have named : IsName v.projectName := v.projectName_isName fits.short
  obtain ⟨d', run, tree'⟩ := storeAll_run named tree owned (owns_startFiles (r := r) (b := b) (m := m) named fits)
  refine ⟨d', ?_, tree'⟩
  have files : initFiles r (ofView repository v) b = placed repository (startFiles r v.projectName b m) :=
    initFiles_eq m named fits
  rw [init_of_compiled compiled, run_storing, files, run]
  rfl

theorem read_blueprint (named : IsName project) (tree : d.Tree repository base files) {text : String}
    (stored : files (blueprintNames project) = some text) :
    d.read (inRepository repository project).blueprintPath = .ok text := by
  rw [blueprintPath_eq repository named]
  exact tree.read ((owns_blueprint project).isName named) (List.cons_ne_nil _ _) stored

theorem generate_run (named : IsName project) (fits : Fits project) (tree : d.Tree repository base files)
    (owned : ∀ names, (files names).isSome → Owns project names)
    (stored : files (blueprintNames project) = some (Blueprint.codec.encode b).pretty)
    (read : Blueprint.codec.ofText (Blueprint.codec.encode b).pretty = .ok b) (built : Models.ofBlueprint b = .ok m) :
    ∃ d', ((inRepository repository project).generate r : OnDisk _).run.run d =
        (.ok (Template.models.map (inRepository repository project).templatePath), d') ∧
      d'.Tree repository base (overlay files (modelFiles r project b m)) := by
  obtain ⟨d', run, tree'⟩ := storeAll_run named tree owned (owns_modelFiles (r := r) (b := b) (m := m) named fits)
  refine ⟨d', ?_, tree'⟩
  rw [generate_of_built (read_blueprint named tree stored) read built, run_storing, generateFiles_eq named fits, run]
  rfl

/-- Nothing is generated from a blueprint that cannot be read. -/
theorem generate_refused (r : Renderer) (named : IsName project) (tree : d.Tree repository base files) {text : String}
    (stored : files (blueprintNames project) = some text) {fault : Fault}
    (refused : Blueprint.codec.ofText text = .error fault) :
    let p := inRepository repository project
    (p.generate r : OnDisk (List String)).run.run d =
      (.error ⟨[.opening p.name, .parsing p.blueprintPath], .json fault⟩, d) := by
  intro p
  exact generate_of_unparsed (read_blueprint named tree stored) refused

theorem templateNames_ne_config (project file : String) (t : Template) :
    templateNames project t ≠ [project, "configs", file] := by
  cases t <;> simp [templateNames, Template.path]

/-- No file is written twice. -/
theorem files_nodup (r : Renderer) (project : String) (b : Blueprint) (m : Models) :
    ((startFiles r project b m ++ modelFiles r project b m).map (·.1)).Nodup := by
  have apart {t t' : Template} : templateNames project t = templateNames project t' ↔ t = t' :=
    (templateNames_injective project).eq_iff
  have config (file : String) (t : Template) : ¬[project, "configs", file] = templateNames project t :=
    (templateNames_ne_config project file t).symm
  have config' (file : String) (t : Template) : ¬templateNames project t = [project, "configs", file] :=
    templateNames_ne_config project file t
  simp [startFiles, modelFiles, templateFiles, Template.scaffold, Template.models, blueprintNames, modelsNames, apart,
    config, config']

/-- What is found in a project once its models have been generated. -/
theorem generated_tree (named : IsName project) (fits : Fits project)
    (tree : d.Tree repository base (overlay files (startFiles r project b m ++ modelFiles r project b m))) :
    d.read (inRepository repository project).blueprintPath = .ok (Blueprint.codec.encode b).pretty ∧
      d.read (inRepository repository project).modelsPath = .ok (Models.codec.encode m).pretty ∧
      ∀ t, d.read ((inRepository repository project).templatePath t) = .ok (textOf r project b m t) := by
  have found {names : List String} {text : String} (owns : Owns project names)
      (member : (names, text) ∈ startFiles r project b m ++ modelFiles r project b m) :
      d.read (Path.join repository (Path.ofNames names)) = .ok text := by
    refine tree.read (owns.isName named) (fun none => ?_) (overlay_of_mem (files_nodup r project b m) member)
    subst none
    cases owns
  refine ⟨?_, ?_, fun t => ?_⟩
  · rw [blueprintPath_eq repository named]
    exact found (owns_blueprint project) (by simp [startFiles])
  · rw [modelsPath_eq repository named]
    exact found (owns_models project) (by simp [modelFiles])
  · rw [templatePath_eq repository named fits]
    refine found (owns_template named fits t) ?_
    have known : t ∈ Template.scaffold ∨ t ∈ Template.models := by cases t <;> decide
    rcases known with early | late
    · exact List.mem_append_left _ (List.mem_cons_of_mem _ (List.mem_map_of_mem early))
    · exact List.mem_append_right _ (List.mem_cons_of_mem _ (List.mem_map_of_mem late))

theorem init_vacant (r : Renderer) {v : View} (vacant : d.Vacant repository base) (fits : Fits v.projectName)
    (compiled : Blueprint.ofView v = .ok b) (m : Models) :
    ∃ started, (init r repository v : OnDisk Project).run.run d = (.ok (ofView repository v), started) ∧
      started.Tree repository base (overlay (fun _ => none) (startFiles r v.projectName b m)) :=
  init_run vacant.tree (owned_of_none _) fits compiled m

theorem stored_blueprint (r : Renderer) (project : String) (b : Blueprint) (m : Models) :
    overlay (fun _ => none) (startFiles r project b m) (blueprintNames project) =
      some (Blueprint.codec.encode b).pretty := by
  have distinct := files_nodup r project b m
  rw [List.map_append] at distinct
  exact overlay_of_mem (List.nodup_append.mp distinct).1 List.mem_cons_self

/-- What a view's project holds after it has been made in an empty repository and its models have been generated. The
blueprint is read back from its file, so there are models exactly if a reader gets to the bottom of it. -/
theorem generate_after_init (r : Renderer) {v : View} {b : Blueprint} {m : Models} (vacant : d.Vacant repository base)
    (fits : Fits v.projectName) (compiled : Blueprint.ofView v = .ok b) (built : Models.ofBlueprint b = .ok m)
    (back : ∀ x ∈ b.floats, ReadsBack x) :
    let p := ofView repository v
    ∃ started, (init r repository v : OnDisk Project).run.run d = (.ok p, started) ∧
      ((Blueprint.codec.encode b).levels ≤ maxDepth → ∃ done,
        (p.generate r : OnDisk (List String)).run.run started = (.ok (Template.models.map p.templatePath), done) ∧
        (p.loadBlueprint : OnDisk Blueprint).run.run done = (.ok b, done) ∧
        (p.loadModels : OnDisk Models).run.run done = (.ok m, done) ∧
        ∀ t, ∃ text, r.render ⟨p.name, b, some m⟩ t = .ok text ∧ done.read (p.templatePath t) = .ok text) ∧
      (¬(Blueprint.codec.encode b).levels ≤ maxDepth → ∃ fault,
        (p.generate r : OnDisk (List String)).run.run started =
          (.error ⟨[.opening p.name, .parsing p.blueprintPath], .json fault⟩, started)) := by
  intro p
  have named : IsName v.projectName := v.projectName_isName fits.short
  obtain ⟨started, run, tree⟩ := init_vacant r vacant fits compiled m
  have stored := stored_blueprint r v.projectName b m
  obtain ⟨reads, refuses⟩ := Blueprint.ofText_pretty (Blueprint.ofView_storable compiled back)
  refine ⟨started, run, fun shallow => ?_, fun deep => ?_⟩
  · have fresh : ∀ names, ((fun _ => none : List String → Option String) names).isSome → Owns v.projectName names :=
      fun _ => nofun
    have owned := overlay_owned fresh (owns_startFiles (r := r) (b := b) (m := m) named fits)
    obtain ⟨done, generated, tree'⟩ := generate_run (r := r) named fits tree owned stored (reads shallow) built
    rw [overlay_append] at tree'
    obtain ⟨blueprint, models, texts⟩ := generated_tree named fits tree'
    refine ⟨done, generated, ?_, ?_, fun t => ⟨_, render_eq r v.projectName b m t, texts t⟩⟩
    · rw [loadBlueprint, show p = inRepository repository v.projectName from rfl, load_run blueprint, reads shallow]
      rfl
    · rw [loadModels, show p = inRepository repository v.projectName from rfl, load_run models, m.ofText_pretty]
      rfl
  · obtain ⟨fault, refused⟩ := refuses deep
    exact ⟨fault, generate_refused r named tree stored refused⟩

/-! A view whose filter compares with a list of lists. -/

/-- What a file is compiled to, from the value that is read from it. -/
def compiled? (file : Json) : Option (View × Blueprint × Models) := do
  let v ← (View.codec.decode .text (file.readingAt 0)).toOption
  let b ← (Blueprint.ofView v).toOption
  let m ← (Models.ofBlueprint b).toOption
  return (v, b, m)

theorem exists_of_compiled? {file : Json} (legible : file.Legible) {f : View × Blueprint × Models → α} {result : α}
    (run : (compiled? file).map f = some result) : ∃ v b m, View.codec.ofText file.pretty = .ok v ∧
      Blueprint.ofView v = .ok b ∧ Models.ofBlueprint b = .ok m ∧ f (v, b, m) = result := by
  obtain ⟨⟨v, b, m⟩, whole, same⟩ := Option.map_eq_some_iff.mp run
  obtain ⟨v', read, rest⟩ := Option.bind_eq_some_iff.mp whole
  obtain ⟨b', compiled, rest⟩ := Option.bind_eq_some_iff.mp rest
  obtain ⟨m', built, rest⟩ := Option.bind_eq_some_iff.mp rest
  cases rest
  refine ⟨v, b, m, ?_, eq_ok_of_toOption compiled, eq_ok_of_toOption built, same⟩
  rw [Codec.ofText, read_pretty legible]
  dsimp only
  rw [eq_ok_of_toOption read]
  rfl

/-- A view of visits from countries that are like a value. -/
def visitsFile (country : Json) : Json :=
  .obj [("name", .str "visits"), ("version", .int 1), ("entity", .obj [("name", .str "user"), ("key", .str "user_id")]),
    ("attributes", .arr [.obj [("name", .str "visits_from_us"), ("aggregation", .str "counter"),
      ("events", .arr [.obj [("vendor", .str "com.acme"), ("name", .str "page_view"), ("version", .str "1-0-0")]]),
      ("criteria", .obj [("all", .arr [.obj [("property", .str "geo.country"), ("operator", .str "like"),
        ("value", country)]])])]])]

/-- A value within lists of one item. -/
def nested : Nat → Json → Json
  | 0, v => v
  | n + 1, v => .arr [nested n v]

theorem legible_nested (n : Nat) {v : Json} (legible : v.Legible) : (nested n v).Legible := by
  induction n with
  | zero => exact legible
  | succ n ih => exact ⟨ih, trivial⟩

theorem legible_visitsFile {country : Json} (legible : country.Legible) : (visitsFile country).Legible := by
  simpa [visitsFile, Legible, LegibleItems, LegibleFields] using legible

theorem vacant_empty : Disk.Vacant {} "." [] := by
  have walked : (Disk.pieces ".").foldlM ({} : Disk).descend [] = .ok [] := by decide +kernel
  have origin : ({} : Disk).origin "." = [] := ite_self []
  exact ⟨⟨Disk.locate_eq_ok.mpr ⟨by decide, by decide, by rw [origin, walked]⟩, rfl⟩, fun _ _ => rfl⟩

theorem fits_visits : Fits "visits_1" := by
  intro t
  cases t <;> decide

theorem generate_after_init_of_visits : ∃ v b m, View.codec.ofText (visitsFile (nested 2 (.str "US"))).pretty = .ok v ∧
    Blueprint.ofView v = .ok b ∧ Models.ofBlueprint b = .ok m ∧ ∃ started done,
      (init {} "." v : OnDisk Project).run.run {} = (.ok (ofView "." v), started) ∧
      ((ofView "." v).generate {} : OnDisk (List String)).run.run started =
        (.ok (Template.models.map (ofView "." v).templatePath), done) ∧
      ((ofView "." v).loadBlueprint : OnDisk Blueprint).run.run done = (.ok b, done) := by
  have run : (compiled? (visitsFile (nested 2 (.str "US")))).map (fun (v, b, _) =>
      (v.projectName, b.floats, (Blueprint.codec.encode b).levels)) = some ("visits_1", [], 9) := by
    decide +kernel
  obtain ⟨v, b, m, read, compiled, built, facts⟩ :=
    exists_of_compiled? (legible_visitsFile (legible_nested 2 (v := .str "US") trivial)) run
  obtain ⟨name, floats, levels⟩ : v.projectName = "visits_1" ∧ b.floats = [] ∧
      (Blueprint.codec.encode b).levels = 9 := by simpa using facts
  obtain ⟨started, init, generate, -⟩ := generate_after_init {} vacant_empty (name ▸ fits_visits) compiled built
    (by simp [floats])
  obtain ⟨done, generated, loaded, -⟩ := generate (by rw [levels]; decide)
  exact ⟨v, b, m, read, compiled, built, started, done, init, generated, loaded⟩

/-- The blueprint has its values one level deeper than the view, so the deepest view that can be read makes a project
that cannot. -/
theorem generate_of_deepest_view : ∃ v b m, View.codec.ofText (visitsFile (nested 121 (.str "US"))).pretty = .ok v ∧
    Blueprint.ofView v = .ok b ∧ Models.ofBlueprint b = .ok m ∧ b.floats = [] ∧ ∃ started fault,
      (init {} "." v : OnDisk Project).run.run {} = (.ok (ofView "." v), started) ∧
      ((ofView "." v).generate {} : OnDisk (List String)).run.run started =
        (.error ⟨[.opening "visits_1", .parsing (ofView "." v).blueprintPath], .json fault⟩, started) := by
  have run : (compiled? (visitsFile (nested 121 (.str "US")))).map (fun (v, b, _) =>
      (v.projectName, b.floats, (Blueprint.codec.encode b).levels)) = some ("visits_1", [], 128) := by
    decide +kernel
  obtain ⟨v, b, m, read, compiled, built, facts⟩ :=
    exists_of_compiled? (legible_visitsFile (legible_nested 121 (v := .str "US") trivial)) run
  obtain ⟨name, floats, levels⟩ : v.projectName = "visits_1" ∧ b.floats = [] ∧
      (Blueprint.codec.encode b).levels = 128 := by simpa using facts
  have fits : Fits v.projectName := name ▸ fits_visits
  obtain ⟨started, init, tree⟩ := init_vacant {} vacant_empty fits compiled m
  obtain ⟨fault, refused⟩ := (Blueprint.ofText_pretty (Blueprint.ofView_storable compiled (by simp [floats]))).2
    (by rw [levels]; decide)
  have failed := generate_refused {} (v.projectName_isName fits.short) tree (stored_blueprint {} _ b m) refused
  exact ⟨v, b, m, read, compiled, built, floats, started, fault, init, name ▸ failed⟩

end AttributeStore.Project
