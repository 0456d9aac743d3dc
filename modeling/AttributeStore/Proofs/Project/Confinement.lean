import AttributeStore.Proofs.Project.Repository

/-! What making a project and generating its models do to any disk. They change the files that they store and no other
file, none at all if they are refused, and nothing when they are run again. -/
namespace AttributeStore.Project

open Disk (IsName IsPlain IsComponent)

variable {d d' : Disk} {r : Renderer} {p : Project} {b : Blueprint} {m : Models}

/-! The last names of a project's files, whatever its name and its directory. -/

theorem fileName_blueprintPath : Path.fileName p.blueprintPath = "base_config.json" := by
  have named : IsName "base_config.json" := by decide
  rw [blueprintPath, Path.fileName_join _ (Path.isInner_of_isName named), Path.fileName_of_uncut named.uncut]

theorem fileName_modelsPath : Path.fileName p.modelsPath = "dbt_config.json" := by
  have named : IsName "dbt_config.json" := by decide
  rw [modelsPath, Path.fileName_join _ (Path.isInner_of_isName named), Path.fileName_of_uncut named.uncut]

/-- How the name of a model's file ends. -/
def modelEnding (t : Template) : String := "_" ++ t.name ++ ".sql"

theorem modelEnding_uncut (t : Template) : '/' ∉ (modelEnding t).toList := by
  cases t <;> decide

theorem modelEnding_isInner (t : Template) : Path.IsInner (modelEnding t) := by
  cases t <;> exact ⟨by decide, by decide, by decide⟩

/-- The path of a template's file below the directory of its project. -/
theorem ofNames_path_of_model (project : String) {t : Template} (model : t ∈ Template.models) :
    Path.ofNames (t.path project) = "models" ++ "/" ++ (project ++ modelEnding t) := by
  rw [path_of_model project model, Path.ofNames_cons (by simp)]
  rfl

theorem isInner_path (project : String) (t : Template) : Path.IsInner (Path.ofNames (t.path project)) := by
  have models : IsName "models" := by decide
  have known : t ∈ Template.scaffold ∨ t ∈ Template.models := by cases t <;> decide
  rcases known with scaffold | model
  · have parts := path_of_scaffold project scaffold
    exact Path.ofNames_isInner parts.2 parts.1
  · rw [ofNames_path_of_model project model, ← String.append_assoc]
    exact (Path.isInner_of_isName models).around (modelEnding_isInner t) ("/" ++ project)

theorem fileName_templatePath (t : Template) :
    Path.fileName (p.templatePath t) = Path.fileName (Path.ofNames (t.path p.name)) :=
  Path.fileName_join _ (isInner_path p.name t)

/-- A model's file is named for what its project's name ends with. -/
theorem fileName_of_model {t : Template} (model : t ∈ Template.models) :
    Path.fileName (p.templatePath t) = Path.fileName p.name ++ modelEnding t := by
  rw [fileName_templatePath, ofNames_path_of_model p.name model, Path.fileName_slash,
    Path.fileName_append _ (modelEnding_uncut t)]

theorem fileName_of_project : Path.fileName (p.templatePath .project) = "dbt_project.yml" := by
  have uncut : '/' ∉ "dbt_project.yml".toList := by decide
  rw [fileName_templatePath]
  exact Path.fileName_of_uncut uncut

theorem fileName_of_sources : Path.fileName (p.templatePath .sources) = "sources.yml" := by
  rw [fileName_templatePath]
  exact (Path.fileName_slash "models" "sources.yml").trans (Path.fileName_of_uncut (by decide))

theorem getLast?_modelEnding (s : String) (t : Template) : (s ++ modelEnding t).toList.getLast? = some 'l' := by
  rw [Path.getLast?_append (modelEnding_isInner t).nonempty]
  cases t <;> decide

/-- The name of a model's file is none that ends in another way. -/
theorem append_modelEnding_ne {s other : String} {t : Template} (differs : other.toList.getLast? ≠ some 'l') :
    s ++ modelEnding t ≠ other := by
  rintro rfl
  exact differs (getLast?_modelEnding s t)

theorem isPlain_modelEnding (s : String) (t : Template) : IsPlain (s ++ modelEnding t) :=
  ⟨append_modelEnding_ne (by decide), append_modelEnding_ne (by decide), append_modelEnding_ne (by decide)⟩

theorem append_modelEnding_inj {s : String} {t t' : Template} : s ++ modelEnding t = s ++ modelEnding t' ↔ t = t' := by
  refine ⟨fun same => ?_, fun same => by rw [same]⟩
  have endings : (modelEnding t).toList = (modelEnding t').toList := by
    have chars := congrArg String.toList same
    rwa [String.toList_append, String.toList_append, List.append_cancel_left_eq] at chars
  revert endings
  cases t <;> cases t' <;> decide

theorem apart_initFiles : Apart (initFiles r p b) := by
  have names : (initFiles r p b).map (fun f => Path.fileName f.1) =
      ["base_config.json", "dbt_project.yml", "sources.yml"] := by
    simp [initFiles, fileName_blueprintPath, fileName_of_project, fileName_of_sources]
  refine ⟨fun f member => ?_, names ▸ by decide⟩
  have plain : ∀ name ∈ ["base_config.json", "dbt_project.yml", "sources.yml"], IsPlain name := by decide
  exact plain _ (names ▸ List.mem_map_of_mem member)

/-- The last names of the generated files. -/
theorem fileNames_of_generateFiles : (generateFiles r p b m).map (fun f => Path.fileName f.1) =
    "dbt_config.json" :: Template.models.map fun t => Path.fileName p.name ++ modelEnding t := by
  rw [generateFiles, List.map_cons, List.map_map, fileName_modelsPath]
  exact congrArg _ (List.map_congr_left fun t model => fileName_of_model model)

theorem apart_generateFiles : Apart (generateFiles r p b m) := by
  refine ⟨fun f member => ?_, ?_⟩
  · have name := List.mem_map_of_mem (f := fun f => Path.fileName f.1) member
    rw [fileNames_of_generateFiles] at name
    rcases List.mem_cons.mp name with same | model
    · rw [same]
      decide
    · obtain ⟨t, -, same⟩ := List.mem_map.mp model
      exact same ▸ isPlain_modelEnding _ t
  · rw [fileNames_of_generateFiles]
    refine List.nodup_cons.mpr ⟨fun member => ?_, ?_⟩
    · obtain ⟨t, -, same⟩ := List.mem_map.mp member
      exact append_modelEnding_ne (by decide) same
    · exact List.Nodup.map (fun _ _ => append_modelEnding_inj.mp) (by decide)

/-! What is stored. -/

theorem init_stores_files {repository : String} {v : View} (compiled : Blueprint.ofView v = .ok b) (d : Disk) :
    Stores (init r repository v) (ofView repository v) (initFiles r (ofView repository v) b) d :=
  stores_of_run apart_initFiles (init_of_compiled compiled d) fun d' _ => init_of_compiled compiled d'

/-- No file that is generated stands in the blueprint's place. -/
theorem read_blueprint_of_confined {text : String} (read : d.read p.blueprintPath = .ok text)
    (confined : Disk.Confined (Leads d' (generateFiles r p b m)) d d') : d'.read p.blueprintPath = .ok text := by
  obtain ⟨q, located, there⟩ := Disk.exists_of_read read
  have here := confined.toExtends.locate located
  refine Disk.read_of_file here ((confined.files q ?_ text).mpr there)
  rintro ⟨f, member, leads⟩
  have plain : IsPlain (Path.fileName p.blueprintPath) := by
    rw [fileName_blueprintPath]
    decide
  have same := Disk.fileName_eq_of_locate plain (apart_generateFiles.plain f member) here leads
  rw [fileName_blueprintPath] at same
  have name := List.mem_map_of_mem (f := fun f => Path.fileName f.1) member
  rw [fileNames_of_generateFiles, ← same] at name
  rcases List.mem_cons.mp name with other | model
  · exact absurd other (by decide)
  · obtain ⟨t, -, other⟩ := List.mem_map.mp model
    exact append_modelEnding_ne (by decide) other

theorem generate_stores_files {text : String} (read : d.read p.blueprintPath = .ok text)
    (parsed : Blueprint.codec.ofText text = .ok b) (built : Models.ofBlueprint b = .ok m) :
    Stores (p.generate r) (Template.models.map p.templatePath) (generateFiles r p b m) d := by
  refine stores_of_run apart_generateFiles (generate_of_built read parsed built) fun d' confined => ?_
  exact generate_of_built (read_blueprint_of_confined read confined) parsed built

/-! Where the files stand. -/

/-- The files that a project may have, by their paths and by their names from the repository. -/
def addresses (p : Project) : List (String × List String) :=
  (p.blueprintPath, blueprintNames p.name) :: (p.modelsPath, modelsNames p.name) ::
    Template.all.map fun t => (p.templatePath t, templateNames p.name t)

theorem pieces_path {project : String} (uncut : '/' ∉ project.toList) (t : Template) :
    Disk.pieces (Path.ofNames (t.path project)) = t.path project ∧ ∀ piece ∈ t.path project, IsPlain piece := by
  have models : IsName "models" := by decide
  have known : t ∈ Template.scaffold ∨ t ∈ Template.models := by cases t <;> decide
  rcases known with scaffold | model
  · have parts := path_of_scaffold project scaffold
    exact ⟨Path.pieces_ofNames parts.2 parts.1, fun piece member => (parts.2 piece member).isPlain⟩
  · have file : '/' ∉ (project ++ modelEnding t).toList := by
      simp [String.toList_append, uncut, modelEnding_uncut t]
    rw [ofNames_path_of_model project model, Path.pieces_slash, Path.pieces_of_uncut models.uncut,
      Path.pieces_of_uncut file, path_of_model project model]
    exact ⟨rfl, List.forall_mem_cons.mpr ⟨models.isPlain,
      List.forall_mem_singleton.mpr (isPlain_modelEnding project t)⟩⟩

/-- Every file has plain names below the directory of its project. -/
theorem exists_of_address {p : Project} (uncut : '/' ∉ p.name.toList) {address : String × List String}
    (listed : address ∈ addresses p) : ∃ inner, Path.IsInner inner ∧ address.1 = Path.join p.root inner ∧
      address.2 = p.name :: Disk.pieces inner ∧ ∀ piece ∈ Disk.pieces inner, IsPlain piece := by
  have config {file : String} (named : IsName file) : ∃ inner, Path.IsInner inner ∧
      Path.join (Path.join p.root "configs") file = Path.join p.root inner ∧
      [p.name, "configs", file] = p.name :: Disk.pieces inner ∧ ∀ piece ∈ Disk.pieces inner, IsPlain piece := by
    have configs : IsName "configs" := by decide
    have both : ∀ name ∈ ["configs", file], IsName name := by simp [configs, named]
    have pieces := Path.pieces_ofNames both (by simp)
    refine ⟨Path.ofNames ["configs", file], Path.ofNames_isInner both (by simp), ?_, by rw [pieces], ?_⟩
    · exact Path.join_join p.root (Path.isInner_of_isName configs) (Path.isInner_of_isName named)
    · rw [pieces]
      exact fun name member => (both name member).isPlain
  rcases List.mem_cons.mp listed with rfl | listed
  · exact config (by decide)
  rcases List.mem_cons.mp listed with rfl | listed
  · exact config (by decide)
  obtain ⟨t, -, rfl⟩ := List.mem_map.mp listed
  obtain ⟨pieces, plain⟩ := pieces_path uncut t
  refine ⟨Path.ofNames (t.path p.name), isInner_path p.name t, rfl, ?_, ?_⟩
  · rw [pieces]
    rfl
  · rwa [pieces]

/-- Wherever a path of a project leads, that is below the project's own directory in the repository. -/
theorem below_of_address {repository name : String} (component : IsComponent name) {address : String × List String}
    (listed : address ∈ addresses (inRepository repository name)) {q : Disk.Place}
    (located : d.locate address.1 = .ok q) :
    ∃ base, d.locate (Disk.orHere repository) = .ok base ∧ q = Disk.below base address.2 := by
  obtain ⟨inner, ends, path, names, plain⟩ := exists_of_address component.uncut listed
  have ends' := Path.isInner_of_uncut component.plain.1 component.uncut
  have pieces : Disk.pieces (name ++ "/" ++ inner) = address.2 := by
    rw [Path.pieces_slash, Path.pieces_of_uncut component.uncut, names]
    rfl
  have plainAll : ∀ piece ∈ Disk.pieces (name ++ "/" ++ inner), IsPlain piece := by
    rw [pieces, names]
    exact List.forall_mem_cons.mpr ⟨component.plain, plain⟩
  have joined : address.1 = Path.join repository (name ++ "/" ++ inner) :=
    path.trans (Path.join_join repository ends' ends)
  rw [joined] at located
  obtain ⟨base, here, place⟩ := Disk.exists_below_of_locate (ends'.append ends) plainAll located
  exact ⟨base, here, pieces ▸ place⟩

/-- What making a project of a view and generating the models of a project change on any disk. A refusal changes
nothing: that of a view, of a blueprint's file that is not there or holds no blueprint, and of a blueprint that has no
models. Otherwise the files of the operation are stored, unless the disk refuses one of them; no other file changes, and
a second run changes nothing. A view's project is named by one piece of a path, made of letters, digits and underscores,
and all files of a project named by one piece are below the directory of that name in the repository. -/
theorem changes_of_init_and_generate (r : Renderer) (d : Disk) :
    (∀ (repository : String) (v : View),
      (∀ e, Blueprint.ofView v = .error e →
        (init r repository v : OnDisk Project).run.run d = (.error ⟨[.compiling v.reference], .compile e⟩, d)) ∧
      ∀ b, Blueprint.ofView v = .ok b →
        Stores (init r repository v) (ofView repository v) (initFiles r (ofView repository v) b) d) ∧
    (∀ p : Project,
      (∀ fault, d.read p.blueprintPath = .error fault →
        (p.generate r : OnDisk (List String)).run.run d =
          (.error ⟨[.opening p.name, .reading p.blueprintPath], .file fault⟩, d)) ∧
      ∀ text, d.read p.blueprintPath = .ok text →
        (∀ fault, Blueprint.codec.ofText text = .error fault →
          (p.generate r : OnDisk (List String)).run.run d =
            (.error ⟨[.opening p.name, .parsing p.blueprintPath], .json fault⟩, d)) ∧
        ∀ b, Blueprint.codec.ofText text = .ok b →
          (∀ e, Models.ofBlueprint b = .error e →
            (p.generate r : OnDisk (List String)).run.run d = (.error ⟨[.building p.name], .compile e⟩, d)) ∧
          ∀ m, Models.ofBlueprint b = .ok m →
            Stores (p.generate r) (Template.models.map p.templatePath) (generateFiles r p b m) d) ∧
    (∀ v : View, IsComponent v.projectName ∧ ∀ c ∈ v.projectName.toList, Column.isNameChar c) ∧
    ∀ repository name, IsComponent name → ∀ address ∈ addresses (inRepository repository name),
      ∀ q, d.locate address.1 = .ok q →
        ∃ base, d.locate (Disk.orHere repository) = .ok base ∧ q = Disk.below base address.2 := by
  refine ⟨fun repository v => ⟨fun e refused => ?_, fun b compiled => ?_⟩, fun p => ⟨fun fault missing => ?_, ?_⟩,
    fun v => ⟨v.projectName_isComponent, Column.sanitize_isNameChar _⟩, ?_⟩
  · rw [run_init, refused]
  · exact init_stores_files compiled d
  · rw [run_generate, missing]
  · intro text read
    refine ⟨fun fault refused => ?_, fun b parsed => ⟨fun e refused => ?_, fun m built => ?_⟩⟩
    · exact generate_of_unparsed read refused
    · exact generate_of_unbuilt read parsed refused
    · exact generate_stores_files read parsed built
  · intro repository name component address listed q located
    exact below_of_address component listed located

/-- What a view is compiled to and the models of it, if there are any. -/
def modelled? (v : View) : Option (Blueprint × Models) := do
  let b ← (Blueprint.ofView v).toOption
  let m ← (Models.ofBlueprint b).toOption
  return (b, m)

theorem exists_of_modelled? {v : View} {f : Blueprint × Models → α} {result : α}
    (run : (modelled? v).map f = some result) :
    ∃ b m, Blueprint.ofView v = .ok b ∧ Models.ofBlueprint b = .ok m ∧ f (b, m) = result := by
  obtain ⟨_, whole, same⟩ := Option.map_eq_some_iff.mp run
  obtain ⟨b, compiled, rest⟩ := Option.bind_eq_some_iff.mp whole
  obtain ⟨m, built, rest⟩ := Option.bind_eq_some_iff.mp rest
  cases rest
  exact ⟨b, m, eq_ok_of_toOption compiled, eq_ok_of_toOption built, same⟩

/-- In an empty directory a project is made and its models are generated, twice each; before there is a project, none
are generated, and a view of an event without a name is refused. -/
theorem changes_of_init_and_generate_of_visits :
    let v := viewOf "visits_us" "page_view"
    let p := ofView "." v
    ∃ b m, Blueprint.ofView v = .ok b ∧ Models.ofBlueprint b = .ok m ∧
      (p.generate {} : OnDisk (List String)).run.run {} =
        (.error ⟨[.opening p.name, .reading p.blueprintPath], .file .missing⟩, {}) ∧
      (∃ e, (init {} "." (viewOf "visits_us" "") : OnDisk Project).run.run {} =
        (.error ⟨[.compiling (viewOf "visits_us" "").reference], .compile e⟩, {})) ∧
      ∃ started restarted done again,
        (init {} "." v : OnDisk Project).run.run {} = (.ok p, started) ∧
        (∀ f ∈ initFiles {} p b, started.read f.1 = .ok f.2) ∧
        (init {} "." v : OnDisk Project).run.run started = (.ok p, restarted) ∧ Disk.Same started restarted ∧
        (p.generate {} : OnDisk (List String)).run.run started = (.ok (Template.models.map p.templatePath), done) ∧
        (∀ f ∈ generateFiles {} p b m, done.read f.1 = .ok f.2) ∧
        (p.generate {} : OnDisk (List String)).run.run done = (.ok (Template.models.map p.templatePath), again) ∧
        Disk.Same done again := by
  intro v p
  have run : (modelled? v).map (fun (b, _) => (b.floats, (Blueprint.codec.encode b).levels)) = some ([], 8) := by
    decide +kernel
  obtain ⟨b, m, compiled, built, facts⟩ := exists_of_modelled? run
  obtain ⟨floats, levels⟩ : b.floats = [] ∧ (Blueprint.codec.encode b).levels = 8 := by simpa using facts
  have parsed := (Blueprint.ofText_pretty (Blueprint.ofView_storable compiled (by simp [floats]))).1
    (by rw [levels]; decide)
  have missing : ({} : Disk).read p.blueprintPath = .error .missing := by
    have path : p.blueprintPath = "./visits_us_1/configs/base_config.json" := by decide +kernel
    have start : ({} : Disk).origin "./visits_us_1/configs/base_config.json" = [] := ite_self []
    have walked : (Disk.pieces "./visits_us_1/configs/base_config.json").foldlM ({} : Disk).descend [] =
        .error .missing := by decide +kernel
    rw [path, Disk.read, Disk.find, Disk.locate, String.contains_char_eq, start, walked]
    rfl
  have refused : (Blueprint.ofView (viewOf "visits_us" "")).toOption.isSome = false := by decide +kernel
  obtain ⟨e, refused⟩ : ∃ e, Blueprint.ofView (viewOf "visits_us" "") = .error e := by
    cases same : Blueprint.ofView (viewOf "visits_us" "") with
    | error e => exact ⟨e, rfl⟩
    | ok => simp [same, Except.toOption] at refused
  have name : v.projectName = "visits_us_1" := by decide +kernel
  have fits : Fits v.projectName := name ▸ fits_visitsOfUs
  have named := v.projectName_isName fits.short
  obtain ⟨started, first, tree⟩ := init_vacant {} vacant_empty fits compiled m
  have owned := overlay_owned (owned_of_none _) (owns_startFiles (r := {}) (b := b) (m := m) named fits)
  obtain ⟨done, generated, -⟩ := generate_run (r := {}) named fits tree owned (stored_blueprint {} _ b m) parsed built
  obtain ⟨init, generate, -⟩ := changes_of_init_and_generate {} {}
  obtain ⟨-, stored, restarted, second, same⟩ := ((init "." v).2 b compiled).stored _ started first
  have read : started.read p.blueprintPath = .ok (Blueprint.codec.encode b).pretty := stored _ List.mem_cons_self
  have stores := ((((changes_of_init_and_generate {} started).2.1 p).2 _ read).2 b parsed).2 m built
  obtain ⟨-, models, again, last, same'⟩ := stores.stored _ done generated
  exact ⟨b, m, compiled, built, (generate p).1 _ missing, ⟨e, (init "." _).1 e refused⟩, started, restarted, done,
    again, first, stored, second, same, generated, models, last, same'⟩

end AttributeStore.Project
