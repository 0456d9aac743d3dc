import AttributeStore.Proofs.Column.Sanitized
import AttributeStore.Proofs.Project.Generation
import AttributeStore.Proofs.Project.Storing

/-! Projects side by side in a repository. Initializing views one after the other leaves in each project the blueprint
of the last view of its name, and two views have one project if their names are sanitized to one and their versions
agree. -/
namespace AttributeStore

/-- A view's name as a project keeps it, with the version. -/
def View.sanitizedReference (v : View) : ViewReference := ⟨Column.sanitize v.name, v.version⟩

namespace View

variable {v w : View}

theorem version_toList (v : View) : (toString v.version).toList = Nat.toDigits 10 v.version.toNat := by
  rw [show toString v.version = toString v.version.toNat from rfl, Nat.toString_eq_ofList_toDigits,
    String.toList_ofList]

theorem version_isNameChar (v : View) : ∀ c ∈ (toString v.version).toList, Column.isNameChar c := by
  intro c member
  rw [version_toList] at member
  exact Column.isNameChar_of_isDigit (Nat.isDigit_of_mem_toDigits (by decide) (by decide) member)

theorem underscore_notMem_version (v : View) : '_' ∉ (toString v.version).toList := by
  intro member
  rw [version_toList] at member
  exact absurd (Nat.isDigit_of_mem_toDigits (by decide) (by decide) member) (by decide)

theorem projectName_eq (v : View) : v.projectName = Column.sanitize v.name ++ "_" ++ toString v.version := by
  have interpolated : v.projectName = Column.sanitize (v.name ++ "_" ++ toString v.version) := rfl
  rw [interpolated, Column.sanitize_append _ v.version_isNameChar]

theorem projectName_eq_iff : v.projectName = w.projectName ↔ v.sanitizedReference = w.sanitizedReference := by
  rw [sanitizedReference, sanitizedReference, ViewReference.mk.injEq, projectName_eq, projectName_eq]
  refine ⟨fun same => ?_, fun ⟨name, version⟩ => by rw [name, version]⟩
  have chars (u : View) : (Column.sanitize u.name ++ "_" ++ toString u.version).toList =
      (Column.sanitize u.name).toList ++ '_' :: (toString u.version).toList := by
    simp [String.toList_append]
  have lists := congrArg String.toList same
  rw [chars, chars, Text.append_cons_inj v.underscore_notMem_version w.underscore_notMem_version] at lists
  obtain ⟨names, versions⟩ := lists
  rw [version_toList, version_toList] at versions
  exact ⟨String.toList_injective names, UInt32.toNat_inj.mp (Column.toDigits_injective versions)⟩

end View

namespace Project

open Disk (IsName)

variable {repository : String} {r : Renderer} {v w : View} {d d' : Disk}

/-! Two projects have one directory if they have one name. -/

theorem isInner_projectName (v : View) : Path.IsInner v.projectName :=
  Path.isInner_of_uncut v.projectName_isComponent.plain.1 v.projectName_isComponent.uncut

theorem ofView_root (repository : String) (v : View) :
    (ofView repository v).root = Path.join repository v.projectName := by
  rw [ofView, inRepository]

theorem root_eq_iff : (ofView repository v).root = (ofView repository w).root ↔
    v.sanitizedReference = w.sanitizedReference := by
  rw [← View.projectName_eq_iff, ofView_root, ofView_root]
  refine ⟨fun joined => ?_, congrArg _⟩
  rw [Path.join_eq repository (isInner_projectName v), Path.join_eq repository (isInner_projectName w)] at joined
  refine String.toList_injective ?_
  split at joined
  · rw [joined]
  · split at joined <;>
    · have lists := congrArg String.toList joined
      simpa [String.toList_append] using lists

/-! What a successful initialization has written. -/

/-- Files under other names are as they were. -/
theorem storeAll_spares {names : List String} {q : Disk.Place} (named : ∀ name ∈ names, IsName name) (some : names ≠ [])
    (located : d.locate (Path.join repository (Path.ofNames names)) = .ok q) {new : List (String × String)}
    (others : ∀ f ∈ new, ∃ own, f.1 = Path.join repository (Path.ofNames own) ∧ (∀ name ∈ own, IsName name) ∧
      own ≠ [] ∧ own ≠ names) {u : Unit} (run : (storeAll new : OnDisk Unit).run.run d = (.ok u, d')) :
    Disk.Spares q d d' := by
  have confined := storeAll_confined run
  refine confined.spares ?_
  rintro ⟨f, member, leads⟩
  obtain ⟨own, path, namedOwn, someOwn, other⟩ := others f member
  have here := confined.toExtends.locate located
  exact other (Disk.names_eq_of_locate namedOwn someOwn named some (path ▸ leads) here)

theorem mem_pieces_projectName (repository : String) (v : View) :
    v.projectName ∈ Disk.pieces (ofView repository v).blueprintPath := by
  have configs : IsName "configs" ∧ IsName "base_config.json" := by decide
  have inner := isInner_projectName v
  have ending := (Path.isInner_of_isName configs.1).append (Path.isInner_of_isName configs.2)
  have path : (ofView repository v).blueprintPath =
      Path.join repository (v.projectName ++ "/" ++ ("configs" ++ "/" ++ "base_config.json")) := by
    rw [blueprintPath, Path.join_join _ (Path.isInner_of_isName configs.1) (Path.isInner_of_isName configs.2),
      ofView_root, Path.join_join repository inner ending]
  rw [path, Path.pieces_join_inner repository (inner.append ending), Path.pieces_slash,
    Path.pieces_of_uncut v.projectName_isComponent.uncut]
  simp

/-- The files of the scaffold are named the same in all projects. -/
theorem path_of_scaffold (project : String) {t : Template} (member : t ∈ Template.scaffold) :
    t.path project ≠ [] ∧ ∀ name ∈ t.path project, IsName name := by
  simp only [Template.scaffold, List.mem_cons, List.not_mem_nil, or_false] at member
  have parts : ∀ name ∈ ["dbt_project.yml", "models", "sources.yml"], IsName name := by decide
  simp only [List.forall_mem_cons] at parts
  rcases member with rfl | rfl <;> simp [Template.path, parts]

/-- The names of a file of the scaffold. -/
theorem scaffoldPath_eq (repository : String) {project : String} (named : IsName project) {t : Template}
    (member : t ∈ Template.scaffold) :
    (inRepository repository project).templatePath t = Path.join repository (Path.ofNames (templateNames project t)) ∧
      ∀ name ∈ templateNames project t, IsName name := by
  have known := path_of_scaffold project member
  exact ⟨join_root repository named known.2 known.1, List.forall_mem_cons.mpr ⟨named, known.2⟩⟩

theorem templateNames_ne_blueprintNames {project other : String} {t : Template} :
    templateNames project t ≠ blueprintNames other := by
  cases t <;> simp [templateNames, Template.path, blueprintNames]

/-- An initialization that succeeds has stored all its files. -/
theorem exists_of_init {p : Project} (run : (init r repository v : OnDisk Project).run.run d = (.ok p, d')) :
    ∃ b, Blueprint.ofView v = .ok b ∧
      (storeAll (initFiles r (ofView repository v) b) : OnDisk Unit).run.run d = (.ok (), d') := by
  rw [run_init] at run
  split at run
  case h_1 => cases run
  case h_2 b compiled =>
    refine ⟨b, compiled, ?_⟩
    rw [run_storing] at run
    generalize (storeAll (initFiles r (ofView repository v) b) : OnDisk Unit).run.run d = stored at run
    obtain ⟨outcome, last⟩ := stored
    cases outcome with
    | error => cases run
    | ok =>
      cases run
      rfl

/-- What an initialization does to any disk, if it succeeds: it stores the compiled blueprint, and the blueprints of
other projects are as they were. -/
theorem init_stores {p : Project} (run : (init r repository v : OnDisk Project).run.run d = (.ok p, d')) :
    ∃ b q, Blueprint.ofView v = .ok b ∧ IsName v.projectName ∧
      d'.locate (ofView repository v).blueprintPath = .ok q ∧
      d'.entry? q = some (.file (Blueprint.codec.encode b).pretty) ∧
      ∀ other q', IsName other → other ≠ v.projectName →
        d.locate (inRepository repository other).blueprintPath = .ok q' → Disk.Spares q' d d' := by
  obtain ⟨b, compiled, run⟩ := exists_of_init run
  obtain ⟨stored, first, rest⟩ := storeAll_cons run
  obtain ⟨q, located, there, confined⟩ := confined_of_store first
  have named : IsName v.projectName :=
    v.projectName_isName (Disk.short_of_locate located _ (mem_pieces_projectName repository v))
  have scaffold (other : String) : ∀ f ∈ (initFiles r (ofView repository v) b).tail,
      ∃ own, f.1 = Path.join repository (Path.ofNames own) ∧ (∀ name ∈ own, IsName name) ∧ own ≠ [] ∧
        own ≠ blueprintNames other := by
    intro f member
    obtain ⟨t, listed, path⟩ : ∃ t ∈ Template.scaffold, f.1 = (ofView repository v).templatePath t := by
      simp only [initFiles, List.tail_cons, List.mem_cons, List.not_mem_nil, or_false] at member
      rcases member with rfl | rfl
      · exact ⟨.project, by decide, rfl⟩
      · exact ⟨.sources, by decide, rfl⟩
    obtain ⟨place, names⟩ := scaffoldPath_eq repository named listed
    exact ⟨_, path.trans place, names, List.cons_ne_nil _ _, templateNames_ne_blueprintNames⟩
  have own := (owns_blueprint v.projectName).isName named
  have path : (ofView repository v).blueprintPath =
      Path.join repository (Path.ofNames (blueprintNames v.projectName)) := blueprintPath_eq repository named
  have spared := storeAll_spares own (List.cons_ne_nil _ _) (path ▸ located) (scaffold v.projectName) rest
  refine ⟨b, q, compiled, named, spared.toExtends.locate located, spared.file _ there, ?_⟩
  intro other q' namedOther different leads
  rw [blueprintPath_eq repository namedOther] at leads
  have ownOther := (owns_blueprint other).isName namedOther
  have apart : q' ≠ q := by
    rintro rfl
    have same := Disk.names_eq_of_locate ownOther (List.cons_ne_nil _ _) own (List.cons_ne_nil _ _)
      (confined.locate leads) (path ▸ located)
    exact different (List.cons.inj same).1
  exact (confined.spares apart).trans
    (storeAll_spares ownOther (List.cons_ne_nil _ _) (confined.locate leads) (scaffold other) rest)

/-! Views initialized one after the other. -/

/-- Views are initialized in their order, by any renderers and all with success. -/
inductive Inits (repository : String) : List View → Disk → Disk → Prop
  | none {d : Disk} : Inits repository [] d d
  | more {views : List View} {v : View} {d d' d'' : Disk} {p : Project} (before : Inits repository views d d')
      (r : Renderer) (run : (init r repository v : OnDisk Project).run.run d' = (.ok p, d'')) :
      Inits repository (views ++ [v]) d d''

/-- The last of some views that is like a view in something. -/
def lastLike [DecidableEq κ] (key : View → κ) (views : List View) (v : View) : Option View :=
  (views.filter fun w => key w = key v).getLast?

/-- The file of a project's blueprint holds what a view is compiled to. -/
def Holds (d : Disk) (p : Project) (v : View) : Prop :=
  ∃ b, Blueprint.ofView v = .ok b ∧ d.read p.blueprintPath = .ok (Blueprint.codec.encode b).pretty

variable {views : List View}

theorem lastLike_concat [DecidableEq κ] (key : View → κ) (views : List View) (v w : View) :
    lastLike key (views ++ [w]) v = if key w = key v then some w else lastLike key views v := by
  by_cases same : key w = key v <;> simp [lastLike, same]

theorem lastLike_congr [DecidableEq κ] [DecidableEq μ] {key : View → κ} {other : View → μ}
    (alike : ∀ w ∈ views, key w = key v ↔ other w = other v) : lastLike key views v = lastLike other views v := by
  have same : (views.filter fun w => key w = key v) = views.filter fun w => other w = other v :=
    List.filter_congr fun w member => by simp [alike w member]
  rw [lastLike, lastLike, same]

/-- A place that keeps the blueprint of a view for all initializations of other projects. -/
structure Kept (repository : String) (d : Disk) (v w : View) : Prop where
  named : IsName v.projectName
  stored : ∃ b q, Blueprint.ofView w = .ok b ∧ d.locate (ofView repository v).blueprintPath = .ok q ∧
    d.entry? q = some (.file (Blueprint.codec.encode b).pretty)

theorem Kept.holds (kept : Kept repository d v w) : Holds d (ofView repository v) w := by
  obtain ⟨b, q, compiled, located, there⟩ := kept.stored
  exact ⟨b, compiled, Disk.read_of_file located there⟩

/-- After some initializations every project keeps the blueprint of the last view that has its name. -/
theorem kept_of_inits (calls : Inits repository views d d') :
    ∀ v ∈ views, ∃ w, lastLike View.projectName views v = some w ∧ Kept repository d' v w := by
  induction calls with
  | none => simp
  | @more views last d d' d'' p before r run ih =>
    obtain ⟨b, q, compiled, named, located, there, spares⟩ := init_stores run
    intro v member
    rw [lastLike_concat]
    by_cases same : last.projectName = v.projectName
    · have project : ofView repository v = ofView repository last := by rw [ofView, ofView, same]
      exact ⟨last, if_pos same, same ▸ named, b, q, compiled, project ▸ located, there⟩
    · have earlier : v ∈ views := by
        rcases List.mem_append.mp member with earlier | new
        · exact earlier
        · exact absurd (congrArg _ (List.mem_singleton.mp new)).symm same
      obtain ⟨w, found, kept⟩ := ih v earlier
      obtain ⟨b', q', compiled', located', there'⟩ := kept.stored
      have spared := spares v.projectName q' kept.named (Ne.symm same) located'
      exact ⟨w, (if_neg same).trans found, kept.named, b', q', compiled', spared.toExtends.locate located',
        spared.file _ there'⟩

/-- What the projects of a repository hold after views have been initialized in it, whatever was there before. A
project belongs to all views of one version whose names are sanitized to one name, and the last of them counts. So each
view has a project of its own exactly if sanitizing keeps the names of one version apart, and then the last view of the
very name and version counts. -/
theorem blueprints_of_inits (calls : Inits repository views d d') :
    (∀ v ∈ views, ∃ w, lastLike View.sanitizedReference views v = some w ∧ Holds d' (ofView repository v) w) ∧
    (∀ v w : View, (ofView repository v).root = (ofView repository w).root ↔
      v.sanitizedReference = w.sanitizedReference) ∧
    ((∀ v ∈ views, ∀ w ∈ views, v.sanitizedReference = w.sanitizedReference → v.reference = w.reference) →
      ∀ v ∈ views, ∃ w, lastLike View.reference views v = some w ∧ Holds d' (ofView repository v) w) := by
  have held : ∀ v ∈ views, ∃ w, lastLike View.sanitizedReference views v = some w ∧
      Holds d' (ofView repository v) w := by
    intro v member
    obtain ⟨w, found, kept⟩ := kept_of_inits calls v member
    exact ⟨w, (lastLike_congr fun _ _ => View.projectName_eq_iff).symm.trans found, kept.holds⟩
  refine ⟨held, fun _ _ => root_eq_iff, fun apart v member => ?_⟩
  obtain ⟨w, found, holds⟩ := held v member
  refine ⟨w, (lastLike_congr fun u other => ⟨fun same => ?_, apart u other v member⟩).trans found, holds⟩
  obtain ⟨name, version⟩ := ViewReference.mk.inj same
  rw [View.sanitizedReference, View.sanitizedReference, name, version]

/-! A view that is initialized again, and views whose names are spelled differently. -/

/-- A view of one counter. -/
def viewOf (name event : String) : View :=
  { View.ofEntity name 1 ⟨"user", some "user_id", none⟩ with
    attributes := [.ofEvents "events_of_user" .counter [⟨"com.acme", event, "1-0-0"⟩]] }

theorem fits_visitsOfUs : Fits "visits_us_1" := by
  intro t
  cases t <;> decide

/-- Two views of one project are initialized in an empty directory. -/
theorem inits_of_shared {v w : View} {b b' : Blueprint} (compiled : Blueprint.ofView v = .ok b)
    (compiled' : Blueprint.ofView w = .ok b') (shared : v.projectName = w.projectName) (fits : Fits v.projectName) :
    ∃ d, Inits "." [v, w] {} d := by
  have named : IsName v.projectName := v.projectName_isName fits.short
  let unused : Models := ⟨⟨[], []⟩, {}, {}⟩
  obtain ⟨first, run, tree⟩ := init_vacant {} vacant_empty fits compiled unused
  have owned := overlay_owned (owned_of_none _) (owns_startFiles (r := {}) (b := b) (m := unused) named fits)
  obtain ⟨second, run', -⟩ := init_run (r := {}) tree (shared ▸ owned) (shared ▸ fits) compiled' unused
  exact ⟨second, .more (.more .none {} run) {} run'⟩

/-- The texts of two views' blueprints. -/
def texts? (v w : View) : Option (String × String) := do
  let b ← (Blueprint.ofView v).toOption
  let b' ← (Blueprint.ofView w).toOption
  return ((Blueprint.codec.encode b).pretty, (Blueprint.codec.encode b').pretty)

theorem exists_of_texts? {v w : View} {f : String × String → α} {result : α} (run : (texts? v w).map f = some result) :
    ∃ b b', Blueprint.ofView v = .ok b ∧ Blueprint.ofView w = .ok b' ∧
      f ((Blueprint.codec.encode b).pretty, (Blueprint.codec.encode b').pretty) = result := by
  obtain ⟨_, whole, same⟩ := Option.map_eq_some_iff.mp run
  obtain ⟨b, compiled, rest⟩ := Option.bind_eq_some_iff.mp whole
  obtain ⟨b', compiled', rest⟩ := Option.bind_eq_some_iff.mp rest
  cases rest
  exact ⟨b, b', eq_ok_of_toOption compiled, eq_ok_of_toOption compiled', same⟩

theorem blueprints_of_changed_view : ∃ d,
    Inits "." [viewOf "visits_us" "page_view", viewOf "visits_us" "page_ping"] {} d ∧
    Holds d (ofView "." (viewOf "visits_us" "page_view")) (viewOf "visits_us" "page_ping") := by
  have run : (texts? (viewOf "visits_us" "page_view") (viewOf "visits_us" "page_ping")).map (fun _ => ()) =
      some () := by decide +kernel
  obtain ⟨b, b', compiled, compiled', -⟩ := exists_of_texts? run
  have name : (viewOf "visits_us" "page_view").projectName = "visits_us_1" := by decide +kernel
  obtain ⟨d, calls⟩ := inits_of_shared compiled compiled' rfl (name ▸ fits_visitsOfUs)
  obtain ⟨w, last, holds⟩ := (blueprints_of_inits calls).2.2 (by simp [viewOf, View.reference, View.ofEntity])
    (viewOf "visits_us" "page_view") (by simp)
  have same : w = viewOf "visits_us" "page_ping" := by
    simpa [lastLike, View.reference, viewOf, View.ofEntity] using last.symm
  exact ⟨d, calls, same ▸ holds⟩

/-- A hyphen and an underscore are one to a project, so the second of two views replaces the first. -/
theorem blueprints_of_two_spellings : ∃ d,
    Inits "." [viewOf "visits-us" "page_view", viewOf "visits_us" "page_ping"] {} d ∧
    (viewOf "visits-us" "page_view").reference ≠ (viewOf "visits_us" "page_ping").reference ∧
    (ofView "." (viewOf "visits-us" "page_view")).root = (ofView "." (viewOf "visits_us" "page_ping")).root ∧
    ¬∃ w, lastLike View.reference [viewOf "visits-us" "page_view", viewOf "visits_us" "page_ping"]
        (viewOf "visits-us" "page_view") = some w ∧ Holds d (ofView "." (viewOf "visits-us" "page_view")) w := by
  have run : (texts? (viewOf "visits-us" "page_view") (viewOf "visits_us" "page_ping")).map
      (fun texts => decide (texts.1 = texts.2)) = some false := by decide +kernel
  obtain ⟨b, b', compiled, compiled', different⟩ := exists_of_texts? run
  have name : (viewOf "visits-us" "page_view").projectName = "visits_us_1" := by decide +kernel
  have name' : (viewOf "visits_us" "page_ping").projectName = "visits_us_1" := by decide +kernel
  have project : ofView "." (viewOf "visits-us" "page_view") = ofView "." (viewOf "visits_us" "page_ping") := by
    rw [ofView, ofView, name, name']
  obtain ⟨d, calls⟩ := inits_of_shared compiled compiled' (name.trans name'.symm) (name ▸ fits_visitsOfUs)
  refine ⟨d, calls, by simp [viewOf, View.reference, View.ofEntity], congrArg _ project, ?_⟩
  rintro ⟨w, last, c, compiledLast, stored⟩
  have same : w = viewOf "visits-us" "page_view" := by
    simpa [lastLike, View.reference, viewOf, View.ofEntity] using last.symm
  obtain ⟨u, found, kept⟩ := kept_of_inits calls (viewOf "visits-us" "page_view") (by simp)
  have replaced : u = viewOf "visits_us" "page_ping" := by simpa [lastLike, name, name'] using found.symm
  obtain ⟨c', compiledKept, stored'⟩ := kept.holds
  rw [same, compiled] at compiledLast
  rw [replaced, compiled'] at compiledKept
  cases compiledLast
  cases compiledKept
  exact of_decide_eq_false different (Except.ok.inj (stored.symm.trans stored'))

end Project

end AttributeStore
