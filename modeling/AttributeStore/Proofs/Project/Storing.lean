import AttributeStore.Proofs.Disk.FileNames
import AttributeStore.Proofs.Disk.Settled
import AttributeStore.Proofs.Project.Operations

/-! Files that are stored on any disk, whatever stands there. No other file changes, and storing them again changes
nothing. -/
namespace AttributeStore.Project

open Disk (IsPlain)

variable {d d' : Disk} {files : List (String × String)}

/-! One file. -/

theorem exists_of_store {path text : String} {u : Unit}
    (run : (store path text : OnDisk Unit).run.run d = (.ok u, d')) :
    ∃ opened, d.makeDirectories (Path.parent path) = (opened, .ok ()) ∧ opened.write path text = .ok d' := by
  rw [run_store] at run
  split at run
  case h_1 => cases run
  case h_2 opened made =>
    refine ⟨opened, made, ?_⟩
    split at run
    case h_1 => cases run
    case h_2 written =>
      cases run
      exact written

/-- A stored file stands where its path leads, and all other files are as they were. -/
theorem confined_of_store {path text : String} {u : Unit}
    (run : (store path text : OnDisk Unit).run.run d = (.ok u, d')) :
    ∃ p, d'.locate path = .ok p ∧ d'.entry? p = some (.file text) ∧ Disk.Confined (· = p) d d' := by
  obtain ⟨opened, made, written⟩ := exists_of_store run
  obtain ⟨p, located, free, rfl⟩ := Disk.exists_of_write written
  have grown := Disk.put_confined text free
  have before : Disk.Confined (fun _ => False) d opened := by
    simpa [made] using Disk.makeDirectories_confined (d := d) (Path.parent path)
  refine ⟨p, grown.locate located, ?_, (before.mono fun _ => False.elim).trans grown⟩
  rw [Disk.entry?_written free, if_pos rfl]

/-- A file cannot be stored, because its directory cannot be made or it cannot be written there. -/
def Refuses (d : Disk) (path text : String) (fault : Disk.Fault) : Prop :=
  ∃ opened, d.makeDirectories (Path.parent path) = (opened, .error fault) ∨
    d.makeDirectories (Path.parent path) = (opened, .ok ()) ∧ opened.write path text = .error fault

/-- A file that is not stored is refused by the disk, and no file has changed. -/
theorem refuses_of_store {path text : String} {e : Failure}
    (run : (store path text : OnDisk Unit).run.run d = (.error e, d')) :
    (∃ fault, e.cause = .file fault ∧ Refuses d path text fault) ∧ Disk.Confined (fun _ => False) d d' := by
  have confined := Disk.makeDirectories_confined (d := d) (Path.parent path)
  rw [run_store] at run
  split at run
  case h_1 opened fault made =>
    cases run
    rw [made] at confined
    exact ⟨⟨fault, rfl, _, .inl made⟩, confined⟩
  case h_2 opened made =>
    rw [made] at confined
    split at run
    case h_1 fault written =>
      cases run
      exact ⟨⟨fault, rfl, _, .inr ⟨made, written⟩⟩, confined⟩
    case h_2 => cases run

theorem settled_of_store {path text : String} {u : Unit}
    (run : (store path text : OnDisk Unit).run.run d = (.ok u, d')) : Disk.Settled d' path text := by
  obtain ⟨opened, made, written⟩ := exists_of_store run
  obtain ⟨p, located, there, -⟩ := confined_of_store run
  obtain ⟨place, -, free, rfl⟩ := Disk.exists_of_write written
  exact ⟨Disk.makeDirectories_again made (Disk.put_extends text free), p, located, there⟩

theorem store_again {path text : String} (settled : Disk.Settled d path text) :
    ∃ d', (store path text : OnDisk Unit).run.run d = (.ok (), d') ∧ Disk.Same d d' := by
  obtain ⟨d', written, same⟩ := settled.write
  exact ⟨d', store_run settled.opened written, same⟩

/-! Several files. -/

/-- A place to which the path of one of some files leads. -/
def Leads (d : Disk) (files : List (String × String)) (q : Disk.Place) : Prop := ∃ f ∈ files, d.locate f.1 = .ok q

/-- Whether or not all files have been stored, no others have changed. -/
theorem storeAll_confined {outcome : Except Failure Unit}
    (run : (storeAll files : OnDisk Unit).run.run d = (outcome, d')) : Disk.Confined (Leads d' files) d d' := by
  induction files generalizing d with
  | nil =>
    cases run
    exact .refl _ _
  | cons f rest ih =>
    rw [storeAll, OnDisk.run_bind] at run
    split at run
    case h_1 stored first =>
      obtain ⟨p, located, -, confined⟩ := confined_of_store first
      have later := ih run
      have here : ∀ q, q = p → Leads d' (f :: rest) q := by
        rintro q rfl
        exact ⟨f, List.mem_cons_self, later.toExtends.locate located⟩
      have others : ∀ q, Leads d' rest q → Leads d' (f :: rest) q := by
        rintro q ⟨g, member, leads⟩
        exact ⟨g, List.mem_cons_of_mem _ member, leads⟩
      exact (confined.mono here).trans (later.mono others)
    case h_2 fault stored first =>
      cases run
      exact (refuses_of_store first).2.mono fun _ => False.elim

/-- Files are stored in their order up to one that the disk refuses. -/
structure StoppedAt (files : List (String × String)) (d : Disk) (e : Failure) (before : List (String × String))
    (f : String × String) : Prop where
  ahead : before ++ [f] <+: files
  refused : ∃ stored fault, (storeAll before : OnDisk Unit).run.run d = (.ok (), stored) ∧ e.cause = .file fault ∧
    Refuses stored f.1 f.2 fault

theorem stoppedAt_of_storeAll {e : Failure} (run : (storeAll files : OnDisk Unit).run.run d = (.error e, d')) :
    ∃ before f, StoppedAt files d e before f := by
  induction files generalizing d with
  | nil => cases run
  | cons f rest ih =>
    rw [storeAll, OnDisk.run_bind] at run
    split at run
    case h_1 u stored first =>
      obtain ⟨before, g, ahead, last, fault, run', cause, refused⟩ := ih run
      refine ⟨f :: before, g, List.cons_prefix_cons.mpr ⟨rfl, ahead⟩, last, fault, ?_, cause, refused⟩
      rw [storeAll, OnDisk.run_bind, first]
      exact run'
    case h_2 first =>
      cases run
      obtain ⟨⟨fault, cause, refused⟩, -⟩ := refuses_of_store first
      exact ⟨[], f, List.cons_prefix_cons.mpr ⟨rfl, List.nil_prefix⟩, d, fault, rfl, cause, refused⟩

theorem storeAll_cons {path text : String} {rest : List (String × String)} {u : Unit}
    (run : (storeAll ((path, text) :: rest) : OnDisk Unit).run.run d = (.ok u, d')) :
    ∃ stored, (store path text : OnDisk Unit).run.run d = (.ok (), stored) ∧
      (storeAll rest : OnDisk Unit).run.run stored = (.ok u, d') := by
  rw [storeAll, OnDisk.run_bind] at run
  split at run
  case h_1 first => exact ⟨_, first, run⟩
  case h_2 => cases run

/-- Files whose last names are plain and pairwise different, so that no two of them are ever one. -/
structure Apart (files : List (String × String)) : Prop where
  plain : ∀ f ∈ files, IsPlain (Path.fileName f.1)
  distinct : (files.map fun f => Path.fileName f.1).Nodup

theorem settled_of_storeAll (apart : Apart files) {u : Unit}
    (run : (storeAll files : OnDisk Unit).run.run d = (.ok u, d')) : ∀ f ∈ files, Disk.Settled d' f.1 f.2 := by
  induction files generalizing d with
  | nil => simp
  | cons f rest ih =>
    obtain ⟨stored, first, later⟩ := storeAll_cons run
    obtain ⟨other, distinct⟩ := List.nodup_cons.mp apart.distinct
    have plain := List.forall_mem_cons.mp apart.plain
    refine List.forall_mem_cons.mpr ⟨?_, ih ⟨plain.2, distinct⟩ later⟩
    -- The files that are stored later have other last names, so none of them comes to stand in this one's place.
    refine (settled_of_store first).confined (storeAll_confined later) ?_
    rintro q leads ⟨g, member, leads'⟩
    have same := Disk.fileName_eq_of_locate plain.1 (plain.2 g member) leads leads'
    exact other (List.mem_map.mpr ⟨g, member, same.symm⟩)

theorem storeAll_again (settled : ∀ f ∈ files, Disk.Settled d f.1 f.2) :
    ∃ d', (storeAll files : OnDisk Unit).run.run d = (.ok (), d') ∧ Disk.Same d d' := by
  induction files generalizing d with
  | nil => exact ⟨d, rfl, .refl d⟩
  | cons f rest ih =>
    obtain ⟨here, others⟩ := List.forall_mem_cons.mp settled
    obtain ⟨stored, first, same⟩ := store_again here
    obtain ⟨d', later, same'⟩ := ih fun g member => (others g member).same same
    refine ⟨d', ?_, same.trans same'⟩
    rw [storeAll, OnDisk.run_bind, first]
    exact later

/-! Operations that store files. -/

/-- An operation that stores some files and then has a result. No other file changes. If it succeeds, the files are
there, and it succeeds again without a change; it fails only at a file that the disk refuses. -/
structure Stores (x : OnDisk α) (result : α) (files : List (String × String)) (d : Disk) : Prop where
  confined : ∀ outcome d', x.run.run d = (outcome, d') → Disk.Confined (Leads d' files) d d'
  stored : ∀ a d', x.run.run d = (.ok a, d') → a = result ∧ (∀ f ∈ files, d'.read f.1 = .ok f.2) ∧
    ∃ d'', x.run.run d' = (.ok result, d'') ∧ Disk.Same d' d''
  failed : ∀ e d', x.run.run d = (.error e, d') → ∃ before f, StoppedAt files d e before f

/-- It is enough that an operation stores its files on the disk at hand, and on those that are like it but for these
files. -/
theorem stores_of_run {x : OnDisk α} {result : α} (apart : Apart files)
    (here : x.run.run d = (storing files result).run.run d)
    (again : ∀ d', Disk.Confined (Leads d' files) d d' → x.run.run d' = (storing files result).run.run d') :
    Stores x result files d := by
  rw [run_storing] at here
  generalize same : (storeAll files : OnDisk Unit).run.run d = run at here
  obtain ⟨outcome, stored⟩ := run
  refine ⟨fun _ d' run => ?_, fun a d' run => ?_, fun e d' run => ?_⟩
  · cases here.symm.trans run
    exact storeAll_confined same
  · cases outcome with
    | error => cases here.symm.trans run
    | ok u =>
      cases here.symm.trans run
      have settled := settled_of_storeAll apart same
      obtain ⟨d'', later, unchanged⟩ := storeAll_again settled
      refine ⟨rfl, fun f member => (settled f member).read, d'', ?_, unchanged⟩
      rw [again stored (storeAll_confined same), run_storing, later]
      rfl
  · cases outcome with
    | ok => cases here.symm.trans run
    | error =>
      cases here.symm.trans run
      exact stoppedAt_of_storeAll same

end AttributeStore.Project
