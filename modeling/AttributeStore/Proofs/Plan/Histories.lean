import AttributeStore.Proofs.Period.Iso
import AttributeStore.Proofs.Plan.Failures
import AttributeStore.Proofs.Plan.Files
import AttributeStore.Proofs.Plan.Reachable
import Mathlib.Data.List.Dedup

/-! Histories of a ledger. Whatever is called on a ledger, its periods are those that have been added, by themselves or
with an attribute that could be compiled, each written once. -/
namespace AttributeStore

namespace Attribute

/-- An attribute that can be compiled. -/
def Compiles (a : Attribute) : Prop := a.fold.isOk ∧ a.validate.isOk

instance (a : Attribute) : Decidable a.Compiles := inferInstanceAs (Decidable (_ ∧ _))

theorem compiles_iff {a : Attribute} : a.Compiles ↔ a.faults = [] := by
  simp only [Compiles, isOk_iff]
  constructor
  · rintro ⟨⟨fold, known⟩, _, valid⟩
    have other : a.aggregation ≠ .mean := fun mean => by cases known.symm.trans (fold_eq_error mean)
    cases faults : a.faults with
    | nil => rfl
    | cons e more => cases valid.symm.trans ((validate_eq other).trans (by rw [faults]))
  · intro none
    have other : a.aggregation ≠ .mean := fun mean => faults_ne_nil_iff.mpr (.inl mean) none
    exact ⟨exists_fold other, (), (validate_eq other).trans (by rw [none]; rfl)⟩

/-- Which paths are bound does not matter to whether there is a plan. -/
theorem planIn_isOk_iff {a : Attribute} {bindings : List Column.Binding} : (a.planIn bindings).isOk ↔ a.Compiles := by
  simp only [Compiles, isOk_iff]
  constructor
  · rintro ⟨p, plan⟩
    obtain ⟨fold, -, known, valid, -, -⟩ := planIn_eq_ok_iff.mp plan
    exact ⟨⟨fold, known⟩, (), valid⟩
  · rintro ⟨⟨fold, known⟩, _, valid⟩
    obtain ⟨daily, named⟩ := exists_dailyColumn known valid (Column.columnIn bindings)
    exact ⟨_, planIn_eq_ok_iff.mpr ⟨fold, daily, known, valid, named, rfl⟩⟩

/-- What compilation returns, whether it fails or not. -/
theorem compile_result (a : Attribute) {l : Ledger} (tidy : Column.Tidy l.bindings) :
    (a.compile.run.run l).1 = a.planIn (Column.registerAll l.bindings a.paths) := by
  obtain ⟨l', run, -⟩ := a.compile_run l tidy
  rw [run]
  rfl

/-- Compilation enters an attribute, or fails and leaves the ledger as it was. -/
theorem compile_ledger (a : Attribute) {l : Ledger} (tidy : Column.Tidy l.bindings) :
    (a.compile.run.run l).2 = if a.Compiles then l.enter a else l := by
  by_cases compiles : a.Compiles
  · obtain ⟨l', run, entered⟩ := compile_run a l tidy
    rw [run, if_pos compiles]
    exact entered (planIn_isOk_iff.mpr compiles)
  · obtain ⟨e, more, faults⟩ := List.exists_cons_of_ne_nil (mt compiles_iff.mpr compiles)
    have run := a.compile_run_faults l
    rw [faults] at run
    rw [if_neg compiles, run]

end Attribute

namespace Ledger

/-- What can be called on a ledger. -/
inductive Call
  | addEvent (e : Event)
  | addPeriod (p : Period)
  | register (path : String)
  | lookUp (path : String)
  | compile (a : Attribute)

def call (l : Ledger) : Call → Ledger
  | .addEvent e => (l.addEvent e).1
  | .addPeriod p => l.addPeriod p
  | .register path => (l.register path).1
  | .lookUp _ => l
  | .compile a => (a.compile.run.run l).2

/-- The ledger after some calls, made one after another on an empty one. -/
def after (calls : List Call) : Ledger := calls.foldl call {}

theorem after_reachable (calls : List Call) : (after calls).Reachable := by
  induction calls using List.reverseRecOn with
  | nil => exact .empty
  | append_singleton calls last ih =>
    rw [after, List.foldl_append]
    cases last with
    | addEvent e => exact ih.addEvent e
    | addPeriod p => exact ih.addPeriod p
    | register path => exact ih.register path
    | lookUp path => exact ih
    | compile a => exact a.compile_keeps _ ih

/-- The events that a call records; a compilation that fails records none. -/
def Call.events : Call → List Event
  | .addEvent e => [e]
  | .compile a => if a.Compiles then a.events else []
  | _ => []

/-- The paths that a call registers. -/
def Call.paths : Call → List String
  | .register path => [path]
  | .compile a => if a.Compiles then a.paths else []
  | _ => []

/-- The period that a call adds. -/
def Call.period? : Call → Option Period
  | .addPeriod p => some p
  | .compile a => if a.Compiles then a.period else none
  | _ => none

/-- What a call does to a ledger: its events and its paths come behind those that are there, and its period to its
place. -/
theorem call_eq {l : Ledger} (tidy : Column.Tidy l.bindings) (c : Call) :
    l.call c = ⟨record l.events c.events, Column.registerAll l.bindings c.paths,
      c.period?.elim l.periods fun p => insertSorted p.iso l.periods⟩ := by
  cases c with
  | addEvent e => exact addEvent_eq e l
  | addPeriod p => rfl
  | register path => rfl
  | lookUp path => rfl
  | compile a =>
    rw [call, a.compile_ledger tidy, Call.events, Call.paths, Call.period?]
    by_cases compiles : a.Compiles
    · simp only [if_pos compiles, enter]
    · simp only [if_neg compiles]
      rfl

theorem after_append (calls : List Call) (last : Call) : after (calls ++ [last]) = (after calls).call last := by
  simp [after]

theorem periods_ascending (calls : List Call) : (after calls).periods.Pairwise (· < ·) := by
  induction calls using List.reverseRecOn with
  | nil => exact .nil
  | append_singleton calls last ih =>
    rw [after_append, call_eq (after_reachable calls).tidy]
    cases last.period? with
    | none => exact ih
    | some p => exact insertSorted_pairwise ih

theorem mem_periods {calls : List Call} {s : String} :
    s ∈ (after calls).periods ↔ s ∈ (calls.filterMap Call.period?).map Period.iso := by
  induction calls using List.reverseRecOn with
  | nil => exact iff_of_false List.not_mem_nil List.not_mem_nil
  | append_singleton calls last ih =>
    rw [after_append, call_eq (after_reachable calls).tidy, List.filterMap_append, List.map_append,
      List.mem_append, ← ih]
    cases added : last.period? with
    | none => simp [added]
    | some p => simp [added, mem_insertSorted, or_comm]

/-- The periods of a ledger are the texts of the periods that were added, one for each. -/
theorem periods_perm (calls : List Call) :
    (after calls).periods.Perm ((calls.filterMap Call.period?).dedup.map Period.iso) := by
  have once : (after calls).periods.Nodup := (periods_ascending calls).imp String.ne_of_lt
  have apart : ((calls.filterMap Call.period?).dedup.map Period.iso).Nodup :=
    (List.nodup_dedup _).map Period.iso_injective
  refine (List.perm_ext_iff_of_nodup once apart).mpr fun s => ?_
  simp only [mem_periods, List.mem_map, List.mem_dedup]

end Ledger

/-- A period is read from its ISO text, so that no two periods have one text, and a ledger has one text for each of
its periods. -/
theorem Period.iso_faithful : (∀ p : Period, parse p.iso = .ok p) ∧ Function.Injective iso ∧
    ∀ calls : List Ledger.Call,
      (Ledger.after calls).periods.Perm ((calls.filterMap Ledger.Call.period?).dedup.map iso) :=
  ⟨parse_iso, iso_injective, Ledger.periods_perm⟩

end AttributeStore
