import AttributeStore.Proofs.Plan.Compilation

/-! Ledgers that can come about. They are what recording leaves, one event, period or path after another; compilation
does no more to them, and not even a failure leaves another kind behind. -/
namespace AttributeStore

/-- A ledger that can come about: an empty one, and what recording leaves of another. -/
inductive Ledger.Reachable : Ledger → Prop
  | empty : Reachable {}
  | addEvent (e : Event) : Reachable l → Reachable (l.addEvent e).1
  | addPeriod (p : Period) : Reachable l → Reachable (l.addPeriod p)
  | register (path : String) : Reachable l → Reachable (l.register path).1

theorem Ledger.Reachable.tidy {l : Ledger} (reached : l.Reachable) : Column.Tidy l.bindings := by
  induction reached with
  | empty => exact Column.Tidy.empty
  | addEvent e _ ih =>
    rw [addEvent_eq]
    exact ih
  | addPeriod p _ ih => exact ih
  | register path _ ih => exact ih.register path

namespace Compiling

/-- Work that leaves reachable ledgers behind, whether it fails or not. -/
def Keeps (x : Compiling α) : Prop := ∀ l : Ledger, l.Reachable → (x.run.run l).2.Reachable

theorem Keeps.bind {x : Compiling α} {f : α → Compiling β} (first : Keeps x) (then' : ∀ a, Keeps (f a)) :
    Keeps (x >>= f) := by
  intro l reached
  have middle := first l reached
  rw [run_bind]
  generalize x.run.run l = outcome at middle
  obtain ⟨result, l'⟩ := outcome
  cases result with
  | error e => exact middle
  | ok a => exact then' a l' middle

theorem Keeps.pure (a : α) : Keeps (Pure.pure a : Compiling α) := fun _ reached => reached

theorem Keeps.liftM (x : Except CompileError α) : Keeps (MonadLiftT.monadLift x : Compiling α) :=
  fun _ reached => reached

theorem Keeps.mapM {f : α → Compiling β} (each : ∀ a, Keeps (f a)) (items : List α) : Keeps (items.mapM f) := by
  induction items with
  | nil => exact .pure []
  | cons a rest ih =>
    rw [List.mapM_cons]
    exact (each a).bind fun b => ih.bind fun bs => .pure (b :: bs)

end Compiling

namespace Attribute

open Compiling

theorem keeps_addEvent (e : Event) : Keeps (onLedger (Ledger.addEvent e)) := fun _ reached => reached.addEvent e

theorem keeps_register (path : String) : Keeps (onLedger (Ledger.register path)) :=
  fun _ reached => reached.register path

theorem dailyCriteria_keeps (a : Attribute) : Keeps a.dailyCriteria := by
  unfold dailyCriteria
  split
  · exact .pure _
  · refine (Keeps.mapM (fun c => ?_) _).bind fun bound => .pure _
    exact (keeps_register c.property).bind fun column => .pure _

theorem forIn_addEvent_keeps (events : List Event) :
    Keeps (forIn events PUnit.unit fun e _ => do
      let _ ← onLedger (Ledger.addEvent e)
      pure (ForInStep.yield PUnit.unit)) := by
  induction events with
  | nil => exact .pure _
  | cons e rest ih =>
    rw [List.forIn_cons]
    refine ((keeps_addEvent e).bind fun _ => .pure _).bind fun step => ?_
    cases step with
    | done => exact .pure _
    | yield => exact ih

/-- Compilation leaves a ledger that can come about, whether it fails or not. -/
theorem compile_keeps (a : Attribute) : Keeps a.compile := by
  unfold compile
  refine (Keeps.liftM _).bind fun fold => (Keeps.liftM _).bind fun _ => (forIn_addEvent_keeps _).bind fun _ => ?_
  have finish (property : Option String) : Keeps (do
      let daily ← liftM (a.dailyColumn fold property)
      let criteria ← a.dailyCriteria
      pure (a.assemble fold property daily criteria)) :=
    (Keeps.liftM _).bind fun daily => (dailyCriteria_keeps a).bind fun criteria => .pure _
  have registered (path : String) :=
    (keeps_register path).bind fun column => (Keeps.pure (some column)).bind finish
  have unregistered := (Keeps.pure none).bind finish
  dsimp only
  split
  case h_1 p _ =>
    refine Keeps.bind (fun l reached => reached.addPeriod p) fun _ => ?_
    split
    · exact registered _
    · exact unregistered
  case h_2 =>
    split
    · exact registered _
    · exact unregistered

end Attribute

end AttributeStore
