import AttributeStore.Proofs.Subscription.Step

/-! A worker that is given enough steps comes to rest. The steps that are left to it are counted by what has arrived and
by what it still holds, and every step that does anything takes one of them. -/
namespace AttributeStore

/-- The steps that an arrival takes: those that come before it is read, and one for each event, of which there are no
more than bytes. -/
def Arrival.steps : Arrival → Nat
  | .chunk bytes => bytes.length + 3
  | .failure _ => 3

/-- The steps of some arrivals, one after another. -/
def Arrival.allSteps (arrivals : List Arrival) : Nat := arrivals.foldr (fun a n => a.steps + n) 0

/-- The most steps that are left to a worker until it has ended or waits for something to arrive. -/
def Worker.steps (w : Worker) : Nat :=
  let arrived := Arrival.allSteps w.incoming
  match w.activity with
  | .checking => arrived + 2
  | .waiting => arrived + 1
  | .delivering left => arrived + left.length + 3
  | .ended _ => 0

theorem Worker.Turn.steps_lt {w w' : Worker} {new : List Arrival} (turn : w.Turn new w') : w'.steps < w.steps := by
  cases turn with
  | goesOn here => simp [Worker.steps, here]
  | stops asked live =>
    cases here : w.activity <;> simp [Worker.steps, Worker.isLive, here] at live ⊢
  | @reads bytes more here next =>
    have events := ((w.parser.feed bytes).2.length_filterMap_le Intervention.ofEvent?).trans
      (EventStream.Parser.length_feed_le w.parser bytes)
    simp only [Worker.steps, here, next, Arrival.allSteps, List.foldr_cons, Arrival.steps]
    omega
  | fails here => simp [Worker.steps, here]
  | finishes here => simp [Worker.steps, here]
  | returns here => simp [Worker.steps, here]

namespace Subscription

theorem workload_eq (w : Worker) : workload w = w.held.length + 3 + Arrival.allSteps w.incoming := by
  have total (n : Nat) (arrivals : List Arrival) : arrivals.foldl (fun n a => n + match a with
      | .chunk bytes => bytes.length + 3
      | .failure _ => 3) n = n + Arrival.allSteps arrivals := by
    induction arrivals generalizing n with
    | nil => rfl
    | cons a rest ih =>
      rw [List.foldl_cons, ih, Nat.add_assoc]
      cases a <;> rfl
  cases here : w.activity <;> simp only [workload, Worker.held, here] <;> exact total _ w.incoming

/-- The work load of a worker covers the steps that are left to it. -/
theorem steps_le_workload (w : Worker) : w.steps ≤ workload w := by
  rw [workload_eq]
  cases here : w.activity <;> simp only [Worker.steps, Worker.held, here] <;> omega

variable {s s' : Subscription} {w : Worker} {new : List Arrival}

/-- A step keeps the settings and the worker, which is told no more than before. -/
theorem Step.kept (step : s.Step w new s') (working : s.worker = some w) :
    s'.handlers = s.handlers ∧
      ∃ w', s'.worker = some w' ∧ w'.isClosed = w.isClosed ∧ w'.isStopping = w.isStopping := by
  cases step with
  | rests => exact ⟨rfl, w, working, rfl, rfl⟩
  | turns turn => cases turn <;> exact ⟨rfl, _, rfl, rfl, rfl⟩
  | queues | handles | breaks => exact ⟨rfl, _, rfl, rfl, rfl⟩

theorem workTimes_kept (n : Nat) (working : s.worker = some w) : (workTimes n s).handlers = s.handlers ∧
    ∃ w', (workTimes n s).worker = some w' ∧ w'.isClosed = w.isClosed ∧ w'.isStopping = w.isStopping := by
  induction n generalizing s w with
  | zero => exact ⟨rfl, w, working, rfl, rfl⟩
  | succ n ih =>
    obtain ⟨new, step⟩ := step_work true working
    obtain ⟨handlers, w', working', closed, stopping⟩ := step.kept working
    obtain ⟨handlers', w'', working'', closed', stopping'⟩ := ih working'
    exact ⟨handlers'.trans handlers, w'', working'', closed'.trans closed, stopping'.trans stopping⟩

/-- A step leaves less to do, unless there is nothing. -/
theorem Step.idle_or_steps_lt (step : s.Step w new s') :
    (s' = s ∧ s.Idle w) ∨ ∀ w', s'.worker = some w' → w'.steps < w.steps := by
  cases step with
  | rests idle => exact .inl ⟨rfl, idle⟩
  | turns turn =>
    refine .inr fun w' working' => ?_
    obtain rfl := Option.some.inj working'
    exact turn.steps_lt
  | queues next | handles next | breaks next =>
    refine .inr fun w' working' => ?_
    obtain rfl := Option.some.inj working'
    simp [Worker.steps, next]

theorem workTimes_of_rest (rest : s.work true = s) (n : Nat) : workTimes n s = s := by
  induction n with
  | zero => rfl
  | succ n ih => rw [workTimes, rest, ih]

theorem workTimes_rests (n : Nat) (enough : ∀ w, s.worker = some w → w.steps ≤ n) :
    (workTimes n s).work true = workTimes n s := by
  induction n generalizing s with
  | zero =>
    -- no step is left, so the next one cannot leave less
    cases working : s.worker with
    | none => exact work_of_no_worker working true
    | some w =>
      obtain ⟨new, step⟩ := step_work true working
      have left := enough w working
      rcases step.idle_or_steps_lt with ⟨rest, -⟩ | fewer
      · exact rest
      · obtain ⟨-, w', working', -⟩ := step.kept working
        have := fewer w' working'
        omega
  | succ n ih =>
    rw [workTimes]
    cases working : s.worker with
    | none =>
      have rest := work_of_no_worker working true
      rw [rest, workTimes_of_rest rest, rest]
    | some w =>
      obtain ⟨new, step⟩ := step_work true working
      have left := enough w working
      rcases step.idle_or_steps_lt with ⟨rest, -⟩ | fewer
      · rw [rest, workTimes_of_rest rest, rest]
      · refine ih fun w' working' => ?_
        have := fewer w' working'
        omega

/-- A subscription that has settled has nothing left to do. -/
theorem work_settle (s : Subscription) : s.settle.work true = s.settle := by
  unfold settle
  split
  case h_1 gone => exact work_of_no_worker gone true
  case h_2 w working =>
    refine workTimes_rests _ fun w' working' => ?_
    obtain rfl := Option.some.inj (working.symm.trans working')
    exact steps_le_workload w

/-- A worker that does nothing has nothing to do. -/
theorem idle_of_rest (rest : s.work true = s) (working : s.worker = some w) : s.Idle w := by
  obtain ⟨new, step⟩ := step_work true working
  rcases step.idle_or_steps_lt with ⟨-, idle⟩ | fewer
  · exact idle
  · exact absurd (fewer w (by rw [rest, working])) (Nat.lt_irrefl _)

/-- A worker that calls handlers does not wait for them: once its stream has ended, it ends. -/
theorem settle_ends (handled : s.handlers ≠ []) (working : s.worker = some w) (closed : w.isClosed = true) :
    ∃ w' failure, s.settle.worker = some w' ∧ w'.activity = .ended failure ∧ w'.isStopping = w.isStopping := by
  have settled : s.settle = workTimes (workload w) s := by rw [settle, working]
  obtain ⟨handlers, w', working', closed', stopping⟩ := workTimes_kept (workload w) working
  rw [← settled] at handlers working'
  cases idle_of_rest s.work_settle working' with
  | ended halted =>
    cases here : w'.activity with
    | ended failure => exact ⟨w', failure, working', here, stopping⟩
    | _ => simp [Worker.isLive, here] at halted
  | waits _ _ opened => simp [closed', closed] at opened
  | parks unhandled => exact absurd (handlers.symm.trans unhandled) handled

end Subscription

end AttributeStore
