import AttributeStore.Proofs.Subscription.Step

/-! Sessions. A session is one run of a subscription: its stream brings something or ends, its worker takes a step, the
subscriber takes from the queue or stops, in any order. -/
namespace AttributeStore

/-- Why a worker has ended, if not for its stream's end or a stop. -/
def Worker.failure? (w : Worker) : Option WorkerFailure :=
  match w.activity with
  | .ended failure => failure
  | _ => none

namespace Subscription

def queued (s : Subscription) : List Intervention := s.queue.getD []

variable {s : Subscription}

/-- A worker that has ended does nothing. -/
theorem work_of_not_running (halted : s.isRunning = false) (heeds : Bool) : s.work heeds = s := by
  cases working : s.worker with
  | none => exact work_of_no_worker working heeds
  | some w =>
    have ended : w.isLive = false := by simpa [isRunning, working] using halted
    obtain ⟨new, step⟩ := step_work heeds working
    generalize s.work heeds = s' at step ⊢
    cases step with
    | rests => rfl
    | turns turn => simp [turn.isLive] at ended
    | queues next => simp [Worker.isLive, next] at ended
    | handles next => simp [Worker.isLive, next] at ended
    | breaks next => simp [Worker.isLive, next] at ended

/-- A stream takes what it is brought while its worker reads and it has not ended. -/
theorem send_cases (s : Subscription) (a : Arrival) : s.send a = (false, s) ∨
    ∃ w, s.worker = some w ∧ w.isLive = true ∧
      s.send a = (true, { s with worker := some { w with incoming := w.incoming ++ [a] } }) := by
  unfold send
  split
  case h_1 w working =>
    split
    case isTrue accepts =>
      rw [Bool.and_eq_true] at accepts
      exact .inr ⟨w, working, accepts.1, rfl⟩
    case isFalse => exact .inl rfl
  case h_2 => exact .inl rfl

theorem send_of_not_running (halted : s.isRunning = false) (a : Arrival) : s.send a = (false, s) := by
  rcases s.send_cases a with refused | ⟨w, working, live, -⟩
  · exact refused
  · simp [isRunning, working, live] at halted

/-- A stop ends the worker within its two steps, wherever it stands, and lets go of it; nothing is delivered. -/
theorem stop_eq (s : Subscription) : s.stop = (s.worker.bind Worker.failure?, { s with worker := none }) := by
  unfold stop workTimes workTimes workTimes
  cases working : s.worker with
  | none => simp [requestStop, work, collect, working]
  | some w =>
    cases here : w.activity with
    | delivering left => cases left <;> simp [requestStop, work, collect, working, here, Worker.failure?]
    | _ => simp [requestStop, work, collect, working, here, Worker.failure?]

/-- What is taken is the head of the queue. -/
theorem take_eq (s : Subscription) : s.take = (s.queued.head?, { s with queue := s.queue.map List.tail }) := by
  rcases s with ⟨_, _, _, _, queue, _⟩
  rcases queue with _ | _ | ⟨i, rest⟩ <;> rfl

/-- A worker that has ended is let go of, and tells why it ended; any other one is left alone. -/
theorem collect_cases (s : Subscription) : s.collect = (none, s) ∨
    ∃ w failure, s.worker = some w ∧ w.activity = .ended failure ∧
      s.collect = (failure, { s with worker := none }) := by
  unfold collect
  split
  case h_1 failure working => exact .inr ⟨_, failure, working, rfl, rfl⟩
  case h_2 => exact .inl rfl

@[simp] theorem isRunning_close (s : Subscription) : s.close.isRunning = s.isRunning := by
  rw [isRunning, close, Option.any_map]
  rfl

@[simp] theorem isRunning_requestStop (s : Subscription) : s.requestStop.isRunning = s.isRunning := by
  rw [isRunning, requestStop, Option.any_map]
  rfl

end Subscription

/-- A session, with what has happened in it so far. -/
structure Session where
  subscription : Subscription
  /-- What the stream has brought. -/
  arrived : List Arrival
  /-- What the worker has read of it. -/
  read : List Arrival := []
  /-- What has been taken from the queue. -/
  given : List Intervention := []
  /-- What stopping has told. -/
  reported : List WorkerFailure := []

namespace Session

/-- What may happen next. A stop is asked for at first; it is over when the worker has ended and is let go. -/
inductive Move
  | arrive (a : Arrival)
  | close
  | work (heeds : Bool)
  | take
  | requestStop
  | collect

/-- The run of a subscription that could be started: a worker begins to read a stream that has brought something
already, unless one is reading. -/
def start (s : Subscription) (incoming : List Arrival) (isClosed : Bool) : Session where
  subscription := if s.isRunning then s else s.spawn incoming isClosed
  arrived := incoming

def play (r : Session) : Move → Session
  | .arrive a =>
    let (accepted, s) := r.subscription.send a
    { r with subscription := s, arrived := if accepted then r.arrived ++ [a] else r.arrived }
  | .close => { r with subscription := r.subscription.close }
  | .work heeds =>
    let s := r.subscription.work heeds
    let new := r.subscription.incoming.take (r.subscription.incoming.length - s.incoming.length)
    { r with subscription := s, read := r.read ++ new }
  | .take =>
    let (taken, s) := r.subscription.take
    { r with subscription := s, given := r.given ++ taken.toList }
  | .requestStop => { r with subscription := r.subscription.requestStop }
  | .collect =>
    let (failure, s) := r.subscription.collect
    { r with subscription := s, reported := r.reported ++ failure.toList }

def playAll (r : Session) (moves : List Move) : Session := moves.foldl play r

variable {r : Session}

theorem playAll_work (r : Session) (n : Nat) :
    (r.playAll (List.replicate n (.work true))).subscription = Subscription.workTimes n r.subscription := by
  induction n generalizing r with
  | zero => rfl
  | succ n ih => exact ih (r.play (.work true))

/-- A session whose worker has taken all steps that may be left to it has settled. -/
theorem playAll_workload {w : Worker} (working : r.subscription.worker = some w) :
    (r.playAll (List.replicate (Subscription.workload w) (.work true))).subscription = r.subscription.settle := by
  rw [playAll_work, Subscription.settle, working]

theorem play_take (r : Session) : r.play .take = { r with
    subscription := { r.subscription with queue := r.subscription.queue.map List.tail }
    given := r.given ++ r.subscription.queued.head?.toList } := by
  rw [play, Subscription.take_eq]

/-- What comes from outside touches the worker alone: only the worker itself reads, queues and calls, and only the
subscriber takes. -/
theorem play_outside (r : Session) {move : Move} (other : ∀ heeds, move ≠ .work heeds) (kept : move ≠ .take) :
    ∃ worker, (r.play move).subscription = { r.subscription with worker := worker } ∧
      (r.play move).read = r.read ∧ (r.play move).given = r.given := by
  cases move with
  | work heeds => exact absurd rfl (other heeds)
  | take => exact absurd rfl kept
  | arrive a =>
    rcases r.subscription.send_cases a with refused | ⟨w, -, -, taken⟩
    · rw [play, refused]
      exact ⟨_, rfl, rfl, rfl⟩
    · rw [play, taken]
      exact ⟨_, rfl, rfl, rfl⟩
  | close | requestStop => exact ⟨_, rfl, rfl, rfl⟩
  | collect =>
    rcases r.subscription.collect_cases with same | ⟨w, failure, -, -, collected⟩
    · rw [play, same]
      exact ⟨_, rfl, rfl, rfl⟩
    · rw [play, collected]
      exact ⟨_, rfl, rfl, rfl⟩

theorem play_work_of_not_running (halted : r.subscription.isRunning = false) (heeds : Bool) :
    r.play (.work heeds) = r := by
  rw [play, Subscription.work_of_not_running halted, Nat.sub_self, List.take_zero, List.append_nil]

/-- A step of the worker, where there is one. -/
theorem play_work (r : Session) (heeds : Bool) : r.play (.work heeds) = r ∨
    ∃ w new s, r.subscription.worker = some w ∧ r.subscription.Step w new s ∧
      r.play (.work heeds) = { r with subscription := s, read := r.read ++ new } := by
  cases working : r.subscription.worker with
  | none =>
    exact .inl (play_work_of_not_running (by simp [Subscription.isRunning, working]) heeds)
  | some w =>
    obtain ⟨new, step⟩ := Subscription.step_work heeds working
    refine .inr ⟨w, new, _, rfl, step, ?_⟩
    rw [play, step.incoming working, List.length_append, Nat.add_sub_cancel, List.take_left]

/-- A session keeps the settings of its subscription. -/
theorem play_settings (r : Session) (move : Move) :
    (r.play move).subscription.handlers = r.subscription.handlers ∧
    (r.play move).subscription.capacity = r.subscription.capacity ∧
    (r.play move).subscription.propagates = r.subscription.propagates := by
  have outside (other : ∀ heeds, move ≠ .work heeds) (kept : move ≠ .take) :
      (r.play move).subscription.handlers = r.subscription.handlers ∧
      (r.play move).subscription.capacity = r.subscription.capacity ∧
      (r.play move).subscription.propagates = r.subscription.propagates := by
    obtain ⟨worker, same, -, -⟩ := r.play_outside other kept
    rw [same]
    exact ⟨rfl, rfl, rfl⟩
  cases move with
  | work heeds =>
    rcases r.play_work heeds with same | ⟨w, new, s, -, step, played⟩
    · rw [same]
      exact ⟨rfl, rfl, rfl⟩
    · rw [played]
      cases step <;> exact ⟨rfl, rfl, rfl⟩
  | take =>
    rw [play_take]
    exact ⟨rfl, rfl, rfl⟩
  | arrive | close | requestStop | collect => exact outside nofun nofun

theorem playAll_settings (r : Session) (moves : List Move) :
    (r.playAll moves).subscription.handlers = r.subscription.handlers ∧
    (r.playAll moves).subscription.capacity = r.subscription.capacity ∧
    (r.playAll moves).subscription.propagates = r.subscription.propagates := by
  induction moves generalizing r with
  | nil => exact ⟨rfl, rfl, rfl⟩
  | cons move rest ih =>
    obtain ⟨handlers, capacity, propagates⟩ := r.play_settings move
    obtain ⟨handlers', capacity', propagates'⟩ := ih (r.play move)
    exact ⟨handlers'.trans handlers, capacity'.trans capacity, propagates'.trans propagates⟩

/-- Why the worker ended, as stopping has told or would tell now. -/
def told (r : Session) : List WorkerFailure := r.reported ++ r.subscription.stop.1.toList

theorem told_eq (r : Session) : r.told = r.reported ++ (r.subscription.worker.bind Worker.failure?).toList := by
  rw [told, Subscription.stop_eq]

/-- Once no worker is left to read and deliver, nothing is read, lost or called any more: what is queued waits to be
taken, and why the worker ended is told once. -/
theorem play_of_not_running (halted : r.subscription.isRunning = false) (move : Move) :
    (r.play move).subscription.isRunning = false ∧ (r.play move).read = r.read ∧
    (r.play move).subscription.calls = r.subscription.calls ∧
    (r.play move).given ++ (r.play move).subscription.queued = r.given ++ r.subscription.queued ∧
    (r.play move).told = r.told := by
  cases move with
  | arrive a =>
    rw [play, Subscription.send_of_not_running halted]
    exact ⟨halted, rfl, rfl, rfl, rfl⟩
  | close =>
    refine ⟨(Subscription.isRunning_close _).trans halted, rfl, rfl, rfl, ?_⟩
    rw [told_eq, told_eq, play, Subscription.close, Option.bind_map]
    rfl
  | work heeds =>
    rw [play_work_of_not_running halted]
    exact ⟨halted, rfl, rfl, rfl, rfl⟩
  | take =>
    rw [play_take]
    refine ⟨halted, rfl, rfl, ?_, ?_⟩
    · simp only [Subscription.queued, List.append_assoc]
      cases r.subscription.queue with
      | none => rfl
      | some queue => cases queue <;> rfl
    · rw [told_eq, told_eq]
  | requestStop =>
    refine ⟨(Subscription.isRunning_requestStop _).trans halted, rfl, rfl, rfl, ?_⟩
    rw [told_eq, told_eq, play, Subscription.requestStop, Option.bind_map]
    rfl
  | collect =>
    rcases r.subscription.collect_cases with same | ⟨w, failure, working, ended, collected⟩
    · rw [play, same]
      refine ⟨halted, rfl, rfl, rfl, ?_⟩
      rw [told_eq, told_eq]
      exact congrArg (· ++ _) (List.append_nil _)
    · rw [play, collected]
      refine ⟨rfl, rfl, rfl, rfl, ?_⟩
      rw [told_eq, told_eq, working, Option.bind_some, Worker.failure?, ended]
      exact List.append_nil _

theorem playAll_of_not_running (halted : r.subscription.isRunning = false) (moves : List Move) :
    (r.playAll moves).subscription.isRunning = false ∧ (r.playAll moves).read = r.read ∧
    (r.playAll moves).subscription.calls = r.subscription.calls ∧
    (r.playAll moves).given ++ (r.playAll moves).subscription.queued = r.given ++ r.subscription.queued ∧
    (r.playAll moves).told = r.told := by
  induction moves generalizing r with
  | nil => exact ⟨halted, rfl, rfl, rfl, rfl⟩
  | cons move rest ih =>
    obtain ⟨still, read, calls, queued, told⟩ := play_of_not_running halted move
    obtain ⟨final, read', calls', queued', told'⟩ := ih still
    exact ⟨final, read'.trans read, calls'.trans calls, queued'.trans queued, told'.trans told⟩

/-- The worker of a session has come as far as `done`; and so had it, where it has been let go. -/
structure Tracks (r : Session) (done : List Intervention) : Prop where
  worker : ∀ w, r.subscription.worker = some w → w.Tracks r.arrived r.read done
  within : r.read <+: r.arrived
  ordered : done <+: Arrival.interventions r.read

/-- No handler has ended the worker of a session. -/
def Unbroken (r : Session) : Prop :=
  ∀ w, r.subscription.worker = some w → ∀ i reason, w.activity ≠ .ended (some (.handler i reason))

theorem Tracks.of_worker {w : Worker} {done : List Intervention} (working : r.subscription.worker = some w)
    (tracks : w.Tracks r.arrived r.read done) : r.Tracks done := by
  refine ⟨fun w' working' => ?_, ⟨w.incoming, tracks.accounted⟩, tracks.ordered⟩
  obtain rfl := Option.some.inj (working.symm.trans working')
  exact tracks

/-- A move that is no step of the worker leaves it as far as it was. -/
theorem Tracks.play_other {done : List Intervention} (tracks : r.Tracks done) {move : Move}
    (other : ∀ heeds, move ≠ .work heeds) : (r.play move).Tracks done := by
  cases move with
  | work heeds => exact absurd rfl (other heeds)
  | arrive a =>
    rcases r.subscription.send_cases a with refused | ⟨w, working, live, taken⟩
    · rw [play, refused]
      exact tracks
    · rw [play, taken]
      exact .of_worker rfl ((tracks.worker w working).arrive live a)
  | close =>
    refine ⟨fun w closed => ?_, tracks.within, tracks.ordered⟩
    obtain ⟨w, working, rfl⟩ := Option.map_eq_some_iff.mp closed
    exact (tracks.worker w working).close
  | take =>
    rw [play_take]
    exact ⟨tracks.worker, tracks.within, tracks.ordered⟩
  | requestStop =>
    refine ⟨fun w asked => ?_, tracks.within, tracks.ordered⟩
    obtain ⟨w, working, rfl⟩ := Option.map_eq_some_iff.mp asked
    exact (tracks.worker w working).requestStop
  | collect =>
    rcases r.subscription.collect_cases with same | ⟨w, failure, -, -, collected⟩
    · rw [play, same]
      exact ⟨tracks.worker, tracks.within, tracks.ordered⟩
    · rw [play, collected]
      exact ⟨nofun, tracks.within, tracks.ordered⟩

/-- A move that is no step of the worker does not touch what the worker is doing, unless it lets go of it and tells. -/
theorem activity_of_play_other {move : Move} (other : ∀ heeds, move ≠ .work heeds) {w' : Worker}
    (working' : (r.play move).subscription.worker = some w') :
    (∃ w, r.subscription.worker = some w ∧ w'.activity = w.activity) ∧ (r.play move).reported = r.reported := by
  cases move with
  | work heeds => exact absurd rfl (other heeds)
  | arrive a =>
    rcases r.subscription.send_cases a with refused | ⟨w, working, live, taken⟩
    · rw [play, refused] at working' ⊢
      exact ⟨⟨w', working', rfl⟩, rfl⟩
    · rw [play, taken] at working' ⊢
      obtain rfl := Option.some.inj working'
      exact ⟨⟨w, working, rfl⟩, rfl⟩
  | close | requestStop =>
    obtain ⟨w, working, rfl⟩ := Option.map_eq_some_iff.mp working'
    exact ⟨⟨w, working, rfl⟩, rfl⟩
  | take =>
    rw [play_take] at working' ⊢
    exact ⟨⟨w', working', rfl⟩, rfl⟩
  | collect =>
    rcases r.subscription.collect_cases with same | ⟨w, failure, -, -, collected⟩
    · rw [play, same] at working' ⊢
      exact ⟨⟨w', working', rfl⟩, List.append_nil _⟩
    · rw [play, collected] at working'
      cases working'

theorem Unbroken.play_other (unbroken : r.Unbroken) {move : Move} (other : ∀ heeds, move ≠ .work heeds) :
    (r.play move).Unbroken := by
  intro w' working' i reason
  obtain ⟨⟨w, working, same⟩, -⟩ := activity_of_play_other other working'
  rw [same]
  exact unbroken w working i reason

/-- The interventions of a stream up to its end: those of all that it brought, or of what it brought before it
failed. -/
def Brought (r : Session) (failure : Option WorkerFailure) (done : List Intervention) : Prop :=
  (failure = none ∧ done = Arrival.interventions r.arrived) ∨
    ∃ message before behind, failure = some (.stream message) ∧ r.arrived = before ++ .failure message :: behind ∧
      done = Arrival.interventions before

/-- A worker that ended without a stop, and not for a handler, has delivered all that its stream brought. -/
theorem Tracks.brought {done : List Intervention} (tracks : r.Tracks done) (unbroken : r.Unbroken) {w : Worker}
    {failure : Option WorkerFailure} (working : r.subscription.worker = some w) (ended : w.activity = .ended failure)
    (free : w.isStopping = false) : r.Brought failure done := by
  have tracks := tracks.worker w working
  cases failure with
  | none =>
    obtain ⟨whole, drained, -⟩ := tracks.finished ended free
    have all : r.read = r.arrived := by simpa [drained] using tracks.accounted
    exact .inl ⟨rfl, all ▸ whole⟩
  | some failure =>
    cases failure with
    | handler i reason => exact absurd ended (unbroken w working i reason)
    | stream message =>
      obtain ⟨whole, before, read⟩ := tracks.failed message ended
      refine .inr ⟨message, before, w.incoming, rfl, ?_, ?_⟩
      · rw [← tracks.accounted, read, List.append_assoc, List.singleton_append]
      · rw [whole, read, Arrival.interventions_failure]

theorem start_worker {s : Subscription} (idle : s.isRunning = false) (incoming : List Arrival) (isClosed : Bool) :
    (start s incoming isClosed).subscription.worker = some { incoming := incoming, isClosed := isClosed } := by
  rw [start, if_neg (by rw [idle]; exact Bool.false_ne_true), Subscription.spawn]

theorem start_settings (s : Subscription) (incoming : List Arrival) (isClosed : Bool) :
    (start s incoming isClosed).subscription.handlers = s.handlers ∧
    (start s incoming isClosed).subscription.capacity = s.capacity ∧
    (start s incoming isClosed).subscription.propagates = s.propagates ∧
    (start s incoming isClosed).subscription.calls = s.calls := by
  unfold start
  cases s.isRunning <;> exact ⟨rfl, rfl, rfl, rfl⟩

/-- Whatever happens in a session, it keeps the settings of the subscription that began it. -/
theorem run_settings (s : Subscription) (incoming : List Arrival) (isClosed : Bool) (moves : List Move) :
    let r := (start s incoming isClosed).playAll moves
    r.subscription.handlers = s.handlers ∧ r.subscription.capacity = s.capacity ∧
    r.subscription.propagates = s.propagates := by
  obtain ⟨handlers, capacity, propagates, -⟩ := start_settings s incoming isClosed
  obtain ⟨handlers', capacity', propagates'⟩ := (start s incoming isClosed).playAll_settings moves
  exact ⟨handlers'.trans handlers, capacity'.trans capacity, propagates'.trans propagates⟩

theorem start_unbroken {s : Subscription} (idle : s.isRunning = false) (incoming : List Arrival) (isClosed : Bool) :
    (start s incoming isClosed).Unbroken := by
  intro w working
  rw [start_worker idle] at working
  cases working
  nofun

theorem start_tracks {s : Subscription} (idle : s.isRunning = false) (incoming : List Arrival) (isClosed : Bool) :
    (start s incoming isClosed).Tracks [] :=
  .of_worker (start_worker idle incoming isClosed) ⟨rfl, rfl, List.nil_prefix, fun _ => rfl, nofun, nofun⟩

end Session

end AttributeStore
