import AttributeStore.Proofs.EventStream.Chunks
import AttributeStore.Subscription.Work

/-! What a worker can do in one step, and how far it has come: what it has delivered, and what it still holds of its
last chunk, are the interventions of the arrivals that it has read. -/
namespace AttributeStore

namespace Arrival

/-- The chunks among some arrivals. -/
def chunks (arrivals : List Arrival) : List (List UInt8) :=
  arrivals.filterMap fun
    | .chunk bytes => some bytes
    | .failure _ => none

/-- The parser that has been fed some arrivals. -/
def parser (arrivals : List Arrival) : EventStream.Parser := (EventStream.Parser.feedAll {} (chunks arrivals)).1

/-- The interventions that some arrivals bring: the events of their chunks, without those that are passed over. -/
def interventions (arrivals : List Arrival) : List Intervention :=
  (EventStream.Parser.feedAll {} (chunks arrivals)).2.filterMap Intervention.ofEvent?

theorem parser_chunk (arrivals : List Arrival) (bytes : List UInt8) :
    parser (arrivals ++ [.chunk bytes]) = ((parser arrivals).feed bytes).1 := by
  simp [parser, chunks, EventStream.Parser.feedAll_append, EventStream.Parser.feedAll]

theorem interventions_chunk (arrivals : List Arrival) (bytes : List UInt8) :
    interventions (arrivals ++ [.chunk bytes]) =
      interventions arrivals ++ ((parser arrivals).feed bytes).2.filterMap Intervention.ofEvent? := by
  simp [interventions, parser, chunks, EventStream.Parser.feedAll_append, EventStream.Parser.feedAll]

@[simp] theorem parser_failure (arrivals : List Arrival) (message : String) :
    parser (arrivals ++ [.failure message]) = parser arrivals := by
  simp [parser, chunks]

@[simp] theorem interventions_failure (arrivals : List Arrival) (message : String) :
    interventions (arrivals ++ [.failure message]) = interventions arrivals := by
  simp [interventions, chunks]

end Arrival

namespace Worker

/-- The interventions of the last chunk that are still to be delivered. -/
def held (w : Worker) : List Intervention :=
  match w.activity with
  | .delivering left => left
  | _ => []

/-- What a worker does by itself, and what it reads then: it looks whether it shall stop, stops, reads the next
arrival, finds its stream ended, or has delivered a chunk. -/
inductive Turn (w : Worker) : List Arrival → Worker → Prop
  | goesOn (here : w.activity = .checking) (free : w.isStopping = false) : Turn w [] { w with activity := .waiting }
  | stops (asked : w.isStopping = true) (live : w.isLive = true) : Turn w [] { w with activity := .ended none }
  | reads {bytes : List UInt8} {more : List Arrival} (here : w.activity = .waiting)
    (next : w.incoming = .chunk bytes :: more) :
    Turn w [.chunk bytes] { w with
      incoming := more
      parser := (w.parser.feed bytes).1
      activity := .delivering ((w.parser.feed bytes).2.filterMap Intervention.ofEvent?) }
  | fails {message : String} {more : List Arrival} (here : w.activity = .waiting)
    (next : w.incoming = .failure message :: more) :
    Turn w [.failure message] { w with incoming := more, activity := .ended (some (.stream message)) }
  | finishes (here : w.activity = .waiting) (drained : w.incoming = []) (closed : w.isClosed = true) :
    Turn w [] { w with activity := .ended none }
  | returns (here : w.activity = .delivering []) : Turn w [] { w with activity := .checking }

/-- How far a worker has come that was brought some arrivals, has read some of them and has delivered `done`. -/
structure Tracks (w : Worker) (arrived read : List Arrival) (done : List Intervention) : Prop where
  accounted : read ++ w.incoming = arrived
  parsed : w.parser = Arrival.parser read
  ordered : done <+: Arrival.interventions read
  live : w.isLive = true → done ++ w.held = Arrival.interventions read
  /-- A worker that ends without being asked to has seen the end of its stream. -/
  finished : w.activity = .ended none → w.isStopping = false →
    done = Arrival.interventions read ∧ w.incoming = [] ∧ w.isClosed = true
  failed : ∀ message, w.activity = .ended (some (.stream message)) →
    done = Arrival.interventions read ∧ ∃ before, read = before ++ [.failure message]

variable {w w' : Worker} {arrived read new : List Arrival} {done : List Intervention}

theorem Turn.isLive (turn : w.Turn new w') : w.isLive = true := by
  cases turn <;> simp_all [Worker.isLive]

theorem Turn.incoming (turn : w.Turn new w') : w.incoming = new ++ w'.incoming := by
  cases turn <;> first | rfl | assumption

/-- What a worker does by itself is none of its handlers' failures. -/
theorem Turn.unbroken (turn : w.Turn new w') (intervention reason : String) :
    w'.activity ≠ .ended (some (.handler intervention reason)) := by
  cases turn <;> simp

theorem Tracks.turn (tracks : w.Tracks arrived read done) (turn : w.Turn new w') :
    w'.Tracks arrived (read ++ new) done := by
  have live := tracks.live turn.isLive
  have accounted : read ++ new ++ w'.incoming = arrived := by
    rw [List.append_assoc, ← turn.incoming, tracks.accounted]
  cases turn with
  | goesOn here =>
    simp only [held, here, List.append_nil] at live accounted ⊢
    exact ⟨accounted, tracks.parsed, tracks.ordered, fun _ => by simpa [held] using live, nofun, nofun⟩
  | stops asked =>
    simp only [List.append_nil] at accounted ⊢
    refine ⟨accounted, tracks.parsed, tracks.ordered, nofun, fun _ free => ?_, nofun⟩
    rw [asked] at free
    cases free
  | @reads bytes more here =>
    simp only [held, here, List.append_nil] at live
    have brought := Arrival.interventions_chunk read bytes
    rw [← live, ← tracks.parsed] at brought
    refine ⟨accounted, ?_, ⟨_, brought.symm⟩, fun _ => brought.symm, nofun, nofun⟩
    rw [Arrival.parser_chunk, ← tracks.parsed]
  | fails here =>
    simp only [held, here, List.append_nil] at live
    rw [← Arrival.interventions_failure read] at live
    refine ⟨accounted, ?_, live ▸ List.prefix_rfl, nofun, nofun, ?_⟩
    · rw [Arrival.parser_failure, ← tracks.parsed]
    · rintro _ ⟨⟩
      exact ⟨live, read, rfl⟩
  | finishes here drained closed =>
    simp only [held, here, List.append_nil] at live accounted ⊢
    exact ⟨accounted, tracks.parsed, tracks.ordered, nofun, fun _ _ => ⟨live, drained, closed⟩, nofun⟩
  | returns here =>
    simp only [held, here, List.append_nil] at live accounted ⊢
    exact ⟨accounted, tracks.parsed, tracks.ordered, fun _ => by simpa [held] using live, nofun, nofun⟩

/-- The next intervention that is held has been delivered. -/
theorem Tracks.deliver {i : Intervention} {left : List Intervention} (tracks : w.Tracks arrived read done)
    (next : w.activity = .delivering (i :: left)) :
    ({ w with activity := .delivering left } : Worker).Tracks arrived read (done ++ [i]) := by
  have live := tracks.live (by rw [isLive, next])
  simp only [held, next] at live
  have brought : done ++ [i] ++ left = Arrival.interventions read := by
    rw [← live, List.append_assoc, List.singleton_append]
  exact ⟨tracks.accounted, tracks.parsed, ⟨left, brought⟩, fun _ => brought, nofun, nofun⟩

/-- A handler has failed before the next intervention was delivered. -/
theorem Tracks.break (tracks : w.Tracks arrived read done) (intervention reason : String) :
    ({ w with activity := .ended (some (.handler intervention reason)) } : Worker).Tracks arrived read done :=
  ⟨tracks.accounted, tracks.parsed, tracks.ordered, nofun, nofun, nofun⟩

theorem Tracks.arrive (tracks : w.Tracks arrived read done) (live : w.isLive = true) (a : Arrival) :
    ({ w with incoming := w.incoming ++ [a] } : Worker).Tracks (arrived ++ [a]) read done := by
  have going (failure : Option WorkerFailure) : w.activity ≠ .ended failure := by
    intro ended
    simp [isLive, ended] at live
  refine ⟨?_, tracks.parsed, tracks.ordered, tracks.live, fun ended => absurd ended (going _),
    fun message ended => absurd ended (going _)⟩
  rw [← tracks.accounted, List.append_assoc]

theorem Tracks.close (tracks : w.Tracks arrived read done) :
    ({ w with isClosed := true } : Worker).Tracks arrived read done :=
  ⟨tracks.accounted, tracks.parsed, tracks.ordered, tracks.live,
    fun ended free => ⟨(tracks.finished ended free).1, (tracks.finished ended free).2.1, rfl⟩, tracks.failed⟩

theorem Tracks.requestStop (tracks : w.Tracks arrived read done) :
    ({ w with isStopping := true } : Worker).Tracks arrived read done :=
  ⟨tracks.accounted, tracks.parsed, tracks.ordered, tracks.live, nofun, tracks.failed⟩

end Worker

namespace Subscription

/-- Nothing is left for a worker to do: it has ended, or waits for its stream, or for room in the queue. -/
inductive Idle (s : Subscription) (w : Worker) : Prop
  | ended (halted : w.isLive = false)
  | waits (here : w.activity = .waiting) (drained : w.incoming = []) (opened : w.isClosed = false)
  | parks (unhandled : s.handlers = []) (full : s.hasRoom = false)

/-- What a step of a worker can do to its subscription, and what the worker reads in it. -/
inductive Step (s : Subscription) (w : Worker) : List Arrival → Subscription → Prop
  | rests (idle : s.Idle w) : Step s w [] s
  | turns {new : List Arrival} {w' : Worker} (turn : w.Turn new w') : Step s w new { s with worker := some w' }
  | queues {i : Intervention} {left : List Intervention} (next : w.activity = .delivering (i :: left))
    (unhandled : s.handlers = []) (room : s.hasRoom = true) :
    Step s w [] { s with
      worker := some { w with activity := .delivering left }
      queue := s.queue.map (· ++ [i]) }
  | handles {i : Intervention} {left : List Intervention} {calls : List Call}
    (next : w.activity = .delivering (i :: left)) (handled : s.handlers ≠ [])
    (answered : callHandlers s.propagates i 0 s.handlers s.calls = (calls, none)) :
    Step s w [] { s with worker := some { w with activity := .delivering left }, calls := calls }
  | breaks {i : Intervention} {left : List Intervention} {calls : List Call} {failure : WorkerFailure}
    (next : w.activity = .delivering (i :: left)) (handled : s.handlers ≠ [])
    (answered : callHandlers s.propagates i 0 s.handlers s.calls = (calls, some failure)) :
    Step s w [] { s with worker := some { w with activity := .ended (some failure) }, calls := calls }

theorem step_deliver {s : Subscription} {w : Worker} {i : Intervention} {left : List Intervention}
    (next : w.activity = .delivering (i :: left)) : Step s w [] (s.deliver w i left) := by
  unfold deliver
  by_cases unhandled : s.handlers = []
  · rw [if_pos (by rw [unhandled]; rfl)]
    by_cases room : s.hasRoom = true
    · rw [if_pos room]
      exact .queues next unhandled room
    · rw [if_neg room]
      exact .rests (.parks unhandled (by simpa using room))
  · rw [if_neg (by simpa using unhandled)]
    split
    case h_1 answered => exact .handles next unhandled answered
    case h_2 answered => exact .breaks next unhandled answered

theorem step_receive {s : Subscription} {w : Worker} (working : s.worker = some w) (here : w.activity = .waiting) :
    ∃ new, Step s w new { s with worker := some (receive w) } := by
  unfold receive
  split
  case h_1 next => exact ⟨_, .turns (.reads here next)⟩
  case h_2 next => exact ⟨_, .turns (.fails here next)⟩
  case h_3 drained =>
    split
    case isTrue closed => exact ⟨_, .turns (.finishes here drained closed)⟩
    case isFalse opened =>
      have same : { s with worker := some w } = s := by rw [← working]
      rw [same]
      exact ⟨_, .rests (.waits here drained (by simpa using opened))⟩

theorem work_of_no_worker {s : Subscription} (gone : s.worker = none) (heeds : Bool) : s.work heeds = s := by
  rw [work, gone]

theorem step_work {s : Subscription} {w : Worker} (heeds : Bool) (working : s.worker = some w) :
    ∃ new, Step s w new (s.work heeds) := by
  unfold work
  rw [working]
  dsimp only
  split
  case h_1 here =>
    split
    case isTrue asked => exact ⟨_, .turns (.stops asked (by rw [Worker.isLive, here]))⟩
    case isFalse free => exact ⟨_, .turns (.goesOn here (by simpa using free))⟩
  case h_2 here =>
    split
    case isTrue asked =>
      rw [Bool.and_eq_true] at asked
      exact ⟨_, .turns (.stops asked.1 (by rw [Worker.isLive, here]))⟩
    case isFalse => exact step_receive working here
  case h_3 here => exact ⟨_, .turns (.returns here)⟩
  case h_4 here =>
    split
    case isTrue asked =>
      rw [Bool.and_eq_true] at asked
      exact ⟨_, .turns (.stops asked.1 (by rw [Worker.isLive, here]))⟩
    case isFalse => exact ⟨_, step_deliver here⟩
  case h_5 here => exact ⟨_, .rests (.ended (by rw [Worker.isLive, here]))⟩

/-- What has been brought to the worker and is not read yet. -/
def incoming (s : Subscription) : List Arrival := s.worker.elim [] (·.incoming)

theorem Step.incoming {s s' : Subscription} {w : Worker} {new : List Arrival} (step : Step s w new s')
    (working : s.worker = some w) : s.incoming = new ++ s'.incoming := by
  cases step with
  | turns turn => simpa [Subscription.incoming, working] using turn.incoming
  | _ => simp [Subscription.incoming, working]

end Subscription

end AttributeStore
