import AttributeStore.Subscription.Basic

/-! What a worker does, one step at a time. A request to stop reaches it where it waits, for the stream or for room in
the queue, and before it reads on; where it could also go on, it may do either. -/
namespace AttributeStore.Subscription

/-- Calls the handlers with one intervention, from handler `index` on. -/
def callHandlers (propagates : Bool) (i : Intervention) :
    Nat → List Handler → List Call → List Call × Option WorkerFailure
  | _, [], calls => (calls, none)
  | index, h :: rest, calls =>
    match h calls.length i with
    | some reason =>
      if propagates then (calls ++ [⟨index, i⟩], some (.handler i.name reason))
      else callHandlers propagates i (index + 1) rest (calls ++ [⟨index, i⟩])
    | none => callHandlers propagates i (index + 1) rest (calls ++ [⟨index, i⟩])

/-- Delivers the next intervention of a chunk, if the queue has room for it. -/
def deliver (w : Worker) (i : Intervention) (left : List Intervention) (s : Subscription) : Subscription :=
  if s.handlers.isEmpty then
    if s.hasRoom then
      { s with
        worker := some { w with activity := .delivering left }
        queue := s.queue.map (· ++ [i]) }
    else s
  else
    match callHandlers s.propagates i 0 s.handlers s.calls with
    | (calls, none) => { s with worker := some { w with activity := .delivering left }, calls := calls }
    | (calls, some failure) => { s with worker := some { w with activity := .ended failure }, calls := calls }

/-- Reads the next arrival, if there is one. -/
def receive (w : Worker) : Worker :=
  match w.incoming with
  | .chunk bytes :: more =>
    let (parser, events) := w.parser.feed bytes
    { w with incoming := more, parser := parser, activity := .delivering (events.filterMap Intervention.ofEvent?) }
  | .failure message :: more => { w with incoming := more, activity := .ended (some (.stream message)) }
  | [] => if w.isClosed then { w with activity := .ended none } else w

/-- One step of the worker. Where it is asked to stop and could go on as well, `heeds` says which it does. -/
def work (heeds : Bool) (s : Subscription) : Subscription :=
  match s.worker with
  | none => s
  | some w =>
    match w.activity with
    | .checking =>
      { s with worker := some { w with activity := if w.isStopping then .ended none else .waiting } }
    | .waiting =>
      if w.isStopping && heeds then { s with worker := some { w with activity := .ended none } }
      else { s with worker := some (receive w) }
    | .delivering [] => { s with worker := some { w with activity := .checking } }
    | .delivering (i :: left) =>
      if w.isStopping && heeds then { s with worker := some { w with activity := .ended none } }
      else s.deliver w i left
    | .ended _ => s

def workTimes : Nat → Subscription → Subscription
  | 0, s => s
  | n + 1, s => workTimes n (s.work true)

/-- More steps than what has arrived can take: every event ends with a byte of its own. -/
def workload (w : Worker) : Nat :=
  let left := match w.activity with
    | .delivering left => left.length
    | _ => 0
  w.incoming.foldl (fun n a => n + match a with
    | .chunk bytes => bytes.length + 3
    | .failure _ => 3) (left + 3)

/-- The worker goes on until it has nothing to do. -/
def settle (s : Subscription) : Subscription :=
  match s.worker with
  | none => s
  | some w => workTimes (workload w) s

def requestStop (s : Subscription) : Subscription :=
  { s with worker := s.worker.map fun w => { w with isStopping := true } }

/-- Lets go of a worker that has ended, and tells why it ended if it was not its stream or a stop. -/
def collect (s : Subscription) : Option WorkerFailure × Subscription :=
  match s.worker with
  | some ⟨_, _, _, _, .ended failure⟩ => (failure, { s with worker := none })
  | _ => (none, s)

/-- Asks the worker to stop, which it does within two steps, and waits for it. -/
def stop (s : Subscription) : Option WorkerFailure × Subscription := (workTimes 2 s.requestStop).collect

end AttributeStore.Subscription
