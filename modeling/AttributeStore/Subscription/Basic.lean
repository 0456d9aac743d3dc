import AttributeStore.Intervention

/-! A subscription to interventions. A worker reads a stream and either queues what it decodes, for the subscriber to
take, or calls the subscriber's handlers. At most one worker is there at a time. -/
namespace AttributeStore

/-- What a handler answers to a call: nothing, or why it failed. It is told how many calls went before, so that its
answer may be another one each time. -/
abbrev Handler := Nat → Intervention → Option String

structure Call where
  handler : Nat
  intervention : Intervention

/-- What a stream yields: bytes, or the failure that ends it. -/
inductive Arrival
  | chunk (bytes : List UInt8)
  | failure (message : String)

/-- Why a worker ended before its stream did. -/
inductive WorkerFailure
  | stream (message : String)
  | handler (intervention reason : String)

/-- The chain of messages, the outermost first. -/
def WorkerFailure.messages : WorkerFailure → List String
  | .stream message => [message]
  | .handler intervention reason => [s!"handler failed for intervention '{intervention}'", reason]

/-- Where a worker stands: before it looks whether it shall stop, waiting for the stream, or with interventions of
the last chunk still to be delivered. -/
inductive Activity
  | checking
  | waiting
  | delivering (left : List Intervention)
  | ended (failure : Option WorkerFailure)

structure Worker where
  /-- What has arrived and is not read yet. -/
  incoming : List Arrival := []
  /-- Nothing more will arrive. -/
  isClosed : Bool := false
  /-- It has been asked to stop. -/
  isStopping : Bool := false
  parser : EventStream.Parser := {}
  activity : Activity := .checking

def Worker.isLive (w : Worker) : Bool :=
  match w.activity with
  | .ended _ => false
  | _ => true

/-- What a start comes to. -/
inductive StartResult
  /-- A worker is running already, and nothing changes. -/
  | running
  | started
  /-- The queue cannot be made: the start breaks off when it has let go of a worker that has ended. -/
  | broken
  deriving DecidableEq

/-- With handlers there is no queue. Without, the queue stays when its worker ends, and the next start replaces it. -/
structure Subscription where
  handlers : List Handler := []
  /-- The most that the queue holds, but never less than one. -/
  capacity : Option Nat := none
  /-- A failing handler ends the worker. -/
  propagates : Bool := false
  worker : Option Worker := none
  queue : Option (List Intervention) := none
  /-- All calls of handlers so far. -/
  calls : List Call := []

namespace Subscription

def isRunning (s : Subscription) : Bool := s.worker.any Worker.isLive

/-- The most that a bounded queue can be made for: an eighth of the largest number of 64 bits. -/
def maxCapacity : Nat := (UInt64.size - 1) / 8

/-- Whether a start can make the queue that it needs. With handlers it needs none. -/
def canQueue (handlers : List Handler) (capacity : Option Nat) : Bool :=
  !handlers.isEmpty || capacity.all (· ≤ maxCapacity)

/-- A worker on a stream, in place of one that has ended, and an empty queue for it. -/
def spawn (incoming : List Arrival) (isClosed : Bool) (s : Subscription) : Subscription :=
  { s with
    worker := some { incoming := incoming, isClosed := isClosed }
    queue := if s.handlers.isEmpty then some [] else s.queue }

/-- Starts a worker on a stream, unless one is running. -/
def start (incoming : List Arrival) (isClosed : Bool) (s : Subscription) : StartResult × Subscription :=
  if s.isRunning then (.running, s)
  else if canQueue s.handlers s.capacity then (.started, s.spawn incoming isClosed)
  else (.broken, { s with worker := none })

/-- Adds to the stream that is being read; a stream that has ended takes nothing. -/
def send (a : Arrival) (s : Subscription) : Bool × Subscription :=
  match s.worker with
  | some w =>
    if w.isLive && !w.isClosed then (true, { s with worker := some { w with incoming := w.incoming ++ [a] } })
    else (false, s)
  | none => (false, s)

/-- Ends the stream behind what has arrived. -/
def close (s : Subscription) : Subscription :=
  { s with worker := s.worker.map fun w => { w with isClosed := true } }

/-- The next queued intervention. -/
def take (s : Subscription) : Option Intervention × Subscription :=
  match s.queue with
  | some (i :: rest) => (some i, { s with queue := some rest })
  | _ => (none, s)

def hasRoom (s : Subscription) : Bool :=
  match s.queue, s.capacity with
  | some queue, some n => queue.length < max n 1
  | _, _ => true

end Subscription

end AttributeStore
