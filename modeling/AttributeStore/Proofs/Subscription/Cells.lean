import AttributeStore.Proofs.Subscription.Session
import Mathlib.Logic.Function.Basic

/-! The cells in which a subscriber and its workers meet: a signal that asks to stop and a channel to queue into. They
outlive the worker that they were made for, and so does what is left in them. What the subscriber sees is a
`Subscription` all the same: each event does to it what it does to one. -/
namespace AttributeStore

/-- How a worker is asked to stop. -/
structure Signal where
  /-- It is looked at before each chunk. -/
  shutdown : Bool := false
  /-- It wakes a worker that waits or will wait, and is used up by waking it. -/
  permit : Bool := false

/-- A worker that was spawned, and the addresses of the cells that it was given. -/
structure Task where
  worker : Worker
  signal : Nat
  /-- With handlers there is none. -/
  channel : Option Nat

/-- What the subscriber holds of the worker that it spawned last: nothing, its handle, or a stop that waits for it and
may have woken it. -/
inductive Grip
  | none
  | handle
  | stopping (woken : Bool)
  deriving DecidableEq

/-- While a stop waits, the subscriber does nothing else. -/
def Grip.isStopping : Grip → Bool
  | .stopping _ => true
  | _ => false

structure Lifecycle where
  handlers : List Handler
  capacity : Option Nat
  propagates : Bool
  calls : List Call := []
  signals : Nat → Signal := fun _ => {}
  channels : Nat → List Intervention := fun _ => []
  /-- The first address without a cell. -/
  next : Nat := 1
  /-- All workers that were ever spawned, the last one first. -/
  tasks : List Task := []
  grip : Grip := .none
  /-- The signal that a stop gives. -/
  signal : Nat := 0
  /-- The channel that is taken from. -/
  receiver : Option Nat := none

namespace Worker

/-- Whether a worker finds itself asked to stop, where it stands. -/
def isAsked (w : Worker) (signal : Signal) : Bool :=
  match w.activity with
  | .checking => signal.shutdown
  | _ => signal.permit

/-- It waits, for its stream or to deliver, and can be woken. -/
def listens (w : Worker) : Bool :=
  match w.activity with
  | .waiting | .delivering (_ :: _) => true
  | _ => false

theorem isAsked_of_listens {w : Worker} (listens : w.listens = true) (signal : Signal) :
    w.isAsked signal = signal.permit := by
  unfold Worker.listens at listens
  unfold Worker.isAsked
  split at listens <;> simp_all

/-- Its stream takes what it is brought, unless it has ended or is read no more. -/
def bring (a : Arrival) (w : Worker) : Worker :=
  if w.isLive && !w.isClosed then { w with incoming := w.incoming ++ [a] } else w

end Worker

namespace Subscription

variable {s : Subscription} {w : Worker}

/-- The subscription whose worker has been asked to stop, or has not. -/
def asking (isStopping : Bool) (s : Subscription) : Subscription :=
  { s with worker := s.worker.map ({ · with isStopping }) }

theorem deliver_asking (b : Bool) (w : Worker) (i : Intervention) (left : List Intervention) :
    (s.asking b).deliver { w with isStopping := b } i left = (s.deliver w i left).asking b := by
  have handlers : (s.asking b).handlers = s.handlers := rfl
  have room : (s.asking b).hasRoom = s.hasRoom := rfl
  unfold deliver
  rw [handlers, room]
  split
  · split
    · rfl
    · rfl
  · rw [show (s.asking b).propagates = s.propagates from rfl, show (s.asking b).calls = s.calls from rfl]
    rcases callHandlers s.propagates i 0 s.handlers s.calls with ⟨made, _ | failure⟩
    · rfl
    · rfl

/-- A step is the same where a worker cannot tell whether it has been asked to stop. -/
theorem work_asking (working : s.worker = some w) {b heeds heeds' : Bool}
    (alike : match w.activity with
      | .checking => w.isStopping = b
      | _ => (w.isStopping && heeds) = (b && heeds')) :
    (s.asking b).work heeds' = (s.work heeds).asking b := by
  have deliver := deliver_asking (s := s) b w
  obtain ⟨handlers, capacity, propagates, worker, queue, calls⟩ := s
  obtain ⟨incoming, isClosed, isStopping, parser, activity⟩ := w
  obtain rfl : worker = _ := working
  cases activity with
  | checking =>
    obtain rfl : isStopping = b := alike
    rfl
  | waiting =>
    have alike : (isStopping && heeds) = (b && heeds') := alike
    simp only [asking, Option.map_some, work, alike]
    split
    · rfl
    · cases incoming with
      | nil => cases isClosed <;> rfl
      | cons a more => cases a <;> rfl
  | delivering left =>
    cases left with
    | nil => rfl
    | cons i left =>
      have alike : (isStopping && heeds) = (b && heeds') := alike
      have delivered := deliver i left
      simp only [asking, Option.map_some, work, alike] at delivered ⊢
      split
      · rfl
      · exact delivered
  | ended failure => rfl

/-- A worker that heeds a stop where it waits has ended. -/
theorem work_heeding (working : s.worker = some w) (listens : w.listens = true) (asked : w.isStopping = true) :
    s.work true = { s with worker := some { w with activity := .ended none } } := by
  unfold Worker.listens at listens
  unfold work
  rw [working]
  dsimp only
  split at listens <;> simp_all

theorem work_worker (working : s.worker = some w) (heeds : Bool) : ∃ w', (s.work heeds).worker = some w' := by
  obtain ⟨new, step⟩ := step_work heeds working
  generalize s.work heeds = s' at step ⊢
  cases step with
  | rests => exact ⟨w, working⟩
  | turns | queues | handles | breaks => exact ⟨_, rfl⟩

theorem work_keeps (s : Subscription) (heeds : Bool) :
    (s.work heeds).handlers = s.handlers ∧ (s.work heeds).capacity = s.capacity ∧
    (s.work heeds).propagates = s.propagates ∧ ((s.work heeds).queue = none ↔ s.queue = none) := by
  cases working : s.worker with
  | none =>
    rw [work_of_no_worker working]
    exact ⟨rfl, rfl, rfl, Iff.rfl⟩
  | some w =>
    obtain ⟨new, step⟩ := step_work heeds working
    generalize s.work heeds = s' at step ⊢
    cases step <;> exact ⟨rfl, rfl, rfl, by simp⟩

theorem isRunning_stopped (s : Subscription) : (workTimes 2 s.requestStop).isRunning = false := by
  have stopped : (workTimes 2 s.requestStop).collect = (s.worker.bind Worker.failure?, { s with worker := none }) :=
    s.stop_eq
  rcases (workTimes 2 s.requestStop).collect_cases with same | ⟨w, failure, working, ended, -⟩
  · rw [same] at stopped
    have gone : (workTimes 2 s.requestStop).worker = none := congrArg (fun r => r.2.worker) stopped
    rw [isRunning, gone]
    rfl
  · simp [isRunning, working, Worker.isLive, ended]

end Subscription

namespace Lifecycle

/-- What may happen at any moment. Workers are counted from the last one that was spawned. -/
inductive Event
  | start (incoming : List Arrival) (isClosed : Bool)
  | take
  /-- A stop gives up the handle and sets the flag, then wakes the worker, and is over when the worker has ended. -/
  | stop
  | wake
  | join
  | arrive (age : Nat) (a : Arrival)
  | close (age : Nat)
  | work (age : Nat) (heeds : Bool)

/-- What a call of the subscriber returns. -/
inductive Answer
  | started (result : StartResult)
  | taken (i : Option Intervention)
  | stopped (failure : Option WorkerFailure)

def isRunning (l : Lifecycle) : Bool :=
  l.grip = .handle && l.tasks[0]?.any (·.worker.isLive)

/-- Spawns a worker with cells of its own. -/
def spawn (incoming : List Arrival) (isClosed : Bool) (l : Lifecycle) : Lifecycle :=
  { l with
    signals := Function.update l.signals l.next {}
    channels := if l.handlers.isEmpty then Function.update l.channels l.next [] else l.channels
    next := l.next + 1
    tasks := ⟨{ incoming, isClosed }, l.next, if l.handlers.isEmpty then some l.next else none⟩ :: l.tasks
    grip := .handle
    signal := l.next
    receiver := if l.handlers.isEmpty then some l.next else l.receiver }

/-- What a start leaves that cannot make its queue: the last worker is let go, and a signal is there for a worker that
was not spawned. -/
def breakOff (l : Lifecycle) : Lifecycle :=
  { l with
    signals := Function.update l.signals l.next {}
    next := l.next + 1
    grip := .none
    signal := l.next }

/-- The subscription as one of its workers sees it. -/
def seenBy (t : Task) (l : Lifecycle) : Subscription where
  handlers := l.handlers
  capacity := l.capacity
  propagates := l.propagates
  worker := some { t.worker with isStopping := t.worker.isAsked (l.signals t.signal) }
  queue := t.channel.map l.channels
  calls := l.calls

/-- The subscription as the subscriber sees it. -/
def subscription (l : Lifecycle) : Subscription where
  handlers := l.handlers
  capacity := l.capacity
  propagates := l.propagates
  worker :=
    match l.grip with
    | .none => none
    | .handle => l.tasks[0]?.map (·.worker)
    | .stopping _ => l.tasks[0]?.map fun t => { t.worker with isStopping := true }
  queue := l.receiver.map l.channels
  calls := l.calls

/-- A worker takes a step and leaves what it did in its cells. -/
def step (age : Nat) (t : Task) (heeds : Bool) (l : Lifecycle) : Lifecycle :=
  let s := (l.seenBy t).work heeds
  let signal := l.signals t.signal
  { l with
    tasks := l.tasks.set age { t with worker := { s.worker.getD t.worker with isStopping := t.worker.isStopping } }
    signals := Function.update l.signals t.signal
      (if heeds && t.worker.listens then { signal with permit := false } else signal)
    channels :=
      match t.channel, s.queue with
      | some c, some queue => Function.update l.channels c queue
      | _, _ => l.channels
    calls := s.calls }

/-- Changes what a worker is brought. -/
def feed (age : Nat) (f : Worker → Worker) (l : Lifecycle) : Lifecycle :=
  { l with tasks := l.tasks.modify age fun t => { t with worker := f t.worker } }

def play (l : Lifecycle) : Event → Option Answer × Lifecycle
  | .start incoming isClosed =>
    if l.grip.isStopping then (none, l)
    else if l.isRunning then (some (.started .running), l)
    else if Subscription.canQueue l.handlers l.capacity then (some (.started .started), l.spawn incoming isClosed)
    else (some (.started .broken), l.breakOff)
  | .take =>
    if l.grip.isStopping then (none, l)
    else
      match l.receiver with
      | none => (some (.taken none), l)
      | some c =>
        (some (.taken (l.channels c).head?), { l with channels := Function.update l.channels c (l.channels c).tail })
  | .stop =>
    match l.grip with
    | .none => (some (.stopped none), l)
    | .handle =>
      (none, { l with
        signals := Function.update l.signals l.signal { l.signals l.signal with shutdown := true }
        grip := .stopping false })
    | .stopping _ => (none, l)
  | .wake =>
    match l.grip with
    | .stopping false =>
      (none, { l with
        signals := Function.update l.signals l.signal { l.signals l.signal with permit := true }
        grip := .stopping true })
    | _ => (none, l)
  | .join =>
    match l.grip, l.tasks[0]? with
    | .stopping true, some t =>
      match t.worker.activity with
      | .ended failure => (some (.stopped failure), { l with grip := .none })
      | _ => (none, l)
    | _, _ => (none, l)
  | .arrive age a =>
    (none, l.feed age (Worker.bring a))
  | .close age => (none, l.feed age fun w => { w with isClosed := true })
  | .work age heeds =>
    match l.tasks[age]? with
    | some t => (none, l.step age t heeds)
    | none => (none, l)

/-- What is answered on the way, and where it ends. -/
def playAll (l : Lifecycle) : List Event → List Answer × Lifecycle
  | [] => ([], l)
  | e :: events =>
    let (answer, next) := l.play e
    let (answers, last) := next.playAll events
    (answer.toList ++ answers, last)

/-! One moment, as the subscriber sees it. -/

/-- What an event does to the subscription that the subscriber sees. -/
def follow (e : Event) (grip : Grip) (s : Subscription) : Option Answer × Grip × Subscription :=
  match e with
  | .start incoming isClosed =>
    if grip.isStopping then (none, grip, s)
    else
      let (result, next) := s.start incoming isClosed
      let held := match result with
        | .running => grip
        | .started => .handle
        | .broken => .none
      (some (.started result), held, next)
  | .take =>
    if grip.isStopping then (none, grip, s)
    else
      let (taken, next) := s.take
      (some (.taken taken), grip, next)
  | .stop =>
    match grip with
    | .none => (some (.stopped none), grip, s)
    | .handle => (none, .stopping false, s.requestStop)
    | .stopping woken => (none, .stopping woken, s)
  | .wake => (none, if grip = .stopping false then .stopping true else grip, s)
  | .join =>
    if grip = .stopping true ∧ s.isRunning = false then
      let (failure, next) := s.collect
      (some (.stopped failure), .none, next)
    else (none, grip, s)
  | .arrive age a => (none, grip, if age = 0 then (s.send a).2 else s)
  | .close age => (none, grip, if age = 0 then s.close else s)
  | .work age heeds => (none, grip, if age = 0 then s.work (heeds && grip ≠ .stopping false) else s)

def followAll : List Event → Grip → Subscription → List Answer × Grip × Subscription
  | [], grip, s => ([], grip, s)
  | e :: events, grip, s =>
    let (answer, grip, s) := follow e grip s
    let (answers, last) := followAll events grip s
    (answer.toList ++ answers, last)

/-- What is left in the signal of the last worker. -/
def Agrees (grip : Grip) (signal : Signal) (isLive : Bool) : Prop :=
  match grip with
  | .none => isLive = false
  | .handle => signal = {}
  | .stopping false => signal = { shutdown := true }
  | .stopping true => signal.shutdown = true ∧ (isLive = true → signal.permit = true)

/-- All workers but the last have ended, and the last shares its cells with the subscriber: its channel, and its signal
as long as the subscriber holds it. -/
structure Sound (l : Lifecycle) : Prop where
  settled : ∀ age t, l.tasks[age + 1]? = some t → t.worker.isLive = false
  shared : ∀ t, l.tasks[0]? = some t → t.channel = l.receiver ∧ t.worker.isStopping = false
  heard : l.grip ≠ .none → ∀ t, l.tasks[0]? = some t → t.signal = l.signal
  agrees : ∀ t, l.tasks[0]? = some t → Agrees l.grip (l.signals l.signal) t.worker.isLive
  held : l.grip ≠ .none → l.tasks ≠ []
  unqueued : l.handlers ≠ [] → l.receiver = none

variable {l : Lifecycle}

/-- The subscriber sees a worker running just if the last one lives. -/
theorem Sound.isRunning_subscription (sound : l.Sound) :
    l.subscription.isRunning = l.tasks[0]?.any (·.worker.isLive) := by
  have agrees := sound.agrees
  unfold subscription Subscription.isRunning
  cases grip : l.grip with
  | none =>
    rw [grip] at agrees
    cases newest : l.tasks[0]? with
    | none => rfl
    | some t => exact (agrees t newest).symm
  | handle => exact Option.any_map ..
  | stopping => exact Option.any_map ..

theorem Sound.isRunning (sound : l.Sound) (free : l.grip.isStopping = false) :
    l.isRunning = l.subscription.isRunning := by
  rw [sound.isRunning_subscription, Lifecycle.isRunning]
  cases grip : l.grip with
  | handle => rfl
  | stopping woken => simp [grip, Grip.isStopping] at free
  | none =>
    have agrees := sound.agrees
    rw [grip] at agrees
    cases newest : l.tasks[0]? with
    | none => rfl
    | some t => exact (agrees t newest).symm

theorem Sound.spawn (sound : l.Sound) (idle : l.subscription.isRunning = false) (incoming : List Arrival)
    (isClosed : Bool) : (l.spawn incoming isClosed).Sound := by
  rw [sound.isRunning_subscription] at idle
  refine ⟨fun age t older => ?_, ?_, ?_, ?_, nofun, fun handled => ?_⟩
  · cases age with
    | zero =>
      have newest : l.tasks[0]? = some t := older
      rwa [newest] at idle
    | succ age => exact sound.settled age t older
  · rintro _ ⟨⟩
    refine ⟨?_, rfl⟩
    show (if l.handlers.isEmpty then some l.next else none) = if l.handlers.isEmpty then some l.next else l.receiver
    split
    case isTrue => rfl
    case isFalse handled => rw [sound.unqueued (by simpa using handled)]
  · rintro - _ ⟨⟩
    rfl
  · rintro _ ⟨⟩
    exact Function.update_self ..
  · have handled : l.handlers ≠ [] := handled
    show (if l.handlers.isEmpty then some l.next else l.receiver) = none
    rw [if_neg (by simpa using handled), sound.unqueued handled]

theorem subscription_spawn (incoming : List Arrival) (isClosed : Bool) :
    l.subscription.spawn incoming isClosed = (l.spawn incoming isClosed).subscription := by
  unfold Subscription.spawn subscription Lifecycle.spawn
  by_cases unhandled : l.handlers = []
  · simp [unhandled]
  · simp [unhandled]

theorem subscription_start (idle : l.subscription.isRunning = false) (incoming : List Arrival) (isClosed : Bool) :
    l.subscription.start incoming isClosed = if Subscription.canQueue l.handlers l.capacity
      then (.started, (l.spawn incoming isClosed).subscription) else (.broken, l.breakOff.subscription) := by
  rw [Subscription.start, if_neg (by rw [idle]; exact Bool.false_ne_true), subscription_spawn]
  rfl

/-- A start that breaks off finds no worker running, and leaves none that is held. -/
theorem Sound.breakOff (sound : l.Sound) (idle : l.subscription.isRunning = false) : l.breakOff.Sound := by
  rw [sound.isRunning_subscription] at idle
  refine ⟨sound.settled, sound.shared, fun held => absurd rfl held, fun t newest => ?_, fun held => absurd rfl held,
    sound.unqueued⟩
  have newest : l.tasks[0]? = some t := newest
  rwa [newest] at idle

/-- What comes from outside changes neither whether a worker lives nor whether it shall stop. -/
theorem Sound.feed (sound : l.Sound) {f : Worker → Worker}
    (harmless : ∀ w, (f w).isLive = w.isLive ∧ (f w).isStopping = w.isStopping) (age : Nat) : (l.feed age f).Sound := by
  have before (n : Nat) (t : Task) (there : (l.feed age f).tasks[n]? = some t) : ∃ t', l.tasks[n]? = some t' ∧
      t.worker.isLive = t'.worker.isLive ∧ t.worker.isStopping = t'.worker.isStopping ∧ t.signal = t'.signal ∧
      t.channel = t'.channel := by
    rw [Lifecycle.feed, List.getElem?_modify] at there
    obtain ⟨t', known, rfl⟩ := Option.map_eq_some_iff.mp there
    refine ⟨t', known, ?_⟩
    split
    · exact ⟨(harmless _).1, (harmless _).2, rfl, rfl⟩
    · exact ⟨rfl, rfl, rfl, rfl⟩
  refine ⟨fun n t there => ?_, fun t there => ?_, fun holds t there => ?_, fun t there => ?_, fun holds => ?_,
    sound.unqueued⟩
  · obtain ⟨t', known, live, -⟩ := before _ t there
    rw [live, sound.settled n t' known]
  · obtain ⟨t', known, -, stopping, -, channel⟩ := before _ t there
    rw [stopping, channel]
    exact sound.shared t' known
  · obtain ⟨t', known, -, -, signal, -⟩ := before _ t there
    rw [signal]
    exact sound.heard holds t' known
  · obtain ⟨t', known, live, -⟩ := before _ t there
    rw [live]
    exact sound.agrees t' known
  · rw [Lifecycle.feed, ne_eq, List.modify_eq_nil_iff]
    exact sound.held holds

theorem subscription_bring (age : Nat) (a : Arrival) : (l.feed age (Worker.bring a)).subscription =
    if age = 0 then (l.subscription.send a).2 else l.subscription := by
  unfold subscription Lifecycle.feed
  cases age with
  | succ age => simp
  | zero =>
    simp only [List.getElem?_modify, if_true]
    rcases l.tasks[0]? with _ | ⟨⟨incoming, isClosed, isStopping, parser, activity⟩, signal, channel⟩
    · cases l.grip <;> rfl
    · cases l.grip <;> cases isClosed <;> cases activity <;> rfl

theorem subscription_close (age : Nat) : (l.feed age fun w => { w with isClosed := true }).subscription =
    if age = 0 then l.subscription.close else l.subscription := by
  unfold subscription Lifecycle.feed
  cases age with
  | succ age => simp
  | zero =>
    simp only [List.getElem?_modify, if_true]
    cases l.grip <;> cases l.tasks[0]? <;> rfl

theorem step_of_ended {age : Nat} {t : Task} (there : l.tasks[age]? = some t) (ended : t.worker.isLive = false)
    (heeds : Bool) : l.step age t heeds = l := by
  have rests : (l.seenBy t).work heeds = l.seenBy t := (l.seenBy t).work_of_not_running ended heeds
  have deaf : t.worker.listens = false := by
    unfold Worker.isLive at ended
    unfold Worker.listens
    cases activity : t.worker.activity <;> simp [activity] at ended ⊢
  have tasks : l.tasks.set age t = l.tasks := by
    obtain ⟨bound, rfl⟩ := List.getElem?_eq_some_iff.mp there
    exact List.set_getElem_self bound
  have channels : (match t.channel, t.channel.map l.channels with
      | some c, some queue => Function.update l.channels c queue
      | _, _ => l.channels) = l.channels := by
    cases t.channel with
    | none => rfl
    | some c => exact Function.update_eq_self c l.channels
  unfold step
  rw [rests]
  simp only [seenBy, Option.getD_some, deaf, Bool.and_false, Bool.false_eq_true, if_false, Function.update_eq_self,
    tasks, channels]

/-- Whether a worker finds itself asked is what the subscriber holds, but for a stop that has not woken it yet. -/
theorem Agrees.isAsked {grip : Grip} {signal : Signal} {w : Worker} (agrees : Agrees grip signal w.isLive)
    (live : w.isLive = true) (heeds : Bool) :
    match w.activity with
    | .checking => w.isAsked signal = (grip ≠ .handle : Bool)
    | _ => (w.isAsked signal && heeds) = ((grip ≠ .handle : Bool) && (heeds && grip ≠ .stopping false)) := by
  unfold Agrees at agrees
  split at agrees
  case h_1 => simp [live] at agrees
  case h_2 =>
    subst agrees
    cases activity : w.activity <;> simp [Worker.isAsked, activity]
  case h_3 =>
    subst agrees
    cases activity : w.activity <;> simp [Worker.isAsked, activity]
  case h_4 =>
    have permit := agrees.2 live
    cases activity : w.activity <;> simp [Worker.isAsked, activity, agrees.1, permit]

theorem Sound.held_of_live (sound : l.Sound) {t : Task} (newest : l.tasks[0]? = some t)
    (live : t.worker.isLive = true) : l.grip ≠ .none := by
  intro none
  have agrees := sound.agrees t newest
  rw [none] at agrees
  exact absurd (live.symm.trans agrees) (by decide)

/-- The subscriber sees its worker as the worker sees itself, but for being asked to stop. -/
theorem subscription_eq_asking (sound : l.Sound) {t : Task} (newest : l.tasks[0]? = some t) (held : l.grip ≠ .none) :
    l.subscription = (l.seenBy t).asking (l.grip ≠ .handle) := by
  obtain ⟨channel, free⟩ := sound.shared t newest
  unfold subscription seenBy Subscription.asking
  rw [channel, newest]
  cases grip : l.grip with
  | none => exact absurd grip held
  | handle => simp [← free]
  | stopping woken => simp

theorem subscription_step (sound : l.Sound) {t : Task} (newest : l.tasks[0]? = some t) (live : t.worker.isLive = true)
    (heeds : Bool) :
    (l.step 0 t heeds).subscription = l.subscription.work (heeds && l.grip ≠ .stopping false) := by
  have agrees := sound.agrees t newest
  have held := sound.held_of_live newest live
  obtain ⟨channel, free⟩ := sound.shared t newest
  have signal := sound.heard held t newest
  have alike := agrees.isAsked live heeds
  rw [← signal] at alike
  rw [subscription_eq_asking sound newest held, Subscription.work_asking (s := l.seenBy t) rfl alike]
  obtain ⟨w, worked⟩ := Subscription.work_worker (s := l.seenBy t) rfl heeds
  obtain ⟨handlers, capacity, propagates, queue⟩ := (l.seenBy t).work_keeps heeds
  have bound : 0 < l.tasks.length := (List.getElem?_eq_some_iff.mp newest).1
  have queued : (l.step 0 t heeds).receiver.map (l.step 0 t heeds).channels = ((l.seenBy t).work heeds).queue := by
    unfold step
    dsimp only
    rw [← channel]
    cases address : t.channel with
    | none =>
      have unqueued : (l.seenBy t).queue = none := by rw [seenBy, address]; rfl
      exact (queue.mpr unqueued).symm
    | some c =>
      cases after : ((l.seenBy t).work heeds).queue with
      | none =>
        have unqueued := queue.mp after
        rw [seenBy, address] at unqueued
        cases unqueued
      | some left => exact congrArg some (Function.update_self c left l.channels)
  unfold subscription
  rw [queued]
  unfold step Subscription.asking
  dsimp only
  rw [worked, List.getElem?_set_self bound, handlers, capacity, propagates]
  cases grip : l.grip with
  | none => exact absurd grip held
  | handle => simp [seenBy, free]
  | stopping woken => simp [seenBy]

/-- A permit is used up by ending, so a signal agrees with what is held of its worker after a step too. -/
theorem Agrees.used {grip : Grip} {signal : Signal} {heard isLive : Bool} (agrees : Agrees grip signal true)
    (ends : heard = true → signal.permit = true → isLive = false) :
    Agrees grip (if heard then { signal with permit := false } else signal) isLive := by
  cases grip with
  | none => cases agrees
  | handle =>
    obtain rfl : signal = {} := agrees
    split <;> rfl
  | stopping woken =>
    cases woken with
    | false =>
      obtain rfl : signal = { shutdown := true } := agrees
      split <;> rfl
    | true =>
      obtain ⟨shutdown, permit⟩ := agrees
      split
      case isFalse => exact ⟨shutdown, fun _ => permit rfl⟩
      case isTrue woken =>
        refine ⟨shutdown, fun alive => ?_⟩
        rw [ends woken (permit rfl)] at alive
        cases alive

theorem Sound.step (sound : l.Sound) {t : Task} (newest : l.tasks[0]? = some t) (live : t.worker.isLive = true)
    (heeds : Bool) : (l.step 0 t heeds).Sound := by
  obtain ⟨channel, free⟩ := sound.shared t newest
  have signal := sound.heard (sound.held_of_live newest live) t newest
  have agrees := sound.agrees t newest
  have bound : 0 < l.tasks.length := (List.getElem?_eq_some_iff.mp newest).1
  have first (t' : Task) (there : (l.step 0 t heeds).tasks[0]? = some t') :
      t' = { t with worker :=
        { ((l.seenBy t).work heeds).worker.getD t.worker with isStopping := t.worker.isStopping } } := by
    rw [Lifecycle.step, List.getElem?_set_self bound] at there
    exact (Option.some.inj there).symm
  refine ⟨fun age t' there => ?_, fun t' there => ?_, fun _ t' there => ?_, fun t' there => ?_, fun _ => ?_,
    sound.unqueued⟩
  · rw [Lifecycle.step, List.getElem?_set_ne (by omega)] at there
    exact sound.settled age t' there
  · rw [first t' there]
    exact ⟨channel, free⟩
  · rw [first t' there]
    exact signal
  · rw [first t' there]
    have left : (l.step 0 t heeds).signals l.signal = if heeds && t.worker.listens then
        { l.signals l.signal with permit := false } else l.signals l.signal := by
      rw [Lifecycle.step, ← signal]
      exact Function.update_self ..
    show Agrees l.grip ((l.step 0 t heeds).signals l.signal) _
    rw [left]
    refine Agrees.used (live ▸ agrees) fun heard permit => ?_
    rw [Bool.and_eq_true] at heard
    obtain ⟨rfl, listens⟩ := heard
    have asked : t.worker.isAsked (l.signals t.signal) = true := by
      rw [Worker.isAsked_of_listens listens, signal, permit]
    rw [Subscription.work_heeding (s := l.seenBy t) rfl listens asked]
    rfl
  · rw [Lifecycle.step, ne_eq, List.set_eq_nil_iff]
    exact List.ne_nil_of_length_pos bound

theorem work_sound (sound : l.Sound) (age : Nat) (heeds : Bool) : (l.play (.work age heeds)).2.Sound ∧
    (l.play (.work age heeds)).2.grip = l.grip ∧ (l.play (.work age heeds)).2.subscription =
      if age = 0 then l.subscription.work (heeds && l.grip ≠ .stopping false) else l.subscription := by
  have still (ended : age = 0 → l.tasks[0]?.any (·.worker.isLive) = false) : l.subscription =
      if age = 0 then l.subscription.work (heeds && l.grip ≠ .stopping false) else l.subscription := by
    split
    case isTrue last =>
      rw [Subscription.work_of_not_running (sound.isRunning_subscription.trans (ended last))]
    case isFalse => rfl
  rw [play]
  cases there : l.tasks[age]? with
  | none => exact ⟨sound, rfl, still fun last => by rw [← last, there]; rfl⟩
  | some t =>
    cases live : t.worker.isLive with
    | false =>
      dsimp only
      rw [step_of_ended there live]
      exact ⟨sound, rfl, still fun last => by rw [← last, there]; exact live⟩
    | true =>
      cases age with
      | zero => exact ⟨sound.step there live heeds, rfl, subscription_step sound there live heeds⟩
      | succ age => exact absurd (live.symm.trans (sound.settled age t there)) (by decide)

/-- The event keeps the life cycle sound, and the subscriber sees what it does to a subscription. -/
def Follows (l : Lifecycle) (e : Event) : Prop :=
  (l.play e).2.Sound ∧
    follow e l.grip l.subscription = ((l.play e).1, (l.play e).2.grip, (l.play e).2.subscription)

theorem follows_start (sound : l.Sound) (incoming : List Arrival) (isClosed : Bool) :
    l.Follows (.start incoming isClosed) := by
  unfold Follows follow play
  cases free : l.grip.isStopping with
  | true => exact ⟨sound, rfl⟩
  | false =>
    dsimp only
    rw [sound.isRunning free]
    cases live : l.subscription.isRunning with
    | true =>
      rw [Subscription.start, if_pos live]
      exact ⟨sound, rfl⟩
    | false =>
      rw [subscription_start live]
      cases Subscription.canQueue l.handlers l.capacity with
      | true => exact ⟨sound.spawn live incoming isClosed, rfl⟩
      | false => exact ⟨sound.breakOff live, rfl⟩

theorem follows_take (sound : l.Sound) : l.Follows .take := by
  unfold Follows follow play
  cases l.grip.isStopping with
  | true => exact ⟨sound, rfl⟩
  | false =>
    dsimp only
    rw [Subscription.take_eq]
    cases address : l.receiver with
    | none =>
      refine ⟨sound, ?_⟩
      simp [subscription, address, Subscription.queued]
    | some c =>
      have shared := sound.shared
      have unqueued := sound.unqueued
      rw [address] at shared unqueued
      refine ⟨⟨sound.settled, shared, sound.heard, sound.agrees, sound.held, unqueued⟩, ?_⟩
      simp [subscription, address, Subscription.queued]

theorem follows_stop (sound : l.Sound) : l.Follows .stop := by
  unfold Follows follow play
  cases grip : l.grip with
  | none => exact ⟨sound, by rw [grip]⟩
  | stopping woken => exact ⟨sound, by rw [grip]⟩
  | handle =>
    have agrees := sound.agrees
    rw [grip] at agrees
    have held : l.grip ≠ .none := by rw [grip]; nofun
    refine ⟨⟨sound.settled, sound.shared, fun _ => sound.heard held, fun t newest => ?_, fun _ => sound.held held,
      sound.unqueued⟩, ?_⟩
    · show Function.update l.signals l.signal _ l.signal = _
      rw [Function.update_self, show l.signals l.signal = {} from agrees t newest]
    · simp [subscription, grip, Subscription.requestStop, Function.comp_def]

theorem follows_wake (sound : l.Sound) : l.Follows .wake := by
  unfold Follows follow play
  have agrees := sound.agrees
  cases grip : l.grip with
  | none => exact ⟨sound, by rw [grip]; rfl⟩
  | handle => exact ⟨sound, by rw [grip]; rfl⟩
  | stopping woken =>
    rw [grip] at agrees
    cases woken with
    | true => exact ⟨sound, by rw [grip]; rfl⟩
    | false =>
      have held : l.grip ≠ .none := by rw [grip]; nofun
      refine ⟨⟨sound.settled, sound.shared, fun _ => sound.heard held, fun t newest => ?_, fun _ => sound.held held,
        sound.unqueued⟩, ?_⟩
      · show Agrees (.stopping true) (Function.update l.signals l.signal _ l.signal) _
        rw [Function.update_self, show l.signals l.signal = { shutdown := true } from agrees t newest]
        exact ⟨rfl, fun _ => rfl⟩
      · simp [subscription, grip]

theorem follows_join (sound : l.Sound) : l.Follows .join := by
  have waits (same : l.play .join = (none, l))
      (refused : ¬(l.grip = .stopping true ∧ l.subscription.isRunning = false)) : l.Follows .join := by
    rw [Follows, same, follow, if_neg refused]
    exact ⟨sound, rfl⟩
  have held := sound.held
  cases grip : l.grip with
  | none => exact waits (by rw [play, grip]) (by simp [grip])
  | handle => exact waits (by rw [play, grip]) (by simp [grip])
  | stopping woken =>
    cases woken with
    | false => exact waits (by rw [play, grip]) (by simp [grip])
    | true =>
      obtain ⟨t, newest⟩ : ∃ t, l.tasks[0]? = some t := by
        obtain ⟨t, older, tasks⟩ := List.exists_cons_of_ne_nil (held (by simp [grip]))
        exact ⟨t, by rw [tasks]; rfl⟩
      have running := sound.isRunning_subscription
      rw [newest, Option.any_some, Worker.isLive] at running
      cases activity : t.worker.activity with
      | checking | waiting | delivering =>
        rw [activity] at running
        exact waits (by rw [play, grip, newest]; dsimp only; rw [activity]) (by simp [running])
      | ended failure =>
        rw [activity] at running
        have played : l.play .join = (some (.stopped failure), { l with grip := .none }) := by
          rw [play, grip, newest]
          dsimp only
          rw [activity]
        have collected : l.subscription.collect = (failure, { l.subscription with worker := none }) := by
          simp [Subscription.collect, subscription, grip, newest, activity]
        rw [Follows, played, follow, if_pos ⟨grip, running⟩, collected]
        refine ⟨⟨sound.settled, sound.shared, fun held => absurd rfl held, fun t' newest' => ?_, by simp,
          sound.unqueued⟩, rfl⟩
        obtain rfl : t = t' := Option.some.inj (newest.symm.trans newest')
        show t.worker.isLive = false
        rw [Worker.isLive, activity]

/-- Every event keeps the life cycle sound, and the subscriber sees what the event does to a subscription. -/
theorem Sound.follows (sound : l.Sound) (e : Event) : l.Follows e := by
  cases e with
  | start incoming isClosed => exact follows_start sound incoming isClosed
  | take => exact follows_take sound
  | stop => exact follows_stop sound
  | wake => exact follows_wake sound
  | join => exact follows_join sound
  | arrive age a =>
    refine ⟨sound.feed (f := Worker.bring a) (fun w => ?_) age, ?_⟩
    · unfold Worker.bring
      split <;> exact ⟨rfl, rfl⟩
    · rw [follow, play, subscription_bring]
      rfl
  | close age =>
    refine ⟨sound.feed (f := fun w => { w with isClosed := true }) (fun w => ⟨rfl, rfl⟩) age, ?_⟩
    rw [follow, play, subscription_close]
    rfl
  | work age heeds =>
    obtain ⟨still, grip, seen⟩ := work_sound sound age heeds
    refine ⟨still, ?_⟩
    rw [follow, grip, seen, play]
    cases l.tasks[age]? <;> rfl

/-- A life cycle stays sound, and the subscriber sees what its events do to a subscription. -/
theorem Sound.playAll (sound : l.Sound) (events : List Event) :
    (l.playAll events).2.Sound ∧ followAll events l.grip l.subscription =
      ((l.playAll events).1, (l.playAll events).2.grip, (l.playAll events).2.subscription) := by
  induction events generalizing l with
  | nil => exact ⟨sound, rfl⟩
  | cons e events ih =>
    obtain ⟨still, followed⟩ := sound.follows e
    obtain ⟨last, others⟩ := ih still
    refine ⟨last, ?_⟩
    rw [followAll, followed]
    dsimp only
    rw [others]
    rfl

end Lifecycle

end AttributeStore
