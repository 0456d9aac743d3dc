import AttributeStore.Proofs.Subscription.Session
import AttributeStore.Proofs.Subscription.Settling

/-! Interventions that are queued. What has been taken, what is queued and what the worker still holds are, in this
order, the interventions that have been read: none is lost, none comes twice, and none overtakes another. -/
namespace AttributeStore.Session

/-- A session without handlers, and what is in its queue. -/
structure Queues (r : Session) (queue : List Intervention) : Prop where
  unhandled : r.subscription.handlers = []
  holds : r.subscription.queue = some queue
  tracks : r.Tracks (r.given ++ queue)
  bounded : ∀ n, r.subscription.capacity = some n → queue.length ≤ max n 1
  unbroken : r.Unbroken

variable {r : Session} {queue : List Intervention}

theorem Queues.play_work (queues : r.Queues queue) (heeds : Bool) :
    ∃ queue', (r.play (.work heeds)).Queues queue' := by
  rcases r.play_work heeds with same | ⟨w, new, s, working, step, played⟩
  · rw [same]
    exact ⟨queue, queues⟩
  rw [played]
  have tracks := queues.tracks.worker w working
  cases step with
  | rests =>
    rw [List.append_nil]
    exact ⟨queue, queues⟩
  | turns turn =>
    refine ⟨queue, queues.unhandled, queues.holds, .of_worker rfl (tracks.turn turn), queues.bounded, ?_⟩
    rintro _ ⟨⟩
    exact turn.unbroken
  | @queues i left next _ room =>
    have longer := tracks.deliver next
    rw [List.append_assoc] at longer
    refine ⟨queue ++ [i], queues.unhandled, ?_, ?_, fun n capacity => ?_, ?_⟩
    · exact congrArg (Option.map (· ++ [i])) queues.holds
    · rw [List.append_nil]
      exact .of_worker rfl longer
    · have below : queue.length < max n 1 := by
        simpa [Subscription.hasRoom, queues.holds, (show r.subscription.capacity = some n from capacity)] using room
      rw [List.length_append]
      exact below
    · rintro _ ⟨⟩
      nofun
  | handles _ handled => exact absurd queues.unhandled handled
  | breaks _ handled => exact absurd queues.unhandled handled

theorem Queues.play_take (queues : r.Queues queue) : (r.play .take).Queues queue.tail := by
  have unbroken : (r.play .take).Unbroken := queues.unbroken.play_other nofun
  have tracks : (r.play .take).Tracks (r.given ++ queue) := queues.tracks.play_other nofun
  have given : r.given ++ r.subscription.queued.head?.toList ++ queue.tail = r.given ++ queue := by
    rw [Subscription.queued, queues.holds, List.append_assoc]
    cases queue <;> rfl
  rw [Session.play_take] at unbroken tracks ⊢
  refine ⟨queues.unhandled, ?_, ?_, fun n bound => ?_, unbroken⟩
  · exact congrArg (Option.map List.tail) queues.holds
  · rwa [given]
  · have within := queues.bounded n bound
    rw [List.length_tail]
    omega

theorem Queues.play_outside (queues : r.Queues queue) {move : Move} (other : ∀ heeds, move ≠ .work heeds)
    (kept : move ≠ .take) : (r.play move).Queues queue := by
  obtain ⟨worker, same, -, given⟩ := r.play_outside other kept
  refine ⟨?_, ?_, given ▸ queues.tracks.play_other other, ?_, queues.unbroken.play_other other⟩
  · rw [same]
    exact queues.unhandled
  · rw [same]
    exact queues.holds
  · rw [same]
    exact queues.bounded

theorem Queues.play (queues : r.Queues queue) (move : Move) : ∃ queue', (r.play move).Queues queue' := by
  cases move with
  | work heeds => exact queues.play_work heeds
  | take => exact ⟨_, queues.play_take⟩
  | arrive | close | requestStop | collect => exact ⟨_, queues.play_outside nofun nofun⟩

theorem Queues.playAll (queues : r.Queues queue) (moves : List Move) : ∃ queue', (r.playAll moves).Queues queue' := by
  induction moves generalizing r queue with
  | nil => exact ⟨queue, queues⟩
  | cons move rest ih =>
    obtain ⟨next, queues⟩ := queues.play move
    exact ih queues

theorem start_queues {s : Subscription} (unhandled : s.handlers = []) (idle : s.isRunning = false)
    (incoming : List Arrival) (isClosed : Bool) : (start s incoming isClosed).Queues [] := by
  refine ⟨(start_settings s incoming isClosed).1.trans unhandled, ?_, start_tracks idle incoming isClosed,
    fun n _ => Nat.zero_le _, start_unbroken idle incoming isClosed⟩
  rw [start, if_neg (by rw [idle]; exact Bool.false_ne_true), Subscription.spawn, unhandled]
  rfl

/-- All that is queued can be taken. -/
theorem Queues.take_all (queues : r.Queues queue) :
    (r.playAll (List.replicate queue.length .take)).given = r.given ++ queue := by
  induction queue generalizing r with
  | nil => exact (List.append_nil _).symm
  | cons i rest ih =>
    have first : (r.play .take).given = r.given ++ [i] := by
      rw [Session.play_take, Subscription.queued, queues.holds]
      rfl
    have others := ih queues.play_take
    rw [first, List.append_assoc, List.singleton_append] at others
    exact others

/-- A worker with nothing left to do that has not ended has queued all that has arrived, or the queue is full. -/
theorem Queues.of_idle (queues : r.Queues queue) {w : Worker} (working : r.subscription.worker = some w)
    (live : w.isLive = true) (idle : r.subscription.Idle w) :
    r.given ++ queue = Arrival.interventions r.arrived ∨
      ∃ n, r.subscription.capacity = some n ∧ queue.length = max n 1 := by
  have tracks := queues.tracks.worker w working
  cases idle with
  | ended halted => simp [halted] at live
  | waits here drained =>
    have brought := tracks.live live
    have all := tracks.accounted
    rw [drained, List.append_nil] at all
    rw [Worker.held, here, all] at brought
    exact .inl ((List.append_nil _).symm.trans brought)
  | parks _ full =>
    rw [Subscription.hasRoom, queues.holds] at full
    cases bound : r.subscription.capacity with
    | none => simp [bound] at full
    | some n =>
      have within := queues.bounded n bound
      simp only [bound, decide_eq_false_iff_not] at full
      exact .inr ⟨n, rfl, by omega⟩

/-- A worker that has taken all steps that may be left to it holds nothing back, unless the queue is full. -/
theorem Queues.settled (queues : r.Queues queue) {w : Worker} (working : r.subscription.worker = some w) :
    let r' := r.playAll (List.replicate (Subscription.workload w) (.work true))
    r'.subscription.isRunning = true → r'.given ++ r'.subscription.queued = Arrival.interventions r'.arrived ∨
      ∃ n, r.subscription.capacity = some n ∧ r'.subscription.queued.length = max n 1 := by
  intro r' running
  obtain ⟨queue', queues'⟩ := queues.playAll (List.replicate (Subscription.workload w) (.work true))
  have queued : r'.subscription.queued = queue' := by rw [Subscription.queued, queues'.holds, Option.getD_some]
  have capacity : r'.subscription.capacity = r.subscription.capacity := (r.playAll_settings _).2.1
  have rest : r'.subscription.work true = r'.subscription := by
    rw [playAll_workload working, Subscription.work_settle]
  cases working' : r'.subscription.worker with
  | none => simp [Subscription.isRunning, working'] at running
  | some w' =>
    have live : w'.isLive = true := by simpa [Subscription.isRunning, working'] using running
    rw [queued, ← capacity]
    exact queues'.of_idle working' live (Subscription.idle_of_rest rest working')

/-- A session without handlers hands over what it reads in order: what has been taken, followed by what is queued, are
the first interventions that were read. The queue keeps to its bound, and what is in it can be taken, also when the
worker has been stopped or has ended. A worker that ended by itself has queued all that its stream brought; one that
has settled has queued all that has arrived, or has filled the queue. -/
theorem queue_in_order {s : Subscription} (unhandled : s.handlers = []) (idle : s.isRunning = false)
    (incoming : List Arrival) (isClosed : Bool) (moves : List Move) :
    let r := (start s incoming isClosed).playAll moves
    ∃ queue, r.subscription.queue = some queue ∧
      r.given ++ queue <+: Arrival.interventions r.read ∧ r.read <+: r.arrived ∧
      (∀ n, s.capacity = some n → queue.length ≤ max n 1) ∧
      (r.playAll (List.replicate queue.length .take)).given = r.given ++ queue ∧
      r.subscription.stop.2.queue = some queue ∧
      (r.subscription.isRunning = false → ∀ more, (r.playAll more).given ++ (r.playAll more).subscription.queued =
        r.given ++ queue) ∧
      (∀ w failure, r.subscription.worker = some w → w.activity = .ended failure → w.isStopping = false →
        r.Brought failure (r.given ++ queue)) ∧
      (∀ w, r.subscription.worker = some w →
        let r' := r.playAll (List.replicate (Subscription.workload w) (.work true))
        r'.subscription.isRunning = true → r'.given ++ r'.subscription.queued = Arrival.interventions r'.arrived ∨
          ∃ n, s.capacity = some n ∧ r'.subscription.queued.length = max n 1) := by
  intro r
  obtain ⟨queue, queues⟩ := (start_queues unhandled idle incoming isClosed).playAll moves
  have capacity : r.subscription.capacity = s.capacity := (run_settings s incoming isClosed moves).2.1
  have queued : r.subscription.queued = queue := by rw [Subscription.queued, queues.holds, Option.getD_some]
  refine ⟨queue, queues.holds, queues.tracks.ordered, queues.tracks.within, capacity ▸ queues.bounded, queues.take_all,
    ?_, fun halted more => ?_, fun w failure => queues.tracks.brought queues.unbroken, fun w working => ?_⟩
  · rw [Subscription.stop_eq]
    exact queues.holds
  · rw [(playAll_of_not_running halted more).2.2.2.1, queued]
  · rw [← capacity]
    exact queues.settled working

/-- Two interventions and a queue for one: the second is queued when the first has been taken. -/
theorem queue_of_two_interventions :
    let s : Subscription := { capacity := some 1 }
    let stream := [Arrival.chunk (Text.toUtf8 "data:\x7b\"name\":\"a\"\x7d\n\ndata:\x7b\"name\":\"b\"\x7d\n\n".toList)]
    let steps := List.replicate 4 (Move.work true)
    let r := (start s stream true).playAll (steps ++ [.take] ++ steps)
    s.handlers = [] ∧ s.isRunning = false ∧ r.subscription.isRunning = false ∧
      (∃ queue, r.subscription.queue = some queue ∧ r.given ++ queue <+: Arrival.interventions r.read) ∧
      r.given.map (·.name) = ["a"] ∧ r.subscription.queued.map (·.name) = ["b"] := by
  intro s stream steps r
  obtain ⟨queue, holds, ordered, -⟩ :=
    queue_in_order (rfl : s.handlers = []) rfl stream true (steps ++ [.take] ++ steps)
  exact ⟨rfl, rfl, by decide +kernel, ⟨queue, holds, ordered⟩, by decide +kernel, by decide +kernel⟩

end AttributeStore.Session
