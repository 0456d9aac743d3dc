import AttributeStore.Proofs.Subscription.Cells
import AttributeStore.Proofs.Subscription.Resuming

/-! The life cycle of a subscription: runs that begin, end by themselves or are stopped, and begin again. -/
namespace AttributeStore.Lifecycle

variable {l : Lifecycle}

/-- The subscription before anything has happened to it. -/
def new (handlers : List Handler) (capacity : Option Nat) (propagates : Bool) : Lifecycle :=
  { handlers, capacity, propagates }

theorem play_settings (l : Lifecycle) (e : Event) : (l.play e).2.handlers = l.handlers ∧
    (l.play e).2.capacity = l.capacity ∧ (l.play e).2.propagates = l.propagates := by
  unfold play
  repeat' split
  all_goals exact ⟨rfl, rfl, rfl⟩

theorem playAll_settings (l : Lifecycle) (events : List Event) : (l.playAll events).2.handlers = l.handlers ∧
    (l.playAll events).2.capacity = l.capacity ∧ (l.playAll events).2.propagates = l.propagates := by
  induction events generalizing l with
  | nil => exact ⟨rfl, rfl, rfl⟩
  | cons e events ih =>
    obtain ⟨handlers, capacity, propagates⟩ := l.play_settings e
    obtain ⟨handlers', capacity', propagates'⟩ := ih (l.play e).2
    exact ⟨handlers'.trans handlers, capacity'.trans capacity, propagates'.trans propagates⟩

theorem follow_resumed {s : Subscription} {handlers : List Handler} {before : List Call}
    (continues : s.Continues handlers before) (e : Event) (grip : Grip) :
    follow e grip (s.resumed handlers before) =
      ((follow e grip s).1, (follow e grip s).2.1, (follow e grip s).2.2.resumed handlers before) := by
  cases e with
  | start incoming isClosed =>
    rw [follow, follow, Subscription.start_resumed continues]
    cases grip <;> rfl
  | take =>
    rw [follow, follow, Subscription.take_resumed]
    cases grip <;> rfl
  | stop => cases grip <;> rfl
  | wake => rfl
  | join =>
    rw [follow, follow, Subscription.collect_resumed, show (s.resumed handlers before).isRunning = s.isRunning from rfl]
    split <;> rfl
  | arrive age a =>
    rw [follow, follow, Subscription.send_resumed]
    cases age <;> rfl
  | close age => cases age <;> rfl
  | work age heeds =>
    rw [follow, follow, Subscription.work_resumed continues]
    cases age <;> rfl

/-- One life cycle goes on where another begins: the subscriber holds and sees the same, but for the calls before. -/
structure Resumes (l first : Lifecycle) (before : List Call) : Prop where
  sound : l.Sound
  sound' : first.Sound
  grip : l.grip = first.grip
  seen : l.subscription = first.subscription.resumed l.handlers before
  continues : first.subscription.Continues l.handlers before

theorem Resumes.play {first : Lifecycle} {before : List Call} (resumes : l.Resumes first before) (e : Event) :
    (l.play e).1 = (first.play e).1 ∧ (l.play e).2.Resumes (first.play e).2 before := by
  obtain ⟨sound, followed⟩ := resumes.sound.follows e
  obtain ⟨sound', followed'⟩ := resumes.sound'.follows e
  rw [resumes.grip, resumes.seen, follow_resumed resumes.continues, followed'] at followed
  obtain ⟨answer, grip, seen⟩ : _ ∧ _ ∧ _ := by simpa only [Prod.mk.injEq] using followed
  refine ⟨answer.symm, sound, sound', grip.symm, ?_, ?_⟩
  · rw [(l.play_settings e).1]
    exact seen.symm
  · rw [(l.play_settings e).1]
    exact (first.play_settings e).1.trans resumes.continues

theorem Resumes.playAll {first : Lifecycle} {before : List Call} (resumes : l.Resumes first before)
    (events : List Event) :
    (l.playAll events).1 = (first.playAll events).1 ∧ (l.playAll events).2.Resumes (first.playAll events).2 before := by
  induction events generalizing l first with
  | nil => exact ⟨rfl, resumes⟩
  | cons e events ih =>
    obtain ⟨answer, next⟩ := resumes.play e
    obtain ⟨answers, last⟩ := ih next
    refine ⟨?_, last⟩
    rw [Lifecycle.playAll, Lifecycle.playAll]
    dsimp only
    rw [answer, answers]

theorem Sound.older (sound : l.Sound) {newest : Task} {older : List Task} (tasks : l.tasks = newest :: older) :
    ∀ t ∈ older, t.worker.isLive = false := by
  intro t member
  obtain ⟨age, known⟩ := List.getElem?_of_mem member
  exact sound.settled age t (by rw [tasks]; exact known)

theorem requestStop_of_stopping (asked : l.grip.isStopping = true) : l.subscription.requestStop = l.subscription := by
  unfold subscription Subscription.requestStop
  cases grip : l.grip with
  | none | handle => rw [grip] at asked; cases asked
  | stopping woken => simp [Function.comp_def]

theorem followAll_heeding (s : Subscription) :
    followAll [.work 0 true, .work 0 true, .join] (.stopping true) s.requestStop =
      ([.stopped s.stop.1], .none, s.stop.2) := by
  have steps : followAll [.work 0 true, .work 0 true, .join] (.stopping true) s.requestStop =
      followAll [.join] (.stopping true) (Subscription.workTimes 2 s.requestStop) := rfl
  rw [steps, followAll, follow, if_pos ⟨rfl, s.isRunning_stopped⟩]
  rfl

/-- A stop comes back within two steps of the worker, and tells what the subscription tells when it is stopped. -/
theorem Sound.stops (sound : l.Sound) (held : l.grip ≠ .none) :
    let r := l.playAll [.stop, .wake, .work 0 true, .work 0 true, .join]
    r.1 = [.stopped l.subscription.stop.1] ∧ r.2.subscription = l.subscription.stop.2 := by
  intro r
  have followed : followAll [.stop, .wake, .work 0 true, .work 0 true, .join] l.grip l.subscription =
      (r.1, r.2.grip, r.2.subscription) := (sound.playAll _).2
  have begun : followAll [.stop, .wake, .work 0 true, .work 0 true, .join] l.grip l.subscription =
      followAll [.work 0 true, .work 0 true, .join] (.stopping true) l.subscription.requestStop := by
    have asked := l.requestStop_of_stopping
    cases grip : l.grip with
    | none => exact absurd grip held
    | handle => rfl
    | stopping woken =>
      rw [asked (by rw [grip]; rfl)]
      cases woken <;> rfl
  rw [begun, followAll_heeding] at followed
  obtain ⟨answers, -, seen⟩ : _ ∧ _ ∧ _ := by simpa only [Prod.mk.injEq] using followed
  exact ⟨answers.symm, seen.symm⟩

end AttributeStore.Lifecycle
