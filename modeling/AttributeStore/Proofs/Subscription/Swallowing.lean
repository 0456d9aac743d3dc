import AttributeStore.Proofs.Subscription.Calls
import AttributeStore.Proofs.Subscription.Session

/-! Failures that are swallowed. A session goes on in the same way whatever its handlers answer. -/
namespace AttributeStore

namespace Subscription

/-- The same subscription with other handlers. -/
def withHandlers (others : List Handler) (s : Subscription) : Subscription := { s with handlers := others }

variable {s : Subscription} {others : List Handler}

theorem send_withHandlers (a : Arrival) :
    (s.withHandlers others).send a = ((s.send a).1, (s.send a).2.withHandlers others) := by
  obtain ⟨handlers, capacity, propagates, worker, queue, calls⟩ := s
  cases worker with
  | none => rfl
  | some w =>
    simp only [withHandlers, send]
    split <;> rfl

theorem collect_withHandlers :
    (s.withHandlers others).collect = (s.collect.1, s.collect.2.withHandlers others) := by
  obtain ⟨handlers, capacity, propagates, worker, queue, calls⟩ := s
  rcases worker with _ | ⟨incoming, isClosed, isStopping, parser, activity⟩
  · rfl
  · cases activity <;> rfl

theorem isEmpty_of_alike (alike : others.length = s.handlers.length) : others.isEmpty = s.handlers.isEmpty := by
  rw [Bool.eq_iff_iff, List.isEmpty_iff_length_eq_zero, List.isEmpty_iff_length_eq_zero, alike]

/-- Where failures are swallowed, a worker does the same whatever the handlers answer. -/
theorem work_withHandlers (swallows : s.propagates = false) (alike : others.length = s.handlers.length) (heeds : Bool) :
    (s.withHandlers others).work heeds = (s.work heeds).withHandlers others := by
  have deliver (w : Worker) (i : Intervention) (left : List Intervention) :
      (s.withHandlers others).deliver w i left = (s.deliver w i left).withHandlers others := by
    have same : (s.withHandlers others).handlers.isEmpty = s.handlers.isEmpty := isEmpty_of_alike alike
    have off : (s.withHandlers others).propagates = false := swallows
    unfold Subscription.deliver
    rw [same, swallows, off, callHandlers_swallowing, callHandlers_swallowing,
      show (s.withHandlers others).handlers.length = s.handlers.length from alike]
    split
    · rw [apply_ite (withHandlers others)]
      rfl
    · rfl
  obtain ⟨handlers, capacity, propagates, worker, queue, calls⟩ := s
  rcases worker with _ | ⟨incoming, isClosed, isStopping, parser, activity⟩
  · rfl
  · cases activity with
    | checking | ended => rfl
    | waiting => cases isStopping <;> cases heeds <;> rfl
    | delivering left =>
      cases left with
      | nil => rfl
      | cons i left =>
        cases isStopping with
        | false => exact deliver _ i left
        | true =>
          cases heeds with
          | false => exact deliver _ i left
          | true => rfl

theorem spawn_withHandlers (alike : others.length = s.handlers.length) (incoming : List Arrival) (isClosed : Bool) :
    (s.withHandlers others).spawn incoming isClosed = (s.spawn incoming isClosed).withHandlers others := by
  have same : (s.withHandlers others).handlers.isEmpty = s.handlers.isEmpty := isEmpty_of_alike alike
  unfold spawn
  rw [same]
  rfl

end Subscription

namespace Session

/-- The same session with other handlers. -/
def withHandlers (others : List Handler) (r : Session) : Session :=
  { r with subscription := r.subscription.withHandlers others }

variable {r : Session} {others : List Handler}

theorem play_withHandlers (swallows : r.subscription.propagates = false)
    (alike : others.length = r.subscription.handlers.length) (move : Move) :
    (r.withHandlers others).play move = (r.play move).withHandlers others := by
  cases move with
  | arrive a =>
    rw [play, play, withHandlers, Subscription.send_withHandlers]
    rfl
  | close | requestStop => rfl
  | work heeds =>
    rw [play, play, withHandlers, Subscription.work_withHandlers swallows alike]
    rfl
  | take =>
    rw [play_take, play_take]
    rfl
  | collect =>
    rw [play, play, withHandlers, Subscription.collect_withHandlers]
    rfl

theorem playAll_withHandlers (swallows : r.subscription.propagates = false)
    (alike : others.length = r.subscription.handlers.length) (moves : List Move) :
    (r.withHandlers others).playAll moves = (r.playAll moves).withHandlers others := by
  induction moves generalizing r with
  | nil => rfl
  | cons move rest ih =>
    obtain ⟨handlers, -, propagates⟩ := r.play_settings move
    have next := ih (propagates.trans swallows) (alike.trans (congrArg List.length handlers.symm))
    rw [← play_withHandlers swallows alike] at next
    exact next

/-- Where failures are swallowed, what the handlers answer changes no call. -/
theorem calls_withHandlers {s : Subscription} (swallows : s.propagates = false)
    (alike : others.length = s.handlers.length) (incoming : List Arrival) (isClosed : Bool) (moves : List Move) :
    ((start (s.withHandlers others) incoming isClosed).playAll moves).subscription.calls =
      ((start s incoming isClosed).playAll moves).subscription.calls := by
  have begun : start (s.withHandlers others) incoming isClosed = (start s incoming isClosed).withHandlers others := by
    unfold start
    rw [Subscription.spawn_withHandlers alike, show (s.withHandlers others).isRunning = s.isRunning from rfl]
    cases s.isRunning <;> rfl
  obtain ⟨handlers, -, propagates, -⟩ := start_settings s incoming isClosed
  rw [begun, playAll_withHandlers (propagates.trans swallows) (by rw [alike, handlers])]
  rfl

end Session

end AttributeStore
