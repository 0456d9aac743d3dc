import AttributeStore.Proofs.Subscription.Session

/-! Subscriptions with a past. Handlers that have been called before go on counting, and nothing else of an earlier run
reaches a later one. -/
namespace AttributeStore

/-- A handler whose first `before` calls are over. -/
def Handler.after (before : Nat) (h : Handler) : Handler := fun n i => h (before + n) i

namespace Subscription

/-- The subscription with these handlers and with some calls behind it. -/
def resumed (handlers : List Handler) (before : List Call) (s : Subscription) : Subscription :=
  { s with handlers := handlers, calls := before ++ s.calls }

/-- Its handlers answer as these do after some calls. -/
def Continues (handlers : List Handler) (before : List Call) (s : Subscription) : Prop :=
  s.handlers = handlers.map (Handler.after before.length)

variable {handlers : List Handler} {before : List Call} {s : Subscription}

theorem callHandlers_after (propagates : Bool) (i : Intervention) (index : Nat) (handlers : List Handler)
    (before calls : List Call) :
    callHandlers propagates i index handlers (before ++ calls) =
      (before ++ (callHandlers propagates i index (handlers.map (Handler.after before.length)) calls).1,
        (callHandlers propagates i index (handlers.map (Handler.after before.length)) calls).2) := by
  induction handlers generalizing index calls with
  | nil => rfl
  | cons h rest ih =>
    have others := ih (index + 1) (calls ++ [⟨index, i⟩])
    rw [← List.append_assoc] at others
    have answer : Handler.after before.length h calls.length i = h (before ++ calls).length i := by
      rw [Handler.after, List.length_append]
    rw [List.map_cons, callHandlers, callHandlers, answer]
    cases h (before ++ calls).length i with
    | none => exact others
    | some reason =>
      cases propagates with
      | false => exact others
      | true => simp

theorem deliver_resumed (continues : s.Continues handlers before) (w : Worker) (i : Intervention)
    (left : List Intervention) :
    (s.resumed handlers before).deliver w i left = (s.deliver w i left).resumed handlers before := by
  have none : (s.resumed handlers before).handlers.isEmpty = s.handlers.isEmpty := by
    rw [show s.handlers = _ from continues, List.isEmpty_map]
    rfl
  unfold deliver
  rw [none]
  split
  · rw [apply_ite (resumed handlers before)]
    rfl
  · rw [show s.handlers = _ from continues]
    have called := callHandlers_after s.propagates i 0 handlers before s.calls
    simp only [resumed]
    rw [called]
    rcases callHandlers s.propagates i 0 (handlers.map (Handler.after before.length)) s.calls with ⟨made, _ | failure⟩
    · rfl
    · rfl

theorem work_resumed (continues : s.Continues handlers before) (heeds : Bool) :
    (s.resumed handlers before).work heeds = (s.work heeds).resumed handlers before := by
  have deliver := deliver_resumed continues
  obtain ⟨_, capacity, propagates, worker, queue, calls⟩ := s
  rcases worker with _ | ⟨incoming, isClosed, isStopping, parser, activity⟩
  · rfl
  · cases activity with
    | checking | ended => rfl
    | waiting => cases isStopping <;> cases heeds <;> rfl
    | delivering left =>
      cases left with
      | nil => rfl
      | cons i left =>
        cases isStopping <;> cases heeds <;> first | rfl | exact deliver _ i left

/-- Whether a queue can be made does not depend on what handlers answer. -/
theorem canQueue_map (f : Handler → Handler) (handlers : List Handler) (capacity : Option Nat) :
    canQueue (handlers.map f) capacity = canQueue handlers capacity := by
  rw [canQueue, canQueue, List.isEmpty_map]

theorem start_resumed (continues : s.Continues handlers before) (incoming : List Arrival) (isClosed : Bool) :
    (s.resumed handlers before).start incoming isClosed =
      ((s.start incoming isClosed).1, (s.start incoming isClosed).2.resumed handlers before) := by
  have none : handlers.isEmpty = s.handlers.isEmpty := by
    rw [show s.handlers = _ from continues, List.isEmpty_map]
  have room : canQueue handlers s.capacity = canQueue s.handlers s.capacity := by
    rw [show s.handlers = _ from continues, canQueue_map]
  have spawned : (s.resumed handlers before).spawn incoming isClosed =
      (s.spawn incoming isClosed).resumed handlers before := by simp only [resumed, spawn, none]
  unfold start
  rw [spawned, show (s.resumed handlers before).isRunning = s.isRunning from rfl,
    show canQueue (s.resumed handlers before).handlers (s.resumed handlers before).capacity =
      canQueue s.handlers s.capacity from room]
  cases s.isRunning with
  | true => rfl
  | false => cases canQueue s.handlers s.capacity <;> rfl

theorem send_resumed (a : Arrival) :
    (s.resumed handlers before).send a = ((s.send a).1, (s.send a).2.resumed handlers before) := by
  obtain ⟨_, capacity, propagates, worker, queue, calls⟩ := s
  cases worker with
  | none => rfl
  | some w =>
    simp only [resumed, send]
    split <;> rfl

theorem take_resumed :
    (s.resumed handlers before).take = (s.take.1, s.take.2.resumed handlers before) := by
  rw [take_eq, take_eq]
  rfl

theorem collect_resumed :
    (s.resumed handlers before).collect = (s.collect.1, s.collect.2.resumed handlers before) := by
  obtain ⟨_, capacity, propagates, worker, queue, calls⟩ := s
  rcases worker with _ | ⟨incoming, isClosed, isStopping, parser, activity⟩
  · rfl
  · cases activity <;> rfl

end Subscription

end AttributeStore
