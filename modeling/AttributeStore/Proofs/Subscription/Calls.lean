import AttributeStore.Subscription.Work

/-! Calls of handlers. One intervention makes one round of calls, in the order of the handlers, which a failing handler
cuts short where failures are propagated. -/
namespace AttributeStore

/-- What one of some handlers answers to a call, the `n`th of the subscription. -/
def Call.answer (handlers : List Handler) (n : Nat) (c : Call) : Option String :=
  handlers[c.handler]?.bind fun h => h n c.intervention

/-- None of the calls has failed, from the `first` on. -/
def Call.Quiet (handlers : List Handler) (first : Nat) (calls : List Call) : Prop :=
  ∀ n c, first ≤ n → calls[n]? = some c → c.answer handlers n = none

/-- The calls of `count` handlers with one intervention, from handler `index` on. -/
def Call.round (i : Intervention) (index count : Nat) : List Call := (List.range' index count).map (⟨·, i⟩)

/-- The calls of `count` handlers with some interventions: all with the first, then all with the second. -/
def Call.rounds (count : Nat) (interventions : List Intervention) : List Call :=
  interventions.flatMap (Call.round · 0 count)

namespace Call

variable {handlers : List Handler} {first : Nat} {calls more : List Call}

theorem Quiet.refl (handlers : List Handler) (calls : List Call) : Quiet handlers calls.length calls := by
  intro n c behind called
  exact absurd (List.getElem?_eq_some_iff.mp called).1 (Nat.not_lt_of_le behind)

theorem Quiet.cons {c : Call} (silent : c.answer handlers calls.length = none)
    (quiet : Quiet handlers (calls ++ [c]).length (calls ++ [c] ++ more)) :
    Quiet handlers calls.length (calls ++ [c] ++ more) := by
  intro n c' behind called
  rw [List.length_append, List.length_singleton] at quiet
  rcases Nat.eq_or_lt_of_le behind with rfl | behind
  · rw [List.append_assoc, List.getElem?_append_right (Nat.le_refl _), Nat.sub_self] at called
    obtain rfl := Option.some.inj called
    exact silent
  · exact quiet n c' behind called

theorem Quiet.append (quiet : Quiet handlers first calls) (next : Quiet handlers calls.length (calls ++ more)) :
    Quiet handlers first (calls ++ more) := by
  intro n c behind called
  by_cases before : n < calls.length
  · rw [List.getElem?_append_left before] at called
    exact quiet n c behind called
  · exact next n c (Nat.le_of_not_lt before) called

theorem round_succ (i : Intervention) (index count : Nat) :
    round i index (count + 1) = [⟨index, i⟩] ++ round i (index + 1) count := rfl

theorem rounds_append (count : Nat) (first second : List Intervention) :
    rounds count (first ++ second) = rounds count first ++ rounds count second := List.flatMap_append

theorem rounds_single (count : Nat) (i : Intervention) : rounds count [i] = round i 0 count := List.flatMap_singleton ..

theorem rounds_prefix (count : Nat) {done all : List Intervention} (before : done <+: all) :
    rounds count done <+: rounds count all := by
  obtain ⟨rest, rfl⟩ := before
  exact ⟨_, (rounds_append count done rest).symm⟩

/-- What comes of calling the handlers with one intervention, from handler `index` on: they are all called, or those up
to the first that fails, where that ends the worker. -/
inductive Made (propagates : Bool) (handlers : List Handler) (i : Intervention) (index count : Nat)
    (calls : List Call) : List Call × Option WorkerFailure → Prop
  | through (quiet : propagates = true → Quiet handlers calls.length (calls ++ round i index count)) :
    Made propagates handlers i index count calls (calls ++ round i index count, none)
  | upTo {few : List Call} {c : Call} {reason : String} (propagating : propagates = true) (about : c.intervention = i)
    (within : few ++ [c] <+: round i index count) (quiet : Quiet handlers calls.length (calls ++ few))
    (failed : c.answer handlers (calls ++ few).length = some reason) :
    Made propagates handlers i index count calls (calls ++ few ++ [c], some (.handler i.name reason))

theorem Made.cons {propagates : Bool} {i : Intervention} {index count : Nat}
    {result : List Call × Option WorkerFailure}
    (silent : propagates = true → (⟨index, i⟩ : Call).answer handlers calls.length = none)
    (others : Made propagates handlers i (index + 1) count (calls ++ [⟨index, i⟩]) result) :
    Made propagates handlers i index (count + 1) calls result := by
  cases others with
  | through quiet =>
    rw [List.append_assoc, ← round_succ]
    refine .through fun propagating => ?_
    rw [round_succ, ← List.append_assoc]
    exact .cons (silent propagating) (quiet propagating)
  | @upTo few c reason propagating about within quiet failed =>
    rw [List.append_assoc calls]
    refine .upTo propagating about ?_ ?_ ?_
    · exact List.cons_prefix_cons.mpr ⟨rfl, within⟩
    · rw [← List.append_assoc]
      exact .cons (silent propagating) quiet
    · rw [← List.append_assoc]
      exact failed

end Call

namespace Subscription

theorem callHandlers_made_from (propagates : Bool) {all rest : List Handler} {index : Nat}
    (here : all.drop index = rest) (i : Intervention) (calls : List Call) :
    Call.Made propagates all i index rest.length calls (callHandlers propagates i index rest calls) := by
  -- on the handlers that are left; each call moves into the calls so far, and so does its number
  induction rest generalizing index calls with
  | nil =>
    have none_called : calls ++ Call.round i index 0 = calls := List.append_nil calls
    have made : Call.Made propagates all i index 0 calls (calls ++ Call.round i index 0, none) :=
      .through fun _ => by rw [none_called]; exact .refl all calls
    rwa [none_called] at made
  | cons h rest ih =>
    have answer : Call.answer all calls.length ⟨index, i⟩ = h calls.length i := by
      have there : all[index]? = some h := by rw [← List.head?_drop, here, List.head?_cons]
      rw [Call.answer, there, Option.bind_some]
    have others := ih (by rw [← List.drop_drop, here, List.drop_one, List.tail_cons]) (calls ++ [⟨index, i⟩])
    rw [callHandlers]
    split
    case h_1 reason failed =>
      split
      case isTrue propagating =>
        have made : Call.Made propagates all i index (rest.length + 1) calls
            (calls ++ [] ++ [⟨index, i⟩], some (.handler i.name reason)) := by
          refine .upTo propagating rfl ⟨_, rfl⟩ ?_ ?_
          · rw [List.append_nil]
            exact .refl all calls
          · rw [List.append_nil, answer, failed]
        rwa [List.append_nil] at made
      case isFalse swallowing => exact others.cons fun propagating => absurd propagating swallowing
    case h_2 silent => exact others.cons fun _ => answer.trans silent

theorem callHandlers_made (propagates : Bool) (handlers : List Handler) (i : Intervention) (calls : List Call) :
    Call.Made propagates handlers i 0 handlers.length calls (callHandlers propagates i 0 handlers calls) :=
  callHandlers_made_from propagates List.drop_zero i calls

/-- Handlers whose failures are swallowed are all called. -/
theorem callHandlers_swallowing (handlers : List Handler) (i : Intervention) (calls : List Call) :
    callHandlers false i 0 handlers calls = (calls ++ Call.round i 0 handlers.length, none) := by
  have made := callHandlers_made false handlers i calls
  generalize callHandlers false i 0 handlers calls = result at made ⊢
  cases made with
  | through => rfl
  | upTo propagates => cases propagates

end Subscription

end AttributeStore
