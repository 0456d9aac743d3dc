import AttributeStore.Proofs.Subscription.Settling
import AttributeStore.Proofs.Subscription.Swallowing

/-! Interventions that are handled. Every handler is called once with every intervention, in the order of the handlers
and of the interventions. A stop comes between two interventions; only a failing handler may come before. -/
namespace AttributeStore.Session

variable {r : Session} {before log : List Call} {done : List Intervention} {c : Call} {reason : String}

/-- A session whose handlers have been called with all of `done`, and with nothing else, behind the calls that were
there `before`. -/
structure Whole (r : Session) (before : List Call) (done : List Intervention) : Prop where
  handled : r.subscription.handlers ≠ []
  tracks : r.Tracks done
  unbroken : r.Unbroken
  called : r.subscription.calls = before ++ Call.rounds r.subscription.handlers.length done
  quiet : r.subscription.propagates = true → Call.Quiet r.subscription.handlers before.length r.subscription.calls
  untold : ∀ w, r.subscription.worker = some w → r.reported = []

/-- A session whose worker a failing call has ended, the one behind `log`. -/
structure Broken (r : Session) (before log : List Call) (c : Call) (reason : String) : Prop where
  halted : r.subscription.isRunning = false
  tracks : ∃ done, r.Tracks done
  propagates : r.subscription.propagates = true
  called : r.subscription.calls = before ++ log ++ [c]
  within : log ++ [c] <+: Call.rounds r.subscription.handlers.length (Arrival.interventions r.read)
  quiet : Call.Quiet r.subscription.handlers before.length (before ++ log)
  failed : c.answer r.subscription.handlers (before ++ log).length = some reason
  told : r.told = [.handler c.intervention.name reason]

theorem Whole.play_work (whole : r.Whole before done) (heeds : Bool) :
    (∃ done', (r.play (.work heeds)).Whole before done') ∨
      ∃ log c reason, (r.play (.work heeds)).Broken before log c reason := by
  rcases r.play_work heeds with same | ⟨w, new, s, working, step, played⟩
  · rw [same]
    exact .inl ⟨done, whole⟩
  rw [played]
  have tracks := whole.tracks.worker w working
  have untold := whole.untold w working
  cases step with
  | rests =>
    rw [List.append_nil]
    exact .inl ⟨done, whole⟩
  | turns turn =>
    refine .inl ⟨done, whole.handled, .of_worker rfl (tracks.turn turn), ?_, whole.called, whole.quiet,
      fun _ _ => untold⟩
    rintro _ ⟨⟩
    exact turn.unbroken
  | queues _ unhandled => exact absurd unhandled whole.handled
  | @handles i left calls next _ answered =>
    have made := Subscription.callHandlers_made r.subscription.propagates r.subscription.handlers i r.subscription.calls
    rw [answered] at made
    cases made with
    | through quiet =>
      rw [List.append_nil]
      refine .inl ⟨done ++ [i], whole.handled, .of_worker rfl (tracks.deliver next), ?_, ?_, ?_, fun _ _ => untold⟩
      · rintro _ ⟨⟩
        nofun
      · rw [Call.rounds_append, Call.rounds_single, ← List.append_assoc, ← whole.called]
      · exact fun propagates => (whole.quiet propagates).append (quiet propagates)
  | @breaks i left calls failure next _ answered =>
    have made := Subscription.callHandlers_made r.subscription.propagates r.subscription.handlers i r.subscription.calls
    rw [answered] at made
    cases made with
    | @upTo few c reason propagates about within quiet failed =>
      rw [List.append_nil, whole.called, List.append_assoc before]
      have quiet := (whole.quiet propagates).append quiet
      rw [whole.called, List.append_assoc] at quiet failed
      -- `done` ends before the intervention whose round was cut, so the log is longer than its rounds
      refine .inr ⟨_, c, reason, rfl, ⟨done, .of_worker rfl (tracks.break i.name reason)⟩, propagates, rfl, ?_, quiet,
        failed, ?_⟩
      · have next := Call.rounds_prefix r.subscription.handlers.length (tracks.deliver next).ordered
        rw [Call.rounds_append, Call.rounds_single] at next
        rw [List.append_assoc]
        exact ((List.prefix_append_right_inj _).mpr within).trans next
      · rw [told_eq, untold, about]
        rfl

theorem Whole.play_other (whole : r.Whole before done) {move : Move} (other : ∀ heeds, move ≠ .work heeds) :
    (r.play move).Whole before done := by
  obtain ⟨handlers, -, propagates⟩ := r.play_settings move
  have calls : (r.play move).subscription.calls = r.subscription.calls := by
    by_cases takes : move = .take
    · rw [takes, play_take]
    · obtain ⟨worker, same, -, -⟩ := r.play_outside other takes
      rw [same]
  refine ⟨?_, whole.tracks.play_other other, whole.unbroken.play_other other, ?_, ?_, fun w working => ?_⟩
  · rw [handlers]
    exact whole.handled
  · rw [handlers, calls]
    exact whole.called
  · rw [handlers, calls, propagates]
    exact whole.quiet
  · obtain ⟨⟨w', working', -⟩, reported⟩ := activity_of_play_other other working
    rw [reported]
    exact whole.untold w' working'

theorem Broken.play (broken : r.Broken before log c reason) (move : Move) :
    (r.play move).Broken before log c reason := by
  obtain ⟨handlers, -, propagates⟩ := r.play_settings move
  obtain ⟨halted, read, calls, -, told⟩ := play_of_not_running broken.halted move
  refine ⟨halted, ?_, ?_, ?_, ?_, ?_, ?_, ?_⟩
  · obtain ⟨done, tracks⟩ := broken.tracks
    cases move with
    | work heeds =>
      rw [play_work_of_not_running broken.halted]
      exact ⟨done, tracks⟩
    | arrive | close | take | requestStop | collect => exact ⟨done, tracks.play_other nofun⟩
  · rw [propagates]
    exact broken.propagates
  · rw [calls]
    exact broken.called
  · rw [handlers, read]
    exact broken.within
  · rw [handlers]
    exact broken.quiet
  · rw [handlers]
    exact broken.failed
  · rw [told]
    exact broken.told

theorem Broken.playAll (broken : r.Broken before log c reason) (moves : List Move) :
    (r.playAll moves).Broken before log c reason := by
  induction moves generalizing r with
  | nil => exact broken
  | cons move rest ih => exact ih (broken.play move)

theorem Whole.playAll (whole : r.Whole before done) (moves : List Move) :
    (∃ done', (r.playAll moves).Whole before done') ∨ ∃ log c reason, (r.playAll moves).Broken before log c reason := by
  induction moves generalizing r done with
  | nil => exact .inl ⟨done, whole⟩
  | cons move rest ih =>
    have next : (∃ done', (r.play move).Whole before done') ∨
        ∃ log c reason, (r.play move).Broken before log c reason := by
      cases move with
      | work heeds => exact whole.play_work heeds
      | arrive | close | take | requestStop | collect => exact .inl ⟨done, whole.play_other nofun⟩
    -- once broken, a session stays broken in the same way, whatever comes
    rcases next with ⟨done', whole⟩ | ⟨log, c, reason, broken⟩
    · exact ih whole
    · exact .inr ⟨log, c, reason, broken.playAll rest⟩

theorem start_whole {s : Subscription} (handled : s.handlers ≠ []) (idle : s.isRunning = false)
    (incoming : List Arrival) (isClosed : Bool) : (start s incoming isClosed).Whole s.calls [] := by
  obtain ⟨handlers, -, -, calls⟩ := start_settings s incoming isClosed
  refine ⟨?_, start_tracks idle incoming isClosed, start_unbroken idle incoming isClosed, ?_, fun _ => ?_,
    fun _ _ => rfl⟩
  · rw [handlers]
    exact handled
  · rw [calls]
    exact (List.append_nil _).symm
  · rw [calls]
    exact .refl _ _

/-- A call that was not there `before` has failed, the `n`th. -/
def Fails (r : Session) (before : List Call) (n : Nat) (c : Call) (reason : String) : Prop :=
  before.length ≤ n ∧ r.subscription.calls[n]? = some c ∧ c.answer r.subscription.handlers n = some reason

/-- The handlers have been called with all that the stream brought up to its end. -/
def HandledAll (r : Session) (before : List Call) : Prop :=
  ∃ failure done, r.Brought failure done ∧
    r.subscription.calls = before ++ Call.rounds r.subscription.handlers.length done

theorem Broken.fails (broken : r.Broken before log c reason) : r.Fails before (before ++ log).length c reason := by
  refine ⟨?_, ?_, broken.failed⟩
  · rw [List.length_append]
    exact Nat.le_add_right _ _
  · rw [broken.called]
    exact List.getElem?_concat_length

/-- The call that ended the worker is the only one that failed, and the last. -/
theorem Broken.fails_last (broken : r.Broken before log c reason) {n : Nat} {c' : Call} {reason' : String}
    (fails : r.Fails before n c' reason') :
    n + 1 = r.subscription.calls.length ∧ r.told = [.handler c'.intervention.name reason'] := by
  obtain ⟨behind, called, failed⟩ := fails
  have length : (before ++ log ++ [c]).length = (before ++ log).length + 1 := List.length_append
  rw [broken.called] at called ⊢
  rcases Nat.lt_trichotomy n (before ++ log).length with earlier | rfl | later
  · rw [List.getElem?_append_left earlier] at called
    have silent := broken.quiet n c' behind called
    rw [failed] at silent
    cases silent
  · rw [List.getElem?_concat_length] at called
    obtain rfl := Option.some.inj called
    obtain rfl := Option.some.inj (broken.failed.symm.trans failed)
    exact ⟨length.symm, broken.told⟩
  · have within := (List.getElem?_eq_some_iff.mp called).1
    omega

theorem Whole.handledAll (whole : r.Whole before done) {w : Worker} {failure : Option WorkerFailure}
    (working : r.subscription.worker = some w) (ended : w.activity = .ended failure) (free : w.isStopping = false) :
    r.HandledAll before :=
  ⟨failure, done, whole.tracks.brought whole.unbroken working ended free, whole.called⟩

section Run

variable {s : Subscription} (handled : s.handlers ≠ []) (idle : s.isRunning = false) (incoming : List Arrival)
  (isClosed : Bool) (moves : List Move)

include handled idle

/-- A worker that has ended without a stop has handled all that its stream brought, unless a call has failed. -/
theorem ended_handledAll :
    let r := (start s incoming isClosed).playAll moves
    ∀ w failure, r.subscription.worker = some w → w.activity = .ended failure → w.isStopping = false →
      r.HandledAll s.calls ∨ s.propagates = true ∧ ∃ n c reason, r.Fails s.calls n c reason := by
  intro r w failure working ended free
  rcases (start_whole handled idle incoming isClosed).playAll moves with ⟨done, whole⟩ | ⟨log, c, reason, broken⟩
  · exact .inl (whole.handledAll working ended free)
  · obtain ⟨-, -, propagates⟩ := run_settings s incoming isClosed moves
    exact .inr ⟨propagates ▸ broken.propagates, _, c, reason, broken.fails⟩

/-- A closed stream is handled to its end, when its worker has settled. -/
theorem settled_handledAll :
    let r := (start s incoming isClosed).playAll moves
    ∀ w, r.subscription.worker = some w → w.isClosed = true → w.isStopping = false →
      let r' := r.playAll (List.replicate (Subscription.workload w) (.work true))
      r'.HandledAll s.calls ∨ s.propagates = true ∧ ∃ n c reason, r'.Fails s.calls n c reason := by
  intro r w working closed free r'
  have handled' : r.subscription.handlers ≠ [] := by
    rw [(run_settings s incoming isClosed moves).1]
    exact handled
  obtain ⟨w', failure, working', ended, stopping⟩ := Subscription.settle_ends handled' working closed
  have settled : r'.subscription = r.subscription.settle := playAll_workload working
  have all : r' = (start s incoming isClosed).playAll
      (moves ++ List.replicate (Subscription.workload w) (.work true)) := List.foldl_append.symm
  rw [← settled] at working'
  rw [all] at working' ⊢
  exact ended_handledAll handled idle incoming isClosed _ w' failure working' ended (stopping.trans free)

end Run

/-- A session with handlers calls them all with the first intervention, then all with the second, and so on. A stop
comes between two interventions. Failures that are swallowed change nothing; one that is propagated is the last call
and what stopping tells. The calls are complete once the stream has ended without a stop, which a closed stream does
when its worker has settled. -/
theorem handlers_in_order {s : Subscription} (handled : s.handlers ≠ []) (idle : s.isRunning = false)
    (incoming : List Arrival) (isClosed : Bool) (moves : List Move) :
    let r := (start s incoming isClosed).playAll moves
    ∃ log, r.subscription.calls = s.calls ++ log ∧
      log <+: Call.rounds s.handlers.length (Arrival.interventions r.read) ∧ r.read <+: r.arrived ∧
      ((∃ done, log = Call.rounds s.handlers.length done) ∨
        s.propagates = true ∧ ∃ n c reason, r.Fails s.calls n c reason) ∧
      (s.propagates = true → ∀ n c reason, r.Fails s.calls n c reason →
        n + 1 = r.subscription.calls.length ∧ r.told = [.handler c.intervention.name reason] ∧
        ∀ more, (r.playAll more).subscription.calls = r.subscription.calls) ∧
      (s.propagates = false → ∀ others : List Handler, others.length = s.handlers.length →
        ((start (s.withHandlers others) incoming isClosed).playAll moves).subscription.calls = r.subscription.calls) ∧
      (∀ w failure, r.subscription.worker = some w → w.activity = .ended failure → w.isStopping = false →
        r.HandledAll s.calls ∨ s.propagates = true ∧ ∃ n c reason, r.Fails s.calls n c reason) ∧
      (∀ w, r.subscription.worker = some w → w.isClosed = true → w.isStopping = false →
        let r' := r.playAll (List.replicate (Subscription.workload w) (.work true))
        r'.HandledAll s.calls ∨ s.propagates = true ∧ ∃ n c reason, r'.Fails s.calls n c reason) := by
  intro r
  obtain ⟨handlers, -, propagates⟩ := run_settings s incoming isClosed moves
  have swallowed (swallows : s.propagates = false) (others : List Handler)
      (alike : others.length = s.handlers.length) := calls_withHandlers swallows alike incoming isClosed moves
  have ended := ended_handledAll handled idle incoming isClosed moves
  have settled := settled_handledAll handled idle incoming isClosed moves
  rcases (start_whole handled idle incoming isClosed).playAll moves with ⟨done, whole⟩ | ⟨log, c, reason, broken⟩
  · have called := whole.called
    rw [handlers] at called
    refine ⟨_, called, Call.rounds_prefix _ whole.tracks.ordered, whole.tracks.within, .inl ⟨done, rfl⟩,
      fun on n c reason fails => ?_, swallowed, ended, settled⟩
    have silent := whole.quiet (propagates.trans on) n c fails.1 fails.2.1
    rw [fails.2.2] at silent
    cases silent
  · have called := broken.called
    rw [List.append_assoc] at called
    obtain ⟨done, tracks⟩ := broken.tracks
    refine ⟨log ++ [c], called, handlers ▸ broken.within, tracks.within,
      .inr ⟨propagates ▸ broken.propagates, _, c, reason, broken.fails⟩, fun _ n c' reason' fails => ?_, swallowed,
      ended, settled⟩
    obtain ⟨last, told⟩ := broken.fails_last fails
    exact ⟨last, told, fun more => (playAll_of_not_running broken.halted more).2.2.1⟩

/-- Two handlers, the first of which fails when it is called with the second intervention. -/
theorem calls_up_to_failure :
    let s : Subscription :=
      { handlers := [fun n _ => if n = 2 then some "full" else none, fun _ _ => none], propagates := true }
    let stream := [Arrival.chunk (Text.toUtf8 "data:\x7b\"name\":\"a\"\x7d\n\ndata:\x7b\"name\":\"b\"\x7d\n\n".toList)]
    let r := (start s stream true).playAll (List.replicate 8 (.work true))
    s.handlers ≠ [] ∧ s.isRunning = false ∧
      (∃ log, r.subscription.calls = s.calls ++ log ∧ log <+: Call.rounds 2 (Arrival.interventions r.read)) ∧
      r.subscription.calls.map (fun c => (c.handler, c.intervention.name)) = [(0, "a"), (1, "a"), (0, "b")] ∧
      r.told.map (·.messages) = [["handler failed for intervention 'b'", "full"]] := by
  intro s stream r
  have handled : s.handlers ≠ [] := nofun
  obtain ⟨log, called, within, -⟩ := handlers_in_order handled rfl stream true (List.replicate 8 (.work true))
  exact ⟨handled, rfl, ⟨log, called, within⟩, by decide +kernel, by decide +kernel⟩

end AttributeStore.Session
