import AttributeStore.Proofs.Plan.Histories

/-! What a ledger keeps. Whatever is called on it, nothing is entered twice, and what is there stays in its place; the
column that a path has once been given is its column for ever, wherever it is asked for. -/
namespace AttributeStore

namespace Ledger

/-- A ledger that has a column for a path: it is looked up, it is what registering the path returns, it is in the list
that is handed over in the end, and plans are made with it. -/
structure Binds (l : Ledger) (path column : String) : Prop where
  lookedUp : l.column? path = some column
  registered : (l.register path).2 = column
  resolved : l.resolved.filter (·.path == path) = [⟨path, column⟩]
  planned : ∀ (a : Attribute) (p : Plan), path ∈ a.paths → (a.compile.run.run l).1 = .ok p →
    ∃ columns : String → String, columns path = column ∧ p.ReadsFrom columns a

/-- A path that is bound has one column. -/
theorem binds_columnIn {l : Ledger} (tidy : Column.Tidy l.bindings) (bound : path ∈ l.bindings.map (·.path)) :
    l.Binds path (Column.columnIn l.bindings path) where
  lookedUp := by
    cases known : l.column? path with
    | none => exact absurd bound (Column.column?_eq_none.mp known)
    | some column =>
      rw [column?] at known
      rw [Column.columnIn, known, Option.getD_some]
  registered := by
    rw [register_eq]
    exact tidy.columnIn_registerAll path [path] fun _ => bound
  resolved := tidy.filter_resolve bound
  planned a p _ compiled := by
    rw [a.compile_result tidy] at compiled
    exact ⟨_, tidy.columnIn_registerAll path a.paths fun _ => bound, Attribute.readsFrom_of_planIn compiled⟩

/-- Calls enter their events and paths one behind another. -/
theorem foldl_call (calls : List Call) {l : Ledger} (tidy : Column.Tidy l.bindings) :
    (calls.foldl call l).events = record l.events (calls.flatMap Call.events) ∧
      (calls.foldl call l).bindings = Column.registerAll l.bindings (calls.flatMap Call.paths) := by
  induction calls generalizing l with
  | nil => exact ⟨rfl, rfl⟩
  | cons c rest ih =>
    have step := call_eq tidy c
    have here : Column.Tidy (l.call c).bindings := by
      rw [step]
      exact tidy.registerAll c.paths
    rw [List.foldl_cons, List.flatMap_cons, List.flatMap_cons, record_append, Column.registerAll_append]
    rw [(ih here).1, (ih here).2, step]
    exact ⟨rfl, rfl⟩

theorem after_tidy (calls : List Call) : Column.Tidy (after calls).bindings := (after_reachable calls).tidy

theorem after_events_append (calls more : List Call) :
    (after (calls ++ more)).events = record (after calls).events (more.flatMap Call.events) := by
  rw [after, List.foldl_append]
  exact (foldl_call more (after_tidy calls)).1

theorem after_bindings_append (calls more : List Call) :
    (after (calls ++ more)).bindings = Column.registerAll (after calls).bindings (more.flatMap Call.paths) := by
  rw [after, List.foldl_append]
  exact (foldl_call more (after_tidy calls)).2

theorem after_events_nodup (calls : List Call) : (after calls).events.Nodup := by
  rw [after, (foldl_call calls Column.Tidy.empty).1]
  exact record_nodup List.nodup_nil _

/-- The paths that are bound are those that have been registered, if anything is left of them to be a name. -/
theorem mem_after_bindings {calls : List Call} {path : String} :
    path ∈ (after calls).bindings.map (·.path) ↔ path ∈ calls.flatMap Call.paths ∧ Column.HasName path := by
  rw [after, (foldl_call calls Column.Tidy.empty).2, Column.registerAll_paths, List.mem_eraseDups, List.mem_filter,
    decide_eq_true_eq]

/-- The column of a bound path is its column ever after. -/
theorem after_binds {calls : List Call} (bound : path ∈ (after calls).bindings.map (·.path)) (more : List Call) :
    (after (calls ++ more)).Binds path (Column.columnIn (after calls).bindings path) := by
  have tidy := after_tidy calls
  have later := after_bindings_append calls more
  have still : path ∈ (after (calls ++ more)).bindings.map (·.path) := by
    rw [later]
    exact ((tidy.prefix_registerAll _).map _).subset bound
  rw [← tidy.columnIn_registerAll path (more.flatMap Call.paths) fun _ => bound, ← later]
  exact binds_columnIn (after_tidy _) still

/-- A path that is registered by some call has, from then on, the column that it has after that call. -/
theorem after_call_binds (calls : List Call) {c : Call} (registers : path ∈ c.paths) (named : Column.HasName path)
    (more : List Call) : (after (calls ++ c :: more)).Binds path
      (Column.columnIn (Column.registerAll (after calls).bindings c.paths) path) := by
  have here : (after (calls ++ [c])).bindings = Column.registerAll (after calls).bindings c.paths := by
    rw [after_bindings_append, List.flatMap_singleton]
  have bound : path ∈ (after (calls ++ [c])).bindings.map (·.path) := by
    rw [here]
    exact (after_tidy calls).mem_registerAll c.paths registers named
  rw [List.append_cons, ← here]
  exact after_binds bound more

/-- Whatever was called on a ledger and whatever will be: it holds nothing twice and loses nothing of what it holds,
and a path has no column until it is registered, and one column ever after. -/
theorem after_stable (calls more : List Call) :
    let l := after calls
    let l' := after (calls ++ more)
    (l.events.Nodup ∧ l.events <+: l'.events) ∧
    ((l.bindings.map (·.path)).Nodup ∧ l.bindings.map (·.path) <+: l'.bindings.map (·.path)) ∧
    (∀ path, l.column? path = none ↔ path ∉ calls.flatMap Call.paths ∨ ¬Column.HasName path) ∧
    (∀ path column, l.column? path = some column → l'.Binds path column) ∧
    (∀ path, Column.HasName path → (after (calls ++ .register path :: more)).Binds path (l.register path).2) ∧
    ∀ a : Attribute, ((a.compile.run.run l).1.isOk ↔ a.Compiles) ∧
      (∀ e, (a.compile.run.run l).1 = .error e → after (calls ++ .compile a :: more) = l') ∧
      ∀ p, (a.compile.run.run l).1 = .ok p → ∃ column : String → String, p.ReadsFrom column a ∧
        ∀ path ∈ a.paths, Column.HasName path → (after (calls ++ .compile a :: more)).Binds path (column path) := by
  intro l l'
  have tidy : Column.Tidy l.bindings := after_tidy calls
  have compiles (a : Attribute) : (a.compile.run.run l).1.isOk ↔ a.Compiles := by
    rw [a.compile_result tidy]
    exact Attribute.planIn_isOk_iff
  refine ⟨⟨after_events_nodup calls, ?events⟩, ⟨tidy.once, ?paths⟩, ?unbound, ?bound, ?registered,
    fun a => ⟨compiles a, ?failed, ?compiled⟩⟩
  case events =>
    rw [after_events_append]
    exact record_extends ..
  case paths =>
    rw [after_bindings_append]
    exact (tidy.prefix_registerAll _).map _
  case unbound =>
    intro path
    rw [column?, Column.column?_eq_none, mem_after_bindings, not_and_or]
  case bound =>
    intro path column known
    have bound : path ∈ l.bindings.map (·.path) := by
      by_contra unbound
      rw [column?, Column.column?_eq_none.mpr unbound] at known
      cases known
    have now := (binds_columnIn tidy bound).lookedUp
    rw [Option.some.inj (known.symm.trans now)]
    exact after_binds bound more
  case registered =>
    intro path named
    exact after_call_binds calls (List.mem_singleton_self path) named more
  case failed =>
    intro e failure
    have idle : ¬a.Compiles := by
      rw [← compiles, failure]
      exact Bool.false_ne_true
    have same : l.call (.compile a) = l := by
      rw [call, a.compile_ledger tidy, if_neg idle]
    show after _ = after _
    rw [after, after, List.foldl_append, List.foldl_append, List.foldl_cons]
    exact congrArg (more.foldl call) same
  case compiled =>
    intro p made
    have entered : Call.paths (.compile a) = a.paths := if_pos ((compiles a).mp (isOk_iff.mpr ⟨p, made⟩))
    rw [a.compile_result tidy] at made
    refine ⟨_, Attribute.readsFrom_of_planIn made, fun path declared named => ?_⟩
    rw [← entered] at declared ⊢
    exact after_call_binds calls declared named more

/-- Of two paths that end alike the second has a number behind its column, and it keeps it when an attribute that
cannot be compiled and one that can have come after it. -/
theorem after_stable_of_known_user :
    let mean : Attribute := { lastPageOfKnownUser with aggregation := .mean }
    let l := after [.register "session.id"]
    let l' := after [.register "session.id", .register "user.id", .compile mean, .compile lastPageOfKnownUser]
    ¬mean.Compiles ∧ Column.HasName "user.id" ∧ (l.register "user.id").2 = "id_2" ∧ l.column? "user.id" = none ∧
      l'.Binds "user.id" "id_2" := by
  intro mean l l'
  obtain ⟨-, -, unbound, -, registered, -⟩ :=
    after_stable [.register "session.id"] [.compile mean, .compile lastPageOfKnownUser]
  have column : (l.register "user.id").2 = "id_2" := by decide +kernel
  refine ⟨by decide, by decide +kernel, column, (unbound "user.id").mpr (.inl (by decide)), ?_⟩
  rw [← column]
  exact registered "user.id" (by decide +kernel)

end Ledger

end AttributeStore
