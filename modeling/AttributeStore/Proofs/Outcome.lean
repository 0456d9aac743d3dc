import Mathlib.Data.List.Forall2

/-! Work that may fail, taken apart: where a sequence of steps succeeds, each of its steps does. -/
namespace AttributeStore

theorem bind_eq_ok_iff {x : Except ε α} {f : α → Except ε β} {b : β} :
    (x >>= f) = .ok b ↔ ∃ a, x = .ok a ∧ f a = .ok b := by
  cases x with
  | error e => exact ⟨nofun, nofun⟩
  | ok a => exact ⟨fun h => ⟨a, rfl, h⟩, fun ⟨_, same, h⟩ => by cases same; exact h⟩

theorem map_eq_ok_iff {x : Except ε α} {f : α → β} {b : β} : x.map f = .ok b ↔ ∃ a, x = .ok a ∧ f a = b := by
  cases x with
  | error e => exact ⟨nofun, nofun⟩
  | ok a => simp [Except.map]

theorem bind_eq_error_iff {x : Except ε α} {f : α → Except ε β} {e : ε} :
    (x >>= f) = .error e ↔ x = .error e ∨ ∃ a, x = .ok a ∧ f a = .error e := by
  cases x with
  | error e' => simp [bind, Except.bind]
  | ok a => simp [bind, Except.bind]

theorem map_eq_error_iff {x : Except ε α} {f : α → β} {e : ε} : x.map f = .error e ↔ x = .error e := by
  cases x <;> simp [Except.map]

theorem mapError_eq_ok_iff {x : Except ε α} {f : ε → ε'} {a : α} : x.mapError f = .ok a ↔ x = .ok a := by
  cases x <;> simp [Except.mapError]

theorem isOk_iff {x : Except ε α} : x.isOk ↔ ∃ a, x = .ok a := by
  cases x <;> simp [Except.isOk, Except.toBool]

theorem eq_ok_of_toOption {x : Except ε α} {a : α} (read : x.toOption = some a) : x = .ok a := by
  cases x with
  | error e => cases read
  | ok b => exact congrArg _ (Option.some.inj read)

theorem mapM_eq_ok_iff {f : α → Except ε β} {items : List α} {results : List β} :
    items.mapM f = .ok results ↔ List.Forall₂ (fun a b => f a = .ok b) items results := by
  induction items generalizing results with
  | nil => simp [pure, Except.pure, eq_comm]
  | cons a rest ih =>
    simp only [List.mapM_cons, bind_eq_ok_iff, List.forall₂_cons_left_iff, ih]
    constructor
    · rintro ⟨b, first, bs, others, same⟩
      cases same
      exact ⟨b, bs, first, others, rfl⟩
    · rintro ⟨b, bs, first, others, rfl⟩
      exact ⟨b, first, bs, others, rfl⟩

theorem exists_of_mapM_eq_ok {f : α → Except ε β} {items : List α} {results : List β}
    (run : items.mapM f = .ok results) : (∀ a ∈ items, ∃ b ∈ results, f a = .ok b) ∧
      ∀ b ∈ results, ∃ a ∈ items, f a = .ok b := by
  rw [mapM_eq_ok_iff] at run
  induction run with
  | nil => simp
  | cons first others ih =>
    simp only [List.forall_mem_cons, List.exists_mem_cons_iff]
    exact ⟨⟨.inl first, fun a member => .inr (ih.1 a member)⟩, .inl first, fun b member => .inr (ih.2 b member)⟩

/-- A sequence of steps fails as one of its steps does. -/
theorem exists_of_mapM_eq_error {f : α → Except ε β} {items : List α} {e : ε} (run : items.mapM f = .error e) :
    ∃ a ∈ items, f a = .error e := by
  induction items with
  | nil => cases run
  | cons a rest ih =>
    simp only [List.mapM_cons, bind_eq_error_iff, List.exists_mem_cons_iff] at run ⊢
    rcases run with first | ⟨b, -, others | ⟨bs, -, impossible⟩⟩
    · exact .inl first
    · exact .inr (ih others)
    · cases impossible

end AttributeStore
