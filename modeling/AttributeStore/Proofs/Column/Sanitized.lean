import AttributeStore.Proofs.Column.Name

/-! Sanitized texts. Sanitizing works on each character for itself, so that parts may be joined before or after it; only
what comes first decides whether two more characters are put in front. What it gives it leaves alone. -/
namespace AttributeStore.Column

/-- What is left of a text inside a name. -/
def kept (part : String) : String :=
  String.ofList (keepNameChars (part.toList.map fun c => if c = '-' then '_' else c))

theorem kept_eq_self {part : String} (spelled : ∀ c ∈ part.toList, isNameChar c) : kept part = part := by
  have plain : part.toList.map (fun c => if c = '-' then '_' else c) = part.toList := by
    refine (List.map_congr_left fun c member => if_neg ?_).trans (List.map_id _)
    rintro rfl
    exact absurd (spelled '-' member) (by decide)
  rw [kept, plain, keepNameChars, List.filter_eq_self.mpr spelled, String.ofList_toList]

theorem kept_append (s t : String) : kept (s ++ t) = kept s ++ kept t := by
  simp [kept, keepNameChars, String.toList_append, String.ofList_append]

theorem kept_underscore : kept "_" = "_" := kept_eq_self (by decide)

theorem kept_intercalate (parts : List String) : kept ("_".intercalate parts) = "_".intercalate (parts.map kept) := by
  induction parts with
  | nil => rfl
  | cons part rest ih =>
    cases rest with
    | nil => simp
    | cons next rest =>
      rw [String.intercalate_cons_cons, kept_append, kept_append, ih, kept_underscore]
      exact String.intercalate_cons_cons.symm

/-- A first digit gets a letter before it. -/
def undigit (name : String) : String := if name.toList.head?.any Text.isDigit then "n_" ++ name else name

theorem any_isDigit_iff (first : Option Char) : ¬first.any Text.isDigit ↔ ∀ c ∈ first, ¬Text.isDigit c := by
  cases first <;> simp

theorem undigit_undigited (name : String) : ∀ c ∈ (undigit name).toList.head?, ¬Text.isDigit c := by
  unfold undigit
  split
  case isTrue =>
    rw [String.toList_append]
    exact (by decide : ∀ c ∈ some 'n', ¬Text.isDigit c)
  case isFalse undigited => exact (any_isDigit_iff _).mp undigited

theorem undigit_eq_self {name : String} (undigited : ∀ c ∈ name.toList.head?, ¬Text.isDigit c) :
    undigit name = name :=
  if_neg ((any_isDigit_iff _).mpr undigited)

theorem undigit_eq_empty_iff {name : String} : undigit name = "" ↔ name = "" := by
  unfold undigit
  split
  case isTrue digit =>
    refine iff_of_false (by simp) ?_
    rintro rfl
    simp at digit
  case isFalse => rfl

theorem sanitize_eq_undigit (s : String) : sanitize s = undigit (kept s) := by
  unfold sanitize undigit kept
  dsimp only
  rw [String.toList_ofList]
  split
  · apply String.toList_injective
    simp [String.toList_append]
  · rfl

/-- A text in the characters of names that does not begin with a digit. It may be empty or reserved. -/
structure IsSanitized (name : String) : Prop where
  spelled : ∀ c ∈ name.toList, isNameChar c
  undigited : ∀ c ∈ name.toList.head?, ¬Text.isDigit c

theorem sanitize_isSanitized (s : String) : IsSanitized (sanitize s) := by
  refine ⟨sanitize_isNameChar s, ?_⟩
  rw [sanitize_eq_undigit]
  exact undigit_undigited (kept s)

theorem sanitize_eq_self_iff {name : String} : sanitize name = name ↔ IsSanitized name := by
  constructor
  · intro same
    rw [← same]
    exact sanitize_isSanitized name
  · intro sanitized
    rw [sanitize_eq_undigit, kept_eq_self sanitized.spelled, undigit_eq_self sanitized.undigited]

/-- What is behind an underscore stays as it is if it is a name, and says nothing about how a name begins. -/
theorem sanitize_append (s : String) {rest : String} (named : ∀ c ∈ rest.toList, isNameChar c) :
    sanitize (s ++ "_" ++ rest) = sanitize s ++ "_" ++ rest := by
  -- where nothing is left of the front, the underscore comes first and is no digit
  have head : (kept s ++ "_" ++ rest).toList.head?.any Text.isDigit = (kept s).toList.head?.any Text.isDigit := by
    simp only [String.toList_append]
    cases (kept s).toList <;> rfl
  rw [sanitize_eq_undigit, sanitize_eq_undigit, kept_append, kept_append, kept_underscore, kept_eq_self named, undigit,
    undigit, head]
  split
  · simp only [String.append_assoc]
  · rfl

end AttributeStore.Column
