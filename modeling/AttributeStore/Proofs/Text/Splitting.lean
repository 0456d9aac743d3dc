import AttributeStore.Text.Blank

/-! Texts cut at a character. -/
namespace AttributeStore.Text

theorem length_splitAt (sep : Char) (s : List Char) : (splitAt sep s).length = s.count sep + 1 := by
  induction s with
  | nil => rfl
  | cons c rest ih =>
    rw [splitAt]
    cases pieces : splitAt sep rest with
    | nil => simp [pieces] at ih
    | cons piece more =>
      rw [pieces] at ih
      by_cases here : c = sep
      · simp [here, ← ih]
      · simp [here, ← ih]

theorem splitAt_cons_sep (sep : Char) (rest : List Char) : splitAt sep (sep :: rest) = [] :: splitAt sep rest := by
  rw [splitAt]
  cases pieces : splitAt sep rest with
  | nil =>
    have counted := length_splitAt sep rest
    simp [pieces] at counted
  | cons piece more => simp

theorem splitAt_of_not_mem {sep : Char} {s : List Char} (absent : sep ∉ s) : splitAt sep s = [s] := by
  induction s with
  | nil => rfl
  | cons c rest ih =>
    rw [List.mem_cons, not_or] at absent
    simp [splitAt, ih absent.2, Ne.symm absent.1]

theorem splitAt_append {sep : Char} {s : List Char} (absent : sep ∉ s) (rest : List Char) :
    splitAt sep (s ++ sep :: rest) = s :: splitAt sep rest := by
  induction s with
  | nil => exact splitAt_cons_sep sep rest
  | cons c s ih =>
    rw [List.mem_cons, not_or] at absent
    simp [splitAt, ih absent.2, Ne.symm absent.1]

theorem splitAt_ne_nil (sep : Char) (s : List Char) : splitAt sep s ≠ [] := by
  intro none
  have counted := length_splitAt sep s
  simp [none] at counted

theorem intercalate_splitAt (sep : Char) (s : List Char) : [sep].intercalate (splitAt sep s) = s := by
  induction s with
  | nil => rfl
  | cons c rest ih =>
    obtain ⟨piece, more, pieces⟩ := List.exists_cons_of_ne_nil (splitAt_ne_nil sep rest)
    rw [pieces] at ih
    rw [splitAt, pieces]
    dsimp only
    split
    case isTrue here => simp [List.intercalate_cons_cons, ih, here]
    case isFalse => cases more <;> simp_all [List.intercalate_cons_cons]

theorem notMem_of_mem_splitAt {sep : Char} {s piece : List Char} (member : piece ∈ splitAt sep s) : sep ∉ piece := by
  induction s generalizing piece with
  | nil => simp_all [splitAt]
  | cons c rest ih =>
    obtain ⟨first, more, pieces⟩ := List.exists_cons_of_ne_nil (splitAt_ne_nil sep rest)
    rw [splitAt, pieces] at member
    rw [pieces] at ih
    dsimp only at member
    split at member
    case isTrue =>
      rcases List.mem_cons.mp member with rfl | member
      · exact List.not_mem_nil
      · exact ih member
    case isFalse other =>
      rcases List.mem_cons.mp member with rfl | member
      · exact List.not_mem_cons_of_ne_of_not_mem (Ne.symm other) (ih List.mem_cons_self)
      · exact ih (List.mem_cons_of_mem first member)

/-- What is cut into some pieces is these pieces joined again, as long as the mark is in none of them. -/
theorem splitAt_eq_iff {sep : Char} {s : List Char} {pieces : List (List Char)} :
    splitAt sep s = pieces ↔ pieces ≠ [] ∧ (∀ piece ∈ pieces, sep ∉ piece) ∧ [sep].intercalate pieces = s := by
  constructor
  · rintro rfl
    exact ⟨splitAt_ne_nil sep s, fun _ => notMem_of_mem_splitAt, intercalate_splitAt sep s⟩
  · rintro ⟨some, uncut, rfl⟩
    induction pieces with
    | nil => exact absurd rfl some
    | cons piece more ih =>
      rw [List.forall_mem_cons] at uncut
      cases more with
      | nil => rw [List.intercalate_singleton, splitAt_of_not_mem uncut.1]
      | cons next more =>
        rw [List.intercalate_cons_cons, List.append_assoc, List.singleton_append, splitAt_append uncut.1,
          ih (by simp) uncut.2]

theorem count_intercalate (sep : Char) (piece : List Char) (more : List (List Char)) :
    ([sep].intercalate (piece :: more)).count sep = more.length + (piece :: more).flatten.count sep := by
  induction more generalizing piece with
  | nil => simp
  | cons next more ih =>
    simp only [List.intercalate_cons_cons, List.count_append, ih next, List.count_singleton_self, List.flatten_cons,
      List.length_cons]
    omega

/-- Pieces without the mark cannot be taken for as many others, whatever is in these. -/
theorem eq_of_intercalate_eq {sep : Char} {pieces others : List (List Char)} (uncut : ∀ piece ∈ pieces, sep ∉ piece)
    (many : pieces.length = others.length) (same : [sep].intercalate pieces = [sep].intercalate others) :
    pieces = others := by
  cases pieces with
  | nil => exact (List.length_eq_zero_iff.mp many.symm).symm
  | cons piece more =>
    obtain ⟨other, rest, rfl⟩ := List.exists_cons_of_length_eq_add_one many.symm
    have absent {pieces : List (List Char)} : pieces.flatten.count sep = 0 ↔ ∀ piece ∈ pieces, sep ∉ piece := by
      simp only [List.count_eq_zero, List.mem_flatten, not_exists, not_and]
    -- as many marks as there are between the pieces leave none for inside the others
    have marks := congrArg (List.count sep) same
    rw [count_intercalate, count_intercalate, absent.mpr uncut] at marks
    simp only [List.length_cons] at many
    have uncut' : ∀ piece ∈ other :: rest, sep ∉ piece := absent.mp (by omega)
    rw [← splitAt_eq_iff.mpr ⟨List.cons_ne_nil _ _, uncut, rfl⟩, same]
    exact splitAt_eq_iff.mpr ⟨List.cons_ne_nil _ _, uncut', rfl⟩

/-- A cut between two texts is one of the cuts of both together. -/
theorem splitAt_append_cons (sep : Char) (s rest : List Char) :
    splitAt sep (s ++ sep :: rest) = splitAt sep s ++ splitAt sep rest := by
  induction s with
  | nil => exact splitAt_cons_sep sep rest
  | cons c s ih =>
    obtain ⟨piece, more, pieces⟩ := List.exists_cons_of_ne_nil (splitAt_ne_nil sep s)
    rw [List.cons_append, splitAt, ih, splitAt, pieces]
    dsimp only [List.cons_append]
    split <;> rfl

theorem splitAt_lines_cons (sep : Char) (line : List Char) (rest : List (List Char)) :
    splitAt sep ((line :: rest).flatMap (· ++ [sep])) =
      splitAt sep line ++ splitAt sep (rest.flatMap (· ++ [sep])) := by
  rw [List.flatMap_cons, List.append_assoc, List.singleton_append, splitAt_append_cons]

theorem lt_length_splitAt_lines (sep : Char) (lines : List (List Char)) :
    lines.length < (splitAt sep (lines.flatMap (· ++ [sep]))).length := by
  induction lines with
  | nil => exact Nat.zero_lt_one
  | cons line rest ih =>
    rw [splitAt_lines_cons, List.length_append, length_splitAt, List.length_cons]
    omega

/-- Lines are cut apart again exactly where no line has the mark of an end inside it. -/
theorem splitAt_lines_iff {sep : Char} {lines : List (List Char)} :
    splitAt sep (lines.flatMap (· ++ [sep])) = lines ++ [[]] ↔ ∀ line ∈ lines, sep ∉ line := by
  induction lines with
  | nil => exact iff_of_true rfl (by simp)
  | cons line rest ih =>
    rw [splitAt_lines_cons, List.forall_mem_cons, ← ih]
    constructor
    · intro apart
      have counted := congrArg List.length apart
      have others := lt_length_splitAt_lines sep rest
      simp only [List.length_append, length_splitAt, List.length_cons, List.length_nil] at counted others
      have first : sep ∉ line := List.count_eq_zero.mp (by omega)
      rw [splitAt_of_not_mem first] at apart
      exact ⟨first, List.tail_eq_of_cons_eq apart⟩
    · rintro ⟨first, others⟩
      rw [splitAt_of_not_mem first, others]
      rfl

theorem afterLast_of_not_mem {sep : Char} {s : List Char} (absent : sep ∉ s) : afterLast sep s = none := by
  induction s with
  | nil => rfl
  | cons c rest ih =>
    rw [List.mem_cons, not_or] at absent
    rw [afterLast, ih absent.2, if_neg (Ne.symm absent.1)]
    rfl

theorem afterLast_eq_none {sep : Char} {s : List Char} : afterLast sep s = none ↔ sep ∉ s := by
  refine ⟨fun none member => ?_, afterLast_of_not_mem⟩
  induction s with
  | nil => cases member
  | cons c rest ih =>
    rw [afterLast, Option.or_eq_none_iff] at none
    rcases List.mem_cons.mp member with rfl | later
    · simp at none
    · exact ih none.1 later

theorem splitFirst_eq_none {sep : Char} {s : List Char} : splitFirst sep s = none ↔ sep ∉ s := by
  induction s with
  | nil => simp [splitFirst]
  | cons c rest ih =>
    rw [splitFirst, List.mem_cons, not_or, ← ih]
    by_cases here : c = sep
    · simp [here]
    · simp [here, Ne.symm here]

theorem splitFirst_append {sep : Char} {s : List Char} (absent : sep ∉ s) (rest : List Char) :
    splitFirst sep (s ++ sep :: rest) = some (s, rest) := by
  induction s with
  | nil => rw [List.nil_append, splitFirst, if_pos rfl]
  | cons c s ih =>
    rw [List.mem_cons, not_or] at absent
    rw [List.cons_append, splitFirst, if_neg (Ne.symm absent.1), ih absent.2]
    rfl

/-- Two texts with a piece before their first mark are the same where both parts are. -/
theorem cons_append_inj {sep : Char} {s t rest others : List Char} (absent : sep ∉ s) (absent' : sep ∉ t) :
    s ++ sep :: rest = t ++ sep :: others ↔ s = t ∧ rest = others := by
  constructor
  · intro same
    have parts := congrArg (splitFirst sep) same
    simpa [splitFirst_append absent, splitFirst_append absent'] using parts
  · rintro ⟨rfl, rfl⟩
    rfl

theorem afterLast_append {sep : Char} {last : List Char} (absent : sep ∉ last) (s : List Char) :
    afterLast sep (s ++ sep :: last) = some last := by
  induction s with
  | nil =>
    rw [List.nil_append, afterLast, afterLast_of_not_mem absent, if_pos rfl]
    rfl
  | cons c s ih =>
    rw [List.cons_append, afterLast, ih]
    rfl

/-- Two texts with a piece behind their last mark are the same where both parts are. -/
theorem append_cons_inj {sep : Char} {s t last other : List Char} (absent : sep ∉ last) (absent' : sep ∉ other) :
    s ++ sep :: last = t ++ sep :: other ↔ s = t ∧ last = other := by
  constructor
  · intro same
    have ends := congrArg (afterLast sep) same
    rw [afterLast_append absent, afterLast_append absent', Option.some.injEq] at ends
    rw [ends] at same
    exact ⟨List.append_cancel_right same, ends⟩
  · rintro ⟨rfl, rfl⟩
    rfl

end AttributeStore.Text
