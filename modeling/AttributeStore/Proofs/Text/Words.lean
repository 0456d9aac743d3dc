import AttributeStore.Proofs.Json.Scanning
import AttributeStore.Text.Case

/-! Texts read word by word: the blanks around them and between their words, numbers, and letters of either case. -/
namespace AttributeStore.Text

theorem capital_iff {c : Char} : 'A' ≤ c ∧ c ≤ 'Z' ↔ 65 ≤ c.toNat ∧ c.toNat ≤ 90 := by
  simp [Char.le_def, UInt32.le_iff_toNat_le]

theorem isBlank_visible {c : Char} (low : 0x21 ≤ c.toNat) (high : c.toNat ≤ 0x7e) : isBlank c = false := by
  simp only [isBlank, Bool.or_eq_false_iff, Bool.and_eq_false_iff, decide_eq_false_iff_not, beq_eq_false_iff_ne]
  omega

theorem isBlank_digit {c : Char} (digit : isDigit c) : isBlank c = false := by
  have range := Json.digit_range digit
  exact isBlank_visible (by omega) (by omega)

/-- A text that neither begins nor ends with a blank. -/
theorem trimBlank_eq_self {s : List Char} (first : ∀ c ∈ s.head?, isBlank c = false)
    (last : ∀ c ∈ s.getLast?, isBlank c = false) : trimBlank s = s := by
  have kept {t : List Char} (first : ∀ c ∈ t.head?, isBlank c = false) : t.dropWhile isBlank = t := by
    cases t with
    | nil => rfl
    | cons c rest => rw [List.dropWhile_cons_of_neg (by simp [first c rfl])]
  rw [trimBlank, kept first, trimEnd, kept (by rwa [List.head?_reverse]), List.reverse_reverse]

theorem trimBlank_of_unblank {s : List Char} (unblank : ∀ c ∈ s, isBlank c = false) : trimBlank s = s :=
  trimBlank_eq_self (fun c first => unblank c (List.mem_of_mem_head? first))
    fun c last => unblank c (List.mem_of_mem_getLast? last)

theorem pieces_append {p : Char → Bool} {front : List Char} (free : ∀ c ∈ front, p c = false)
    (rest word : List Char) : pieces p (front ++ rest) word = pieces p rest (front.reverse ++ word) := by
  induction front generalizing word with
  | nil => rfl
  | cons c front ih =>
    rw [List.forall_mem_cons] at free
    rw [List.cons_append, pieces, free.1]
    simp [ih free.2]

theorem words_pair {first second : List Char} (nonempty : first ≠ []) (nonempty' : second ≠ [])
    (unblank : ∀ c ∈ first, isBlank c = false) (unblank' : ∀ c ∈ second, isBlank c = false) :
    words (first ++ ' ' :: second) = [first, second] := by
  have last : pieces isBlank second [] = [second] := by
    have read := pieces_append unblank' [] []
    rw [List.append_nil] at read
    simp [read, pieces, nonempty']
  have space : isBlank ' ' = true := by decide
  rw [words, pieces_append unblank, pieces, space]
  simp [nonempty, last]

theorem isBlank_of_lowerAscii {s : List Char} (unblank : ∀ c ∈ lowerAscii s, isBlank c = false) :
    ∀ c ∈ s, isBlank c = false := by
  intro c member
  have lowered := unblank _ (List.mem_map_of_mem member)
  split at lowered
  case isTrue capital =>
    have range := capital_iff.mp (by simpa using capital)
    exact isBlank_visible (by omega) (by omega)
  case isFalse => exact lowered

theorem wholeNumber?_digits {digits : List Char} (number : Decimal.IsDigits digits) :
    wholeNumber? digits = some (digitsValue digits : Int) := by
  have all : digits.all isDigit = true := by simpa using number.digits
  have some : digits.isEmpty = false := by simpa using number.nonempty
  unfold wholeNumber?
  split
  · exact absurd (number.digits '-' (by simp)) (by decide)
  · exact absurd (number.digits '+' (by simp)) (by decide)
  · simp [all, some]

/-- A capital is what it and its small letter become. -/
theorem toUpper_eq_iff {c capital small : Char} (isCapital : 'A' ≤ capital ∧ capital ≤ 'Z')
    (apart : small.toNat = capital.toNat + 32) : c.toUpper = capital ↔ c = capital ∨ c = small := by
  have range := capital_iff.mp isCapital
  have raised : c.toUpper.toNat = if 97 ≤ c.toNat ∧ c.toNat ≤ 122 then c.toNat - 32 else c.toNat := by
    unfold Char.toUpper
    simp only [UInt32.le_iff_toNat_le]
    split
    case isTrue letter =>
      have letter : 97 ≤ c.toNat ∧ c.toNat ≤ 122 := letter
      have step : ('A'.val - 'a'.val).toNat = 2 ^ 32 - 32 := by decide
      rw [if_pos letter, Char.toNat, UInt32.toNat_add, step, ← Char.toNat]
      omega
    case isFalse other => exact (if_neg other).symm
  rw [← Char.toNat_inj, ← Char.toNat_inj, ← Char.toNat_inj, raised, apart]
  split <;> omega

end AttributeStore.Text
