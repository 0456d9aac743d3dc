import AttributeStore.Period.Reader
import AttributeStore.Proofs.Text.Words

/-! ISO durations read back. A component of a duration adds its seconds to the sum that is being read, and a component
that is left out adds none, so that what is written for a period is read as its seconds. -/
namespace AttributeStore

namespace Period

/-- The characters of an ISO duration. -/
def isoMarks : List Char := ['P', 'T', 'D', 'H', 'M', 'S']

theorem component_toList (n : Nat) (letter : String) :
    (component n letter).toList = if n > 0 then (toString n).toList ++ letter.toList else [] := by
  unfold component
  split
  · exact String.toList_append
  · rfl

theorem iso_toList (p : Period) : p.iso.toList =
    if p.seconds % perDay = 0 then 'P' :: ((toString p.numDays).toList ++ ['D'])
    else 'P' :: ((component p.numDays "D").toList ++ 'T' :: ((component (p.seconds % perDay / perHour) "H").toList ++
      ((component (p.seconds % perDay % perHour / perMinute) "M").toList ++
        (component (p.seconds % perDay % perMinute) "S").toList))) := by
  unfold iso
  dsimp only
  split
  · simp [String.toList_append]
    rfl
  · simp [String.toList_append]

theorem iso_marks (p : Period) : ∀ c ∈ p.iso.toList, Text.isDigit c ∨ c ∈ isoMarks := by
  have digits (n : Nat) : ∀ c ∈ (toString n).toList, Text.isDigit c := (Decimal.isDigits_toString n).digits
  have parts (n : Nat) {letter : String} (known : ∀ c ∈ letter.toList, c ∈ isoMarks) :
      ∀ c ∈ (component n letter).toList, Text.isDigit c ∨ c ∈ isoMarks := by
    intro c member
    rw [component_toList] at member
    split at member
    · exact (List.mem_append.mp member).imp (digits n c) (known c)
    · cases member
  intro c member
  rw [iso_toList] at member
  split at member
  case isTrue =>
    rw [List.mem_cons, List.mem_append, List.mem_singleton] at member
    rcases member with rfl | number | rfl
    · exact .inr (by decide)
    · exact .inl (digits _ c number)
    · exact .inr (by decide)
  case isFalse =>
    rw [List.mem_cons, List.mem_append, List.mem_cons, List.mem_append, List.mem_append] at member
    rcases member with rfl | days | rfl | hours | minutes | seconds
    · exact .inr (by decide)
    · exact parts _ (by decide) c days
    · exact .inr (by decide)
    · exact parts _ (by decide) c hours
    · exact parts _ (by decide) c minutes
    · exact parts _ (by decide) c seconds

theorem iso_unblank (p : Period) : ∀ c ∈ p.iso.toList, Text.isBlank c = false := by
  have marks : ∀ c ∈ isoMarks, Text.isBlank c = false := by decide
  intro c member
  rcases iso_marks p c member with digit | mark
  · exact Text.isBlank_digit digit
  · exact marks c mark

theorem isoSeconds_digits {digits : List Char} (known : ∀ c ∈ digits, Text.isDigit c) (sum : Nat) (inTime : Bool)
    (done rest : List Char) :
    isoSeconds sum inTime done (digits ++ rest) = isoSeconds sum inTime (done ++ digits) rest := by
  induction digits generalizing done with
  | nil => rw [List.nil_append, List.append_nil]
  | cons c more ih =>
    rw [List.cons_append, isoSeconds, if_pos (known c (by simp)),
      ih fun d member => known d (List.mem_cons_of_mem c member), List.append_assoc, List.singleton_append]

/-- A letter behind a number, which is neither a digit nor the mark of the time part. -/
structure IsUnit (inTime : Bool) (unit : Char) (scale : Nat) : Prop where
  notDigit : Text.isDigit unit = false
  notMark : (unit = 'T' || unit = 't') = false
  known : isoScale inTime unit = .ok scale
  positive : 0 < scale

theorem isUnit_days : IsUnit false 'D' perDay := ⟨by decide, by decide, rfl, by decide⟩
theorem isUnit_hours : IsUnit true 'H' perHour := ⟨by decide, by decide, rfl, by decide⟩
theorem isUnit_minutes : IsUnit true 'M' perMinute := ⟨by decide, by decide, rfl, by decide⟩
theorem isUnit_seconds : IsUnit true 'S' 1 := ⟨by decide, by decide, rfl, by decide⟩

variable {inTime : Bool} {unit : Char} {scale sum n : Nat}

/-- A number with its unit is added to the sum, unless it has too many bits or the sum is no period any more. -/
theorem isoSeconds_number (isUnit : IsUnit inTime unit scale) {digits : List Char} (number : Decimal.IsDigits digits)
    (rest : List Char) : isoSeconds sum inTime [] (digits ++ unit :: rest) =
      if Text.digitsValue digits ≤ maxAmount then
        within (Text.digitsValue digits * scale + sum) >>= fun sum => isoSeconds sum inTime [] rest
      else .error (.missingNumber unit) := by
  have written : digits.isEmpty = false := by simpa using number.nonempty
  rw [isoSeconds_digits number.digits, List.nil_append, isoSeconds, isUnit.notDigit]
  simp only [Bool.false_eq_true, if_false, isUnit.notMark, isoAmount, written, isUnit.known]
  split <;> rfl

theorem isoSeconds_amount (isUnit : IsUnit inTime unit scale) (bounded : n * scale + sum ≤ maxSeconds)
    (rest : List Char) :
    isoSeconds sum inTime [] ((toString n).toList ++ unit :: rest) = isoSeconds (n * scale + sum) inTime [] rest := by
  have small : n ≤ maxAmount := by
    have more := Nat.le_mul_of_pos_right n isUnit.positive
    have room : maxSeconds ≤ maxAmount := by decide
    omega
  rw [isoSeconds_number isUnit (Decimal.isDigits_toString n), Decimal.digitsValue_toString, if_pos small, within,
    if_pos bounded]
  rfl

/-- A component that is left out is one of zero. -/
theorem isoSeconds_component (isUnit : IsUnit inTime unit scale) {letter : String} (single : letter.toList = [unit])
    (bounded : n * scale + sum ≤ maxSeconds) (rest : List Char) :
    isoSeconds sum inTime [] ((component n letter).toList ++ rest) = isoSeconds (n * scale + sum) inTime [] rest := by
  rw [component_toList]
  split
  case isTrue => rw [single, List.append_assoc, List.singleton_append, isoSeconds_amount isUnit bounded]
  case isFalse none =>
    obtain rfl : n = 0 := by omega
    rw [List.nil_append, Nat.zero_mul, Nat.zero_add]

theorem readSeconds_iso (p : Period) : readSeconds p.iso.toList = .ok p.seconds := by
  have whole := p.seconds_le
  have days : p.numDays * perDay + p.seconds % perDay = p.seconds := Nat.div_add_mod' p.seconds perDay
  rw [iso_toList]
  split
  case isTrue even =>
    have bounded : p.numDays * perDay + 0 ≤ maxSeconds := by omega
    rw [readSeconds, isoSeconds_amount isUnit_days bounded]
    exact congrArg Except.ok (by omega)
  case isFalse =>
    -- the seconds of the day in hours, minutes and seconds
    have hours : p.seconds % perDay / perHour * perHour + p.seconds % perDay % perHour = p.seconds % perDay :=
      Nat.div_add_mod' ..
    have minutes : p.seconds % perDay % perHour / perMinute * perMinute + p.seconds % perDay % perHour % perMinute =
        p.seconds % perDay % perHour := Nat.div_add_mod' ..
    have seconds : p.seconds % perDay % perHour % perMinute = p.seconds % perDay % perMinute :=
      Nat.mod_mod_of_dvd _ (by decide)
    rw [readSeconds, isoSeconds_component isUnit_days rfl (by omega)]
    have marked (sum : Nat) (rest : List Char) :
        isoSeconds sum false [] ('T' :: rest) = isoSeconds sum true [] rest := by
      rw [isoSeconds]
      rfl
    rw [marked, isoSeconds_component isUnit_hours rfl (by omega), isoSeconds_component isUnit_minutes rfl (by omega),
      ← List.append_nil (component _ "S").toList, isoSeconds_component isUnit_seconds rfl (by omega)]
    exact congrArg Except.ok (by omega)

theorem ofSeconds_seconds (p : Period) : ofSeconds p.seconds = p := by
  obtain ⟨seconds, bounded⟩ := p
  simp [ofSeconds, Nat.min_eq_left bounded]

theorem parse_iso (p : Period) : parse p.iso = .ok p := by
  rw [parse, Text.trimBlank_of_unblank p.iso_unblank]
  simp only [readSeconds_iso, ofSeconds_seconds]

theorem iso_injective : Function.Injective iso := by
  intro p q same
  have read := parse_iso p
  rw [same, parse_iso] at read
  exact (Except.ok.inj read).symm

end Period

end AttributeStore
