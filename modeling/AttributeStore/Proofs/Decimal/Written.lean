import AttributeStore.Decimal.Notation
import AttributeStore.Text.Blank
import Mathlib.Data.List.Basic

/-! The form of written numbers: a sign, whole digits without a needless zero, perhaps a fraction and perhaps a power
of ten. The texts of whole numbers and of doubles have it, in every notation. -/
namespace AttributeStore.Decimal

/-- A run of digits. -/
structure IsDigits (s : List Char) : Prop where
  nonempty : s ≠ []
  digits : ∀ c ∈ s, Text.isDigit c

/-- Digits with no zero in front of others. -/
structure IsWhole (s : List Char) : Prop extends IsDigits s where
  lead : s.head? = some '0' → s = ['0']

/-- The parts of a written number. A power has the sign of its exponent and its digits. -/
structure Form where
  negative : Bool := false
  whole : List Char
  fraction : Option (List Char) := none
  power : Option (Bool × List Char) := none

namespace Form

def fractionText (f : Form) : List Char := f.fraction.elim [] ('.' :: ·)

def powerText (f : Form) : List Char :=
  f.power.elim [] fun (down, digits) => 'e' :: (if down then '-' else '+') :: digits

def text (f : Form) : List Char :=
  (if f.negative then ['-'] else []) ++ f.whole ++ f.fractionText ++ f.powerText

/-- A number that is marked as no integer. -/
def IsPointed (f : Form) : Prop := f.fraction.isSome ∨ f.power.isSome

structure Proper (f : Form) : Prop where
  whole : IsWhole f.whole
  fraction : ∀ s ∈ f.fraction, IsDigits s
  power : ∀ p ∈ f.power, IsDigits p.2

end Form

theorem isDigits_toString (n : Nat) : IsDigits (toString n).toList := by
  rw [Nat.toString_eq_ofList_toDigits, String.toList_ofList]
  refine ⟨Nat.toDigits_ne_nil, fun d member => ?_⟩
  have digit := Nat.isDigit_of_mem_toDigits (by decide) (by decide) member
  simpa [Char.isDigit, Text.isDigit, Char.le_def] using digit

theorem digitsValue_toString (n : Nat) : Text.digitsValue (toString n).toList = n := by
  have value : Nat.ofDigitChars 10 (Nat.toDigits 10 n) 0 = n := Nat.ofDigitChars_ten_toDigits
  rw [Nat.toString_eq_ofList_toDigits, String.toList_ofList]
  exact value

/-- Only zero is written with a zero in front. -/
theorem eq_zero_of_lead {n : Nat} (lead : (toString n).toList.head? = some '0') : n = 0 := by
  rw [Nat.toString_eq_ofList_toDigits, String.toList_ofList] at lead
  induction n using Nat.strongRecOn with
  | _ n ih =>
    by_cases small : n < 10
    · rw [Nat.toDigits_of_lt_base small, List.head?_cons, Option.some.injEq] at lead
      have code := congrArg Char.toNat lead
      rw [Nat.toNat_digitChar_of_lt_ten small] at code
      exact Nat.add_left_cancel code
    · rw [Nat.toDigits_of_base_le (by decide) (Nat.le_of_not_lt small),
        List.head?_append_of_ne_nil _ Nat.toDigits_ne_nil] at lead
      have := ih (n / 10) (by omega) lead
      omega

theorem isWhole_toString (n : Nat) : IsWhole (toString n).toList := by
  refine ⟨isDigits_toString n, fun lead => ?_⟩
  rw [eq_zero_of_lead lead]
  rfl

theorem toString_int (n : Int) : (toString n).toList =
    if n < 0 then '-' :: (toString n.natAbs).toList else (toString n.natAbs).toList := by
  cases n with
  | ofNat n => simp [Int.toString_eq_repr, Int.repr]
  | negSucc n => simp [Int.toString_eq_repr, Int.repr]

theorem isDigits_replicate {n : Nat} (positive : 0 < n) : IsDigits (List.replicate n '0') := by
  refine ⟨by simpa using Nat.ne_of_gt positive, fun c member => ?_⟩
  rw [List.eq_of_mem_replicate member]
  rfl

theorem IsDigits.append_ne_period {s : List Char} (digits : IsDigits s) (t u : List Char) : s ++ t ≠ '.' :: u := by
  obtain ⟨d, more, rfl⟩ := List.exists_cons_of_ne_nil digits.nonempty
  rintro same
  obtain rfl : d = '.' := List.head_eq_of_cons_eq same
  exact absurd (digits.digits '.' (by simp)) (by decide)

theorem IsDigits.append {s t : List Char} (digits : IsDigits s) (others : ∀ c ∈ t, Text.isDigit c) :
    IsDigits (s ++ t) := by
  refine ⟨by simp [digits.nonempty], fun c member => ?_⟩
  rcases List.mem_append.mp member with here | there
  · exact digits.digits c here
  · exact others c there

/-! Digits of doubles. A double that is not zero is not written as zero. -/

theorem Magnitude.holds_digits {x : Magnitude} (nonzero : x.mantissa ≠ 0) {d : Digits} (near : x.holds d = true) :
    d.digits ≠ 0 := by
  intro zero
  have below : d.against (4 * x.mantissa - if x.narrow then 1 else 2) (x.power - 2) = .lt := by
    have positive : 0 < 4 * x.mantissa - if x.narrow then 1 else 2 := by split <;> omega
    rw [Digits.against, zero, Nat.zero_mul, Nat.zero_mul, Nat.compare_eq_lt]
    exact Nat.mul_pos (Nat.mul_pos positive (Nat.pow_pos (by decide))) (Nat.pow_pos (by decide))
  simp [Magnitude.holds, below] at near

theorem Magnitude.onGrid?_digits {tie : Tie} {x : Magnitude} (nonzero : x.mantissa ≠ 0) {power : Int} {d : Digits}
    (found : x.onGrid? tie power = some d) : d.digits ≠ 0 := by
  unfold Magnitude.onGrid? at found
  dsimp only at found
  have low := fun holds => Magnitude.holds_digits nonzero (d := ⟨x.units power, power⟩) holds
  split at found
  case h_1 lower _ =>
    split at found
    · cases found
      exact Nat.succ_ne_zero _
    · cases found
      exact low lower
    · split at found
      · cases found
        exact Nat.succ_ne_zero _
      · cases found
        exact low lower
  case h_2 lower _ =>
    cases found
    exact low lower
  case h_3 =>
    cases found
    exact Nat.succ_ne_zero _
  case h_4 => cases found

theorem Digits.strip_digits (fuel : Nat) {d : Digits} (nonzero : d.digits ≠ 0) : (d.strip fuel).digits ≠ 0 := by
  induction fuel generalizing d with
  | zero => exact nonzero
  | succ fuel ih =>
    rw [Digits.strip]
    split
    case isTrue divides =>
      simp only [ne_eq, Bool.and_eq_true, decide_eq_true_eq] at divides
      exact ih (by simp only; omega)
    case isFalse => exact nonzero

theorem Magnitude.shortest_digits {tie : Tie} {x : Magnitude} (nonzero : x.mantissa ≠ 0) :
    (x.shortest tie).digits ≠ 0 := by
  simp only [Magnitude.shortest, nonzero, if_false]
  cases found : List.findSome? (fun (n : Nat) => x.onGrid? tie (x.leading - (n : Int))) (List.range 17) with
  | some d =>
    obtain ⟨n, _, grid⟩ := List.exists_of_findSome?_eq_some found
    exact Digits.strip_digits 20 (Magnitude.onGrid?_digits nonzero grid)
  | none =>
    have positive (base exponent : Nat) (large : 0 < base) : Nat.pow base exponent ≠ 0 :=
      Nat.ne_of_gt (Nat.pow_pos large)
    exact Nat.mul_ne_zero (Nat.mul_ne_zero nonzero (positive 2 _ (by decide))) (positive 5 _ (by decide))

theorem Magnitude.shortest_power {tie : Tie} {x : Magnitude} (zero : (x.shortest tie).digits = 0) :
    (x.shortest tie).power = 0 := by
  by_cases none : x.mantissa = 0
  · rw [Magnitude.shortest, if_pos none]
  · exact absurd zero (Magnitude.shortest_digits none)

/-! Texts of doubles. -/

/-- Digits with zeros behind them, up to the point. -/
theorem proper_whole {n zeros : Nat} (normal : n = 0 → zeros = 0) (pointZero : Bool) :
    (⟨false, (toString n).toList ++ List.replicate zeros '0', if pointZero then some ['0'] else none, none⟩ :
      Form).Proper := by
  have digits := isDigits_toString n
  refine ⟨⟨digits.append fun c member => List.eq_of_mem_replicate member ▸ rfl, fun lead => ?_⟩, ?_, nofun⟩
  · rw [List.head?_append_of_ne_nil _ digits.nonempty] at lead
    have zero := eq_zero_of_lead lead
    rw [normal zero, zero]
    rfl
  · cases pointZero with
    | false => nofun
    | true =>
      rintro _ ⟨⟩
      exact isDigits_replicate (n := 1) (by decide)

/-- Digits with the point among them. -/
theorem proper_inside {n places : Nat} (nonzero : n ≠ 0) (behind : 0 < places)
    (inside : places < (toString n).toList.length) :
    (⟨false, (toString n).toList.take ((toString n).length - places),
      some ((toString n).toList.drop ((toString n).length - places)), none⟩ : Form).Proper := by
  have digits := isDigits_toString n
  refine ⟨⟨⟨?_, fun c member => digits.digits c (List.mem_of_mem_take member)⟩, fun lead => ?_⟩, ?_, nofun⟩
  · simp only [ne_eq, List.take_eq_nil_iff, not_or, ← String.length_toList]
    exact ⟨by omega, digits.nonempty⟩
  · rw [List.head?_take] at lead
    split at lead
    · cases lead
    · exact absurd (eq_zero_of_lead lead) nonzero
  · rintro _ ⟨⟩
    refine ⟨?_, fun c member => digits.digits c (List.mem_of_mem_drop member)⟩
    simp only [ne_eq, List.drop_eq_nil_iff, ← String.length_toList]
    omega

/-- Digits behind the point, and zeros between. -/
theorem proper_behind (n zeros : Nat) :
    (⟨false, ['0'], some (List.replicate zeros '0' ++ (toString n).toList), none⟩ : Form).Proper := by
  have digits := isDigits_toString n
  refine ⟨⟨isDigits_replicate (n := 1) (by decide), fun _ => rfl⟩, ?_, nofun⟩
  rintro _ ⟨⟩
  refine ⟨by simp, fun c member => ?_⟩
  rcases List.mem_append.mp member with zero | digit
  · exact List.eq_of_mem_replicate zero ▸ rfl
  · exact digits.digits c digit

theorem positionalText_form (pointZero : Bool) {d : Digits} (normal : d.digits = 0 → d.power = 0) :
    ∃ f : Form, f.Proper ∧ f.negative = false ∧ f.power = none ∧ (pointZero = true → f.IsPointed) ∧
      (positionalText pointZero d).toList = f.text := by
  unfold positionalText
  dsimp only
  split
  case isTrue whole =>
    have bare : d.digits = 0 → d.power.toNat = 0 := fun zero => by rw [normal zero]; rfl
    refine ⟨_, proper_whole bare pointZero, rfl, rfl, ?_, ?_⟩
    · rintro rfl
      exact .inl rfl
    · cases pointZero <;> simp [Form.text, Form.fractionText, Form.powerText, zeros]
  case isFalse negative =>
    have below : d.power < 0 := by omega
    have nonzero : d.digits ≠ 0 := fun zero => by rw [normal zero] at below; omega
    split
    case isTrue inside =>
      rw [← String.length_toList] at inside
      refine ⟨_, proper_inside nonzero (by omega) inside, rfl, rfl, fun _ => .inl rfl, ?_⟩
      simp [Form.text, Form.fractionText, Form.powerText]
    case isFalse outside =>
      refine ⟨_, proper_behind d.digits ((-d.power).toNat - (toString d.digits).length), rfl, rfl,
        fun _ => .inl rfl, ?_⟩
      simp [Form.text, Form.fractionText, Form.powerText, zeros]

theorem scientificText_form (d : Digits) :
    ∃ f : Form, f.Proper ∧ f.negative = false ∧ f.IsPointed ∧ (scientificText d).toList = f.text := by
  obtain ⟨nonempty, digits⟩ := isDigits_toString d.digits
  obtain ⟨first, tail, split⟩ := List.exists_cons_of_ne_nil nonempty
  rw [split] at digits
  have exponent := isDigits_toString (d.power + ((toString d.digits).length : Int) - 1).natAbs
  refine ⟨⟨false, [first], if tail.isEmpty then none else some tail,
    some (decide (d.power + ((toString d.digits).length : Int) - 1 < 0),
      (toString (d.power + ((toString d.digits).length : Int) - 1).natAbs).toList)⟩,
    ⟨⟨⟨nofun, ?_⟩, ?_⟩, ?_, ?_⟩, rfl, .inr rfl, ?_⟩
  · simpa using digits first (by simp)
  · simp
  · cases tail with
    | nil => nofun
    | cons second tail =>
      rintro _ ⟨⟩
      exact ⟨nofun, fun c member => digits c (List.mem_cons_of_mem first member)⟩
  · rintro _ ⟨⟩
    exact exponent
  · unfold scientificText
    dsimp only
    rw [split]
    generalize d.power + ((toString d.digits).length : Int) - 1 = e
    by_cases down : e < 0 <;> cases tail <;> simp [Form.text, Form.fractionText, Form.powerText, down]

theorem Notation.magnitude_form (style : Notation) (x : Magnitude) :
    ∃ f : Form, f.Proper ∧ f.negative = false ∧ ((∀ e, style.positional e = true) → f.power = none) ∧
      (style.pointZero = true → f.IsPointed) ∧ (style.magnitude x).toList = f.text := by
  unfold Notation.magnitude
  dsimp only
  split
  case isTrue =>
    obtain ⟨f, proper, positive, plain, pointed, written⟩ :=
      positionalText_form style.pointZero Magnitude.shortest_power
    exact ⟨f, proper, positive, fun _ => plain, pointed, written⟩
  case isFalse scientific =>
    obtain ⟨f, proper, positive, pointed, written⟩ := scientificText_form (x.shortest style.tie)
    exact ⟨f, proper, positive, fun positional => absurd (positional _) scientific, fun _ => pointed, written⟩

theorem Notation.render_form (style : Notation) (x : Float) :
    ∃ f : Form, f.Proper ∧ (style.pointZero = true → f.IsPointed) ∧ (style.render x).toList = f.text := by
  obtain ⟨f, ⟨whole, fraction, power⟩, positive, -, pointed, written⟩ := style.magnitude_form (.ofBits x.toBits)
  refine ⟨{ f with negative := x.toBits >>> 63 = 1 }, ⟨whole, fraction, power⟩, pointed, ?_⟩
  dsimp only [Notation.render]
  rw [String.toList_append, written, Form.text, Form.text, positive]
  by_cases sign : x.toBits >>> 63 = 1
  · simp [sign, Form.fractionText, Form.powerText]
  · simp [sign, Form.fractionText, Form.powerText]

end AttributeStore.Decimal
