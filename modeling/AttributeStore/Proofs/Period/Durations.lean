import AttributeStore.Proofs.Outcome
import AttributeStore.Proofs.Period.Iso

/-! The language of ISO durations. Behind the `P` stand numbers of weeks and days and, behind a mark, numbers of hours,
minutes and seconds, any number of each and in any order. A duration is read as the exact sum of its terms, unless that
sum is too long for a period; what is no duration is refused. -/
namespace AttributeStore

namespace Period

/-- A number of units and the seconds of one. -/
structure Term where
  amount : Nat
  scale : Nat

def Term.seconds (t : Term) : Nat := t.amount * t.scale

/-- The true sum of some terms, of any size. -/
def total : List Term → Nat
  | [] => 0
  | t :: terms => t.seconds + total terms

/-- The units of the date and of the time, which may be written small. -/
def letterScale? : Bool → Char → Option Nat
  | false, 'W' | false, 'w' => some perWeek
  | false, 'D' | false, 'd' => some perDay
  | true, 'H' | true, 'h' => some perHour
  | true, 'M' | true, 'm' => some perMinute
  | true, 'S' | true, 's' => some 1
  | _, _ => none

/-- The letters between the date and the time. -/
def timeMarks : List Char := ['T', 't']

/-- The date or the time of a duration, with its terms. The mark of the time may be repeated inside it. -/
inductive Part (inTime : Bool) : List Char → List Term → Prop
  | nil : Part inTime [] []
  | term : Decimal.IsDigits digits → letterScale? inTime unit = some scale → Part inTime rest terms →
      Part inTime (digits ++ unit :: rest) (⟨Text.digitsValue digits, scale⟩ :: terms)
  | mark : inTime → mark ∈ timeMarks → Part inTime rest terms → Part inTime (mark :: rest) terms

/-- What may stand behind the `P`. -/
inductive Duration : List Char → List Term → Prop
  | dated : Part false date terms → Duration date terms
  | timed : Part false date terms → mark ∈ timeMarks → Part true time more →
      Duration (date ++ mark :: time) (terms ++ more)

/-- Terms that can be added to some seconds: no number is too long, and neither is any sum on the way. -/
structure Fits (sum : Nat) (terms : List Term) : Prop where
  amounts : ∀ t ∈ terms, t.amount ≤ maxAmount
  sums : ∀ early, early <+: terms → sum + total early ≤ maxSeconds

@[simp] theorem total_nil : total [] = 0 := rfl

@[simp] theorem total_cons (t : Term) (terms : List Term) : total (t :: terms) = t.seconds + total terms := rfl

@[simp] theorem total_append (terms more : List Term) : total (terms ++ more) = total terms + total more := by
  induction terms with
  | nil => simp
  | cons t terms ih => simp [ih, Nat.add_assoc]

variable {inTime : Bool} {unit : Char} {scale sum : Nat} {t : Term} {terms more : List Term} {s : List Char}

theorem Fits.start (fits : Fits sum terms) : sum ≤ maxSeconds := fits.sums [] List.nil_prefix

theorem fits_nil : Fits sum [] ↔ sum ≤ maxSeconds := by
  refine ⟨Fits.start, fun bounded => ⟨by simp, fun early isPrefix => ?_⟩⟩
  rw [List.prefix_nil.mp isPrefix]
  exact bounded

theorem fits_cons : Fits sum (t :: terms) ↔ t.amount ≤ maxAmount ∧ Fits (t.seconds + sum) terms := by
  constructor
  · intro fits
    refine ⟨fits.amounts t (by simp), fun u member => fits.amounts u (List.mem_cons_of_mem t member), ?_⟩
    intro early isPrefix
    have bounded := fits.sums (t :: early) (List.cons_prefix_cons.mpr ⟨rfl, isPrefix⟩)
    rw [total_cons] at bounded
    omega
  · rintro ⟨small, fits⟩
    refine ⟨List.forall_mem_cons.mpr ⟨small, fits.amounts⟩, fun early isPrefix => ?_⟩
    cases early with
    | nil =>
      have bounded := fits.start
      rw [total_nil]
      omega
    | cons u early =>
      obtain ⟨rfl, others⟩ := List.cons_prefix_cons.mp isPrefix
      have bounded := fits.sums early others
      rw [total_cons]
      omega

theorem fits_append : Fits sum (terms ++ more) ↔ Fits sum terms ∧ Fits (total terms + sum) more := by
  induction terms generalizing sum with
  | nil =>
    rw [List.nil_append, total_nil, Nat.zero_add, fits_nil]
    exact ⟨fun fits => ⟨fits.start, fits⟩, And.right⟩
  | cons t terms ih =>
    have same : total terms + (t.seconds + sum) = total (t :: terms) + sum := by
      rw [total_cons]
      omega
    rw [List.cons_append, fits_cons, fits_cons, ih, same, and_assoc]

/-- The letters of units are those that the reader knows. -/
theorem isoScale_eq_ok_iff : isoScale inTime unit = .ok scale ↔ letterScale? inTime unit = some scale := by
  have letter {capital : Char} (small : Char) (isCapital : 'A' ≤ capital ∧ capital ≤ 'Z')
      (apart : small.toNat = capital.toNat + 32) (raised : unit.toUpper = capital) : unit = capital ∨ unit = small :=
    (Text.toUpper_eq_iff isCapital apart).mp raised
  constructor
  · intro known
    unfold isoScale at known
    split at known <;> cases known
    case h_1 _ raised => rcases letter 'w' (by decide) (by decide) raised with rfl | rfl <;> rfl
    case h_2 _ raised => rcases letter 'd' (by decide) (by decide) raised with rfl | rfl <;> rfl
    case h_3 _ raised => rcases letter 'h' (by decide) (by decide) raised with rfl | rfl <;> rfl
    case h_4 _ raised => rcases letter 'm' (by decide) (by decide) raised with rfl | rfl <;> rfl
    case h_5 _ raised => rcases letter 's' (by decide) (by decide) raised with rfl | rfl <;> rfl
  · intro known
    unfold letterScale? at known
    split at known <;> cases known <;> rfl

theorem isUnit_of_letterScale (known : letterScale? inTime unit = some scale) : IsUnit inTime unit scale := by
  have listed := isoScale_eq_ok_iff.mpr known
  unfold letterScale? at known
  split at known <;> cases known <;> exact ⟨by decide, by decide, listed, by decide⟩

theorem isoSeconds_mark {mark : Char} (isMark : mark ∈ timeMarks) (rest : List Char) :
    isoSeconds sum inTime [] (mark :: rest) = isoSeconds sum true [] rest := by
  rcases List.mem_pair.mp isMark with rfl | rfl <;> (rw [isoSeconds]; rfl)

/-- Reading goes over a part of a duration, adding its terms. -/
theorem Part.run (part : Part inTime s terms) (rest : List Char) (fits : Fits sum terms) :
    isoSeconds sum inTime [] (s ++ rest) = isoSeconds (total terms + sum) inTime [] rest := by
  induction part generalizing sum with
  | nil => rw [List.nil_append, total_nil, Nat.zero_add]
  | @term digits unit scale s terms number known _ ih =>
    obtain ⟨small, fits⟩ := fits_cons.mp fits
    have bounded : Text.digitsValue digits * scale + sum ≤ maxSeconds := fits.start
    rw [List.append_assoc, List.cons_append, isoSeconds_number (isUnit_of_letterScale known) number, if_pos small,
      within, if_pos bounded, total_cons, Nat.add_assoc, Nat.add_left_comm]
    exact ih fits
  | mark time isMark _ ih =>
    obtain rfl : inTime = true := time
    rw [List.cons_append, isoSeconds_mark isMark, ih fits]

theorem Duration.run (duration : Duration s terms) (fits : Fits sum terms) :
    isoSeconds sum false [] s = .ok (total terms + sum) := by
  cases duration with
  | dated date =>
    have read := date.run [] fits
    rwa [List.append_nil] at read
  | @timed date early mark time late first isMark second =>
    obtain ⟨fitsFirst, fitsSecond⟩ := fits_append.mp fits
    have read := second.run [] fitsSecond
    rw [List.append_nil] at read
    rw [first.run _ fitsFirst, isoSeconds_mark isMark, read, total_append, ← Nat.add_assoc, Nat.add_comm (total early)]
    rfl

theorem within_eq_ok_iff {n m : Nat} : within n = .ok m ↔ n ≤ maxSeconds ∧ n = m := by
  unfold within
  split
  case isTrue short => simp [short]
  case isFalse long => simp [long]

theorem isoAmount_eq_ok_iff {digits : List Char} {n : Nat} : isoAmount unit digits = .ok n ↔
    digits ≠ [] ∧ Text.digitsValue digits ≤ maxAmount ∧ Text.digitsValue digits = n := by
  unfold isoAmount
  dsimp only
  split
  case isTrue empty => simp [List.isEmpty_iff.mp empty]
  case isFalse other =>
    have nonempty : digits ≠ [] := by simpa using other
    split
    case isTrue small => simp [nonempty, small]
    case isFalse large => simp [large]

/-- What may still come: the rest of a duration in its date, the rest of its time once there was a mark. -/
def Continues : Bool → List Char → List Term → Prop
  | false => Duration
  | true => Part true

theorem Continues.nil (inTime : Bool) : Continues inTime [] [] := by
  cases inTime
  case false => exact .dated .nil
  case true => exact Part.nil

theorem Continues.term {digits : List Char} (number : Decimal.IsDigits digits)
    (known : letterScale? inTime unit = some scale) (more : Continues inTime s terms) :
    Continues inTime (digits ++ unit :: s) (⟨Text.digitsValue digits, scale⟩ :: terms) := by
  cases inTime
  case true => exact .term number known more
  case false =>
    cases more with
    | dated date => exact .dated (.term number known date)
    | timed date isMark time =>
      have whole := Duration.timed (.term number known date) isMark time
      rwa [List.append_assoc] at whole

theorem Continues.mark {mark : Char} (isMark : mark ∈ timeMarks) (time : Part true s terms) :
    Continues inTime (mark :: s) terms := by
  cases inTime
  case false => exact .timed .nil isMark time
  case true => exact .mark rfl isMark time

/-- What has been read is a duration, or the rest of one, and its terms have been added up. -/
theorem continues_of_isoSeconds {digits : List Char} {n : Nat} (number : ∀ c ∈ digits, Text.isDigit c)
    (bounded : sum ≤ maxSeconds) (read : isoSeconds sum inTime digits s = .ok n) :
    ∃ terms, Continues inTime (digits ++ s) terms ∧ Fits sum terms ∧ n = total terms + sum := by
  induction s generalizing sum inTime digits with
  | nil =>
    rw [isoSeconds] at read
    split at read
    case isFalse => cases read
    case isTrue empty =>
      cases read
      obtain rfl := List.isEmpty_iff.mp empty
      exact ⟨[], .nil inTime, fits_nil.mpr bounded, (Nat.zero_add _).symm⟩
  | cons c s ih =>
    rw [isoSeconds] at read
    split at read
    case isTrue digit =>
      have longer : ∀ d ∈ digits ++ [c], Text.isDigit d := by
        rw [List.forall_mem_append, List.forall_mem_singleton]
        exact ⟨number, digit⟩
      obtain ⟨terms, continues, fits⟩ := ih longer bounded read
      rw [List.append_assoc, List.singleton_append] at continues
      exact ⟨terms, continues, fits⟩
    case isFalse =>
      split at read
      case isTrue mark =>
        split at read
        case isFalse => cases read
        case isTrue empty =>
          obtain rfl := List.isEmpty_iff.mp empty
          obtain ⟨terms, continues, fits⟩ := ih (by simp) bounded read
          exact ⟨terms, .mark (by simpa [timeMarks] using mark) continues, fits⟩
      case isFalse =>
        obtain ⟨amount, counted, read⟩ := bind_eq_ok_iff.mp read
        obtain ⟨scale, known, read⟩ := bind_eq_ok_iff.mp read
        obtain ⟨sum', added, read⟩ := bind_eq_ok_iff.mp read
        obtain ⟨nonempty, small, rfl⟩ := isoAmount_eq_ok_iff.mp counted
        obtain ⟨bounded', rfl⟩ := within_eq_ok_iff.mp added
        obtain ⟨terms, continues, fits, rfl⟩ := ih (by simp) bounded' read
        refine ⟨_, .term ⟨nonempty, number⟩ (isoScale_eq_ok_iff.mp known) continues, fits_cons.mpr ⟨small, fits⟩, ?_⟩
        rw [total_cons, Nat.add_assoc, Nat.add_left_comm]
        rfl

theorem isoSeconds_eq_ok_iff {n : Nat} :
    isoSeconds 0 false [] s = .ok n ↔ ∃ terms, Duration s terms ∧ Fits 0 terms ∧ n = total terms := by
  constructor
  · exact continues_of_isoSeconds (by simp) (Nat.zero_le _)
  · rintro ⟨terms, duration, fits, rfl⟩
    exact duration.run fits

theorem Part.positive (part : Part inTime s terms) : ∀ t ∈ terms, 0 < t.scale := by
  induction part with
  | nil => simp
  | term _ known _ ih => exact List.forall_mem_cons.mpr ⟨(isUnit_of_letterScale known).positive, ih⟩
  | mark _ _ _ ih => exact ih

theorem Duration.positive (duration : Duration s terms) : ∀ t ∈ terms, 0 < t.scale := by
  cases duration with
  | dated date => exact date.positive
  | timed date _ time => exact List.forall_mem_append.mpr ⟨date.positive, time.positive⟩

/-- Where no unit is nothing, the last sum bounds all that comes before it. -/
theorem fits_iff_total (positive : ∀ t ∈ terms, 0 < t.scale) : Fits 0 terms ↔ total terms ≤ maxSeconds := by
  constructor
  · intro fits
    simpa using fits.sums terms List.prefix_rfl
  · intro bounded
    have below {early : List Term} (isPrefix : early <+: terms) : total early ≤ total terms := by
      obtain ⟨late, rfl⟩ := isPrefix
      rw [total_append]
      exact Nat.le_add_right _ _
    refine ⟨fun t member => ?_, fun early isPrefix => ?_⟩
    · obtain ⟨before, after, rfl⟩ := List.append_of_mem member
      have more : t.amount ≤ t.seconds := Nat.le_mul_of_pos_right t.amount (positive t member)
      have room : maxSeconds ≤ maxAmount := by decide
      rw [total_append, total_cons] at bounded
      omega
    · rw [Nat.zero_add]
      exact Nat.le_trans (below isPrefix) bounded

/-! Sums in signed 64-bit numbers. -/

/-- A number, if 64 bits hold it. -/
def checked (n : Int) : Option Int64 :=
  if Int64.minValue.toInt ≤ n ∧ n ≤ Int64.maxValue.toInt then some (.ofInt n) else none

/-- Adds a term to a sum with every step checked. -/
def Term.addTo (sum : Int64) (t : Term) : Option Int64 := do
  let amount ← checked t.amount
  let product ← checked (amount.toInt * t.scale)
  let sum ← checked (product.toInt + sum.toInt)
  if sum.toInt ≤ maxSeconds then some sum else none

theorem checked_eq_some_iff {n : Int} {x : Int64} : checked n = some x ↔ x.toInt = n := by
  unfold checked
  constructor
  · intro held
    split at held
    case isFalse => cases held
    case isTrue bounds =>
      cases held
      exact Int64.toInt_ofInt_of_le bounds.1 (Int.lt_add_one_of_le bounds.2)
  · rintro rfl
    rw [if_pos ⟨x.minValue_le_toInt, x.toInt_le⟩, Int64.ofInt_toInt]

theorem exists_toInt {n : Nat} (small : n ≤ maxAmount) : ∃ x : Int64, x.toInt = n := by
  have above : Int64.minValue.toInt ≤ n := Int.le_trans (by decide) (Int.natCast_nonneg n)
  have below : (n : Int) ≤ Int64.maxValue.toInt := Int.ofNat_le.mpr small
  exact ⟨_, checked_eq_some_iff.mp (if_pos ⟨above, below⟩)⟩

theorem addTo_eq_some_iff {start result : Int64} (same : start.toInt = sum) : t.addTo start = some result ↔
    t.amount ≤ maxAmount ∧ t.seconds + sum ≤ maxSeconds ∧ result.toInt = (t.seconds + sum : Nat) := by
  simp only [Term.addTo, bind, Option.bind_eq_some_iff, checked_eq_some_iff, Option.ite_none_right_eq_some,
    Option.some.injEq]
  constructor
  · rintro ⟨amount, counted, product, multiplied, _, added, bounded, rfl⟩
    have whole : (t.seconds : Int) = t.amount * t.scale := Int.natCast_mul ..
    have small := amount.toInt_le
    rw [counted] at small multiplied
    rw [multiplied, ← whole, same] at added
    refine ⟨Int.ofNat_le.mp small, ?_, by rw [added, Int.natCast_add]⟩
    omega
  · rintro ⟨small, bounded, summed⟩
    have room : maxSeconds ≤ maxAmount := by decide
    obtain ⟨amount, counted⟩ := exists_toInt small
    obtain ⟨product, multiplied⟩ : ∃ x : Int64, x.toInt = t.seconds := exists_toInt (by omega)
    refine ⟨amount, counted, product, ?_, result, ?_, ?_, rfl⟩
    · rw [multiplied, counted, Term.seconds, Int.natCast_mul]
    · rw [summed, multiplied, same, Int.natCast_add]
    · rw [summed]
      exact Int.ofNat_le.mpr bounded

/-- Checked steps come to the true sum, or fail where terms do not fit. -/
theorem foldlM_addTo_eq_some_iff {start result : Int64} (same : start.toInt = sum) (bounded : sum ≤ maxSeconds) :
    terms.foldlM Term.addTo start = some result ↔ Fits sum terms ∧ result.toInt = (total terms + sum : Nat) := by
  induction terms generalizing start sum with
  | nil =>
    rw [List.foldlM_nil, fits_nil, total_nil, Nat.zero_add, ← same, Int64.toInt_inj]
    simp [bounded, eq_comm]
  | cons t terms ih =>
    have whole : total terms + (t.seconds + sum) = total (t :: terms) + sum := by
      rw [total_cons]
      omega
    rw [List.foldlM_cons, fits_cons]
    simp only [bind, Option.bind_eq_some_iff, addTo_eq_some_iff same]
    constructor
    · rintro ⟨x, ⟨small, bounded, added⟩, rest⟩
      rw [ih added bounded, whole] at rest
      exact ⟨⟨small, rest.1⟩, rest.2⟩
    · rintro ⟨⟨small, fits⟩, summed⟩
      have room : maxSeconds ≤ maxAmount := by decide
      obtain ⟨x, added⟩ : ∃ x : Int64, x.toInt = (t.seconds + sum : Nat) := exists_toInt (Nat.le_trans fits.start room)
      refine ⟨x, ⟨small, fits.start, added⟩, ?_⟩
      rw [ih added fits.start, whole]
      exact ⟨fits, summed⟩

theorem parse_eq_ok_iff {s : String} {p : Period} :
    parse s = .ok p ↔ ∃ n, readSeconds (Text.trimBlank s.toList) = .ok n ∧ ofSeconds n = p := by
  rw [parse]
  cases readSeconds (Text.trimBlank s.toList) <;> simp

theorem seconds_ofSeconds {n : Nat} (short : n ≤ maxSeconds) : (ofSeconds n).seconds = n := Nat.min_eq_left short

/-- A duration is accepted exactly if it is one and its terms fit, that is, if their sum is no longer than the longest
period; and it is read as that sum, which 64 bits hold at every step. -/
theorem parse_duration_iff {s : String} {letter : Char} {body : List Char} (isP : letter = 'P' ∨ letter = 'p')
    (begins : Text.trimBlank s.toList = letter :: body) :
    (∀ p, parse s = .ok p ↔ ∃ terms, Duration body terms ∧ Fits 0 terms ∧ p.seconds = total terms) ∧
    ∀ terms, Duration body terms → (Fits 0 terms ↔ total terms ≤ maxSeconds) ∧
      ∀ result, terms.foldlM Term.addTo 0 = some result ↔ Fits 0 terms ∧ result.toInt = total terms := by
  have read : readSeconds (letter :: body) = isoSeconds 0 false [] body := by
    rcases isP with rfl | rfl <;> rfl
  refine ⟨fun p => ?_, fun terms duration => ⟨fits_iff_total duration.positive, fun result => ?_⟩⟩
  · rw [parse_eq_ok_iff, begins, read]
    simp only [isoSeconds_eq_ok_iff]
    constructor
    · rintro ⟨_, ⟨terms, duration, fits, rfl⟩, rfl⟩
      exact ⟨terms, duration, fits, seconds_ofSeconds ((fits_iff_total duration.positive).mp fits)⟩
    · rintro ⟨terms, duration, fits, same⟩
      exact ⟨p.seconds, ⟨terms, duration, fits, same⟩, ofSeconds_seconds p⟩
  · exact foldlM_addTo_eq_some_iff rfl (Nat.zero_le _)

/-- A duration with blanks around it, in which no unit has its usual place. -/
theorem parse_duration_of_mixed : ∃ p terms, parse " p2w010DtT5M7h\t" = .ok p ∧ p.seconds = 2099100 ∧
    Duration "2w010DtT5M7h".toList terms ∧ total terms = 2099100 ∧
    terms.foldlM Term.addTo 0 = some (2099100 : Int64) := by
  have begins : Text.trimBlank " p2w010DtT5M7h\t".toList = 'p' :: "2w010DtT5M7h".toList := by decide
  have accepted : parse " p2w010DtT5M7h\t" = .ok ⟨2099100, by decide⟩ := eq_ok_of_toOption (by decide +kernel)
  obtain ⟨reads, sums⟩ := parse_duration_iff (.inr rfl) begins
  obtain ⟨terms, duration, fits, same⟩ := (reads _).mp accepted
  refine ⟨_, terms, accepted, rfl, duration, same.symm, ((sums terms duration).2 _).mpr ⟨fits, ?_⟩⟩
  rw [← same]
  rfl

end Period

end AttributeStore
