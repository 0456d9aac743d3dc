import AttributeStore.Proofs.Json.Compact
import AttributeStore.Proofs.Period.Durations

/-! Periods in several spellings. A number of units may be given in words, as an ISO duration, in seconds, or by the
period of that many units; all of them mean the same period, and the longest one is where each of them draws its limit. -/
namespace AttributeStore

namespace Period

inductive TimeUnit
  | week
  | day
  | hour
  | minute
  | second

namespace TimeUnit

def seconds : TimeUnit → Nat
  | week => perWeek
  | day => perDay
  | hour => perHour
  | minute => perMinute
  | second => 1

def word : TimeUnit → String
  | week => "week"
  | day => "day"
  | hour => "hour"
  | minute => "minute"
  | second => "second"

/-- A name of the unit, of one or many of it and in letters of any case. -/
def IsNamed (u : TimeUnit) (name : String) : Prop :=
  Text.lowerAscii name.toList = u.word.toList ∨ Text.lowerAscii name.toList = u.word.toList ++ ['s']

/-- The ISO duration of a number of units. -/
def iso (u : TimeUnit) (n : Nat) : String :=
  match u with
  | week => s!"P{n}W"
  | day => s!"P{n}D"
  | hour => s!"PT{n}H"
  | minute => s!"PT{n}M"
  | second => s!"PT{n}S"

/-- The period of a number of units, for those units that have one. -/
def period? : TimeUnit → Option (Int → Period)
  | week => some weeks
  | day => some days
  | hour => some hours
  | minute => none
  | second => some ofSeconds

def inTime : TimeUnit → Bool
  | week | day => false
  | hour | minute | second => true

def letter : TimeUnit → Char
  | week => 'W'
  | day => 'D'
  | hour => 'H'
  | minute => 'M'
  | second => 'S'

theorem isUnit (u : TimeUnit) : IsUnit u.inTime u.letter u.seconds := by
  apply isUnit_of_letterScale
  cases u <;> rfl

theorem toList_iso (u : TimeUnit) (n : Nat) : (u.iso n).toList =
    'P' :: ((if u.inTime then ['T'] else []) ++ ((toString n).toList ++ [u.letter])) := by
  cases u <;> simp [iso, inTime, letter, toString, String.toList_append]

theorem wordScale_word (u : TimeUnit) : wordScale u.word.toList = .ok u.seconds := by
  cases u <;> rfl

/-- The letter of the plural is left out. -/
theorem IsNamed.trimmed {u : TimeUnit} {name : String} (named : u.IsNamed name) :
    Text.trimEnd (· = 's') (Text.lowerAscii name.toList) = u.word.toList := by
  rcases named with one | many
  · rw [one]
    cases u <;> decide
  · rw [many]
    cases u <;> decide

theorem IsNamed.unblank {u : TimeUnit} {name : String} (named : u.IsNamed name) :
    ∀ c ∈ name.toList, Text.isBlank c = false := by
  apply Text.isBlank_of_lowerAscii
  rcases named with one | many
  · rw [one]
    cases u <;> decide
  · rw [many]
    cases u <;> decide

theorem IsNamed.nonempty {u : TimeUnit} {name : String} (named : u.IsNamed name) : name.toList ≠ [] := by
  intro empty
  have trimmed := named.trimmed
  rw [empty] at trimmed
  cases u <;> cases trimmed

end TimeUnit

variable {u : TimeUnit} {name : String}

theorem wordSeconds_number (named : u.IsNamed name) (n : Nat) : wordSeconds (toString n).toList name.toList =
    if n ≤ maxAmount then within (n * u.seconds) else .error (.notWhole (toString n).toList) := by
  have least : Int64.minValue.toInt ≤ n := Int.le_trans (by decide) (Int.natCast_nonneg n)
  have held : Int64.minValue.toInt ≤ (n : Int) ∧ (n : Int) ≤ Int64.maxValue.toInt ↔ n ≤ maxAmount :=
    (and_iff_right least).trans Int.ofNat_le
  have unsigned : ¬(n : Int) < 0 := Int.not_lt.mpr (Int.natCast_nonneg n)
  rw [wordSeconds, Text.wholeNumber?_digits (Decimal.isDigits_toString n), Decimal.digitsValue_toString, named.trimmed,
    u.wordScale_word]
  simp only [held]
  split
  case isTrue => simp only [bind, Except.bind, if_neg unsigned, Int.toNat_natCast]
  case isFalse => rfl

theorem readSeconds_pair {c : Char} {rest amount unit : List Char} (digit : Text.isDigit c)
    (words : Text.words (c :: rest) = [amount, unit]) : readSeconds (c :: rest) = wordSeconds amount unit := by
  unfold readSeconds
  split
  case h_1 none => cases none
  case h_2 begins =>
    cases begins
    cases digit
  case h_3 begins =>
    cases begins
    cases digit
  case h_4 => rw [words]

/-- How a number of units is read in words. -/
theorem readSeconds_words (named : u.IsNamed name) (n : Nat) :
    readSeconds (Text.trimBlank s!"{n} {name}".toList) =
      if n ≤ maxAmount then within (n * u.seconds) else .error (.notWhole (toString n).toList) := by
  have number := Decimal.isDigits_toString n
  have visible : ∀ c ∈ (toString n).toList, Text.isBlank c = false := fun c member =>
    Text.isBlank_digit (number.digits c member)
  have text : s!"{n} {name}".toList = (toString n).toList ++ ' ' :: name.toList := by
    simp [toString, String.toList_append]
  have trimmed : Text.trimBlank s!"{n} {name}".toList = (toString n).toList ++ ' ' :: name.toList := by
    rw [text]
    apply Text.trimBlank_eq_self
    · intro c first
      rw [List.head?_append_of_ne_nil _ number.nonempty] at first
      exact visible c (List.mem_of_mem_head? first)
    · intro c last
      rw [List.getLast?_append_cons, List.getLast?_cons_of_ne_nil named.nonempty] at last
      exact named.unblank c (List.mem_of_mem_getLast? last)
  have words := Text.words_pair number.nonempty named.nonempty visible named.unblank
  rw [trimmed, ← wordSeconds_number named n]
  obtain ⟨c, digits, split⟩ := List.exists_cons_of_ne_nil number.nonempty
  rw [split, List.cons_append] at words ⊢
  exact readSeconds_pair (number.digits c (split ▸ List.mem_cons_self)) words

theorem TimeUnit.iso_unblank (u : TimeUnit) (n : Nat) : ∀ c ∈ (u.iso n).toList, Text.isBlank c = false := by
  have digits : ∀ c ∈ (toString n).toList, Text.isBlank c = false := fun c member =>
    Text.isBlank_digit ((Decimal.isDigits_toString n).digits c member)
  have marks : ∀ c ∈ 'P' :: (if u.inTime then ['T'] else []), Text.isBlank c = false := by cases u <;> decide
  have letter : Text.isBlank u.letter = false := by cases u <;> decide
  rw [u.toList_iso, ← List.cons_append, List.forall_mem_append, List.forall_mem_append, List.forall_mem_singleton]
  exact ⟨marks, digits, letter⟩

/-- How it is read as an ISO duration. -/
theorem readSeconds_designated (u : TimeUnit) (n : Nat) : readSeconds (Text.trimBlank (u.iso n).toList) =
    if n ≤ maxAmount then within (n * u.seconds) else .error (.missingNumber u.letter) := by
  have marked (rest : List Char) : isoSeconds 0 false [] ((if u.inTime then ['T'] else []) ++ rest) =
      isoSeconds 0 u.inTime [] rest := by
    cases u.inTime
    case false => rfl
    case true => exact isoSeconds_mark (by decide) rest
  have last : (within (n * u.seconds) >>= fun sum => isoSeconds sum u.inTime [] []) = within (n * u.seconds) := by
    unfold within
    split <;> rfl
  rw [Text.trimBlank_of_unblank (u.iso_unblank n), u.toList_iso, readSeconds, marked,
    isoSeconds_number u.isUnit (Decimal.isDigits_toString n), Decimal.digitsValue_toString, Nat.add_zero, last]

/-- The seconds of a period are read as that period, in a text and in memory. -/
theorem codec_seconds (p : Period) :
    codec.ofText (Json.int p.seconds).compact = .ok p ∧ codec.ofJson (.int p.seconds) = .ok p := by
  have legible : (Json.int p.seconds).Legible := by
    have small : p.seconds < UInt64.size := Nat.lt_of_le_of_lt p.seconds_le (by decide)
    exact ⟨Int.le_trans (by decide) (Int.natCast_nonneg _), Int.ofNat_lt.mpr small⟩
  have decoded (source : Json.Source) : codec.decode source (.int p.seconds) = .ok p :=
    congrArg Except.ok (ofSeconds_seconds p)
  refine ⟨?_, decoded .memory⟩
  rw [Json.Codec.ofText, Json.read_compact legible]
  dsimp only
  rw [Json.readingAt, decoded .text]
  rfl

theorem exists_parse_error {s : String} {reason : Reason}
    (refused : readSeconds (Text.trimBlank s.toList) = .error reason) : ∃ e, parse s = .error e := by
  rw [parse, refused]
  exact ⟨_, rfl⟩

theorem ofSeconds_long {n : Nat} (long : maxSeconds < n) : (ofSeconds n).seconds = maxSeconds :=
  Nat.min_eq_right (Nat.le_of_lt long)

theorem TimeUnit.period_eq {u : TimeUnit} {period : Int → Period} (known : u.period? = some period) (n : Nat) :
    period n = ofSeconds (n * u.seconds : Nat) := by
  cases u <;> cases known
  case second => rw [seconds, Nat.mul_one]
  all_goals rfl

/-- However a number of units is spelled, it is the same period, or it is none because it is too long; the periods of
so many units end there, too. -/
theorem spellings_agree (u : TimeUnit) (n : Nat) {name : String} (named : u.IsNamed name) :
    (n * u.seconds ≤ maxSeconds ∧ ∃ p : Period, p.seconds = n * u.seconds ∧
      parse s!"{n} {name}" = .ok p ∧ parse (u.iso n) = .ok p ∧ (∀ period ∈ u.period?, period n = p) ∧
      codec.ofText (Json.int p.seconds).compact = .ok p ∧ codec.ofJson (.int p.seconds) = .ok p) ∨
    (maxSeconds < n * u.seconds ∧ (∃ e, parse s!"{n} {name}" = .error e) ∧ (∃ e, parse (u.iso n) = .error e) ∧
      (n ≤ maxAmount → ∀ period ∈ u.period?, (period n).seconds = maxSeconds)) := by
  have words := readSeconds_words named n
  have designated := readSeconds_designated u n
  by_cases short : n * u.seconds ≤ maxSeconds
  case pos =>
    left
    have small : n ≤ maxAmount := by
      have more := Nat.le_mul_of_pos_right n u.isUnit.positive
      have room : maxSeconds ≤ maxAmount := by decide
      omega
    rw [if_pos small, within, if_pos short] at words designated
    have seconds := seconds_ofSeconds short
    refine ⟨short, ofSeconds (n * u.seconds : Nat), seconds, ?_, ?_, ?_, codec_seconds _⟩
    · exact parse_eq_ok_iff.mpr ⟨_, words, rfl⟩
    · exact parse_eq_ok_iff.mpr ⟨_, designated, rfl⟩
    · exact fun period known => TimeUnit.period_eq known n
  case neg =>
    right
    have long := Nat.lt_of_not_le short
    rw [within, if_neg short] at words designated
    refine ⟨long, ?_, ?_, fun _ period known => by rw [TimeUnit.period_eq known, ofSeconds_long long]⟩
    · split at words <;> exact exists_parse_error words
    · split at designated <;> exact exists_parse_error designated

/-- A day and a half in hours, and more weeks than 63 bits can count. -/
theorem spellings_agree_on_hours : (∃ p : Period, p.seconds = 129600 ∧ parse "36 HoUrS" = .ok p ∧
      parse "PT36H" = .ok p ∧ hours 36 = p ∧ codec.ofText "129600" = .ok p) ∧
    (∃ e, parse "9223372036854775808 week" = .error e) ∧ ∃ e, parse "P9223372036854775808W" = .error e := by
  have hoursNamed : TimeUnit.hour.IsNamed "HoUrS" := .inr (by decide)
  have weeksNamed : TimeUnit.week.IsNamed "week" := .inl (by decide)
  refine ⟨?_, ?_⟩
  · rcases spellings_agree .hour 36 hoursNamed with ⟨-, p, seconds, words, designated, same, text, -⟩ | ⟨long, -⟩
    · rw [seconds] at text
      exact ⟨p, seconds, words, designated, same _ rfl, text⟩
    · exact absurd long (by decide)
  · rcases spellings_agree .week 9223372036854775808 weeksNamed with ⟨short, -⟩ | ⟨-, words, designated, -⟩
    · exact absurd short (by decide)
    · exact ⟨words, designated⟩

end Period

end AttributeStore
