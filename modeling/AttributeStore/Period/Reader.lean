import AttributeStore.Period.Basic
import AttributeStore.Text.Case
import AttributeStore.Text.Blank
import AttributeStore.Json.Codec

/-! Periods as they are written: ISO 8601 durations of weeks, days, hours, minutes and seconds (`P7D`, `PT12H`), and a
number with a unit (`7 days`, `12 hours`). -/
namespace AttributeStore.Period

inductive Reason
  | empty
  | numberWithoutUnit
  | missingNumber (unit : Char)
  | calendarUnit
  | unknownUnit (unit : List Char)
  | tooLarge
  | notTwoWords
  | notWhole (amount : List Char)
  | negative
  deriving DecidableEq

def Reason.message : Reason → String
  | .empty => "empty period"
  | .numberWithoutUnit => "number without unit"
  | .missingNumber unit => s!"missing number before '{unit}'"
  | .calendarUnit => "calendar years and months are not supported"
  | .unknownUnit unit => "unknown unit '" ++ String.ofList unit ++ "'"
  | .tooLarge => "period is too large"
  | .notTwoWords => "expected '<number> <unit>'"
  | .notWhole amount => "'" ++ String.ofList amount ++ "' is not a whole number"
  | .negative => "period cannot be negative"

/-- A text that is no period, without the blanks around it, and why. -/
structure ParseError where
  input : List Char
  reason : Reason

def ParseError.message (e : ParseError) : String :=
  "invalid period '" ++ String.ofList e.input ++ "': " ++ e.reason.message

/-- Numbers of more than 63 bits count as missing. -/
def maxAmount : Nat := Int64.maxValue.toInt.toNat

def within (seconds : Nat) : Except Reason Nat :=
  if seconds ≤ maxSeconds then .ok seconds else .error .tooLarge

/-- Seconds of a unit, before and after the `T`. -/
def isoScale (inTime : Bool) (unit : Char) : Except Reason Nat :=
  match inTime, unit.toUpper with
  | false, 'W' => .ok perWeek
  | false, 'D' => .ok perDay
  | true, 'H' => .ok perHour
  | true, 'M' => .ok perMinute
  | true, 'S' => .ok 1
  | false, 'Y' => .error .calendarUnit
  | false, 'M' => .error .calendarUnit
  | _, _ => .error (.unknownUnit [unit])

/-- A run of digits before a unit. -/
def isoAmount (unit : Char) (digits : List Char) : Except Reason Nat :=
  if digits.isEmpty then .error (.missingNumber unit)
  else
    let n := Text.digitsValue digits
    if n ≤ maxAmount then .ok n else .error (.missingNumber unit)

/-- What stands after the `P`: `seconds` is the sum so far, `digits` the number being read. -/
def isoSeconds (seconds : Nat) (inTime : Bool) (digits : List Char) : List Char → Except Reason Nat
  | [] => if digits.isEmpty then .ok seconds else .error .numberWithoutUnit
  | c :: rest =>
    if Text.isDigit c then isoSeconds seconds inTime (digits ++ [c]) rest
    else if c = 'T' || c = 't' then
      if digits.isEmpty then isoSeconds seconds true [] rest else .error .numberWithoutUnit
    else do
      let n ← isoAmount c digits
      let scale ← isoScale inTime c
      let sum ← within (n * scale + seconds)
      isoSeconds sum inTime [] rest

def wordScale (unit : List Char) : Except Reason Nat :=
  match String.ofList unit with
  | "week" => .ok perWeek
  | "day" => .ok perDay
  | "hour" => .ok perHour
  | "minute" => .ok perMinute
  | "second" => .ok 1
  | _ => .error (.unknownUnit unit)

/-- Any number of final letters `s` may follow a unit, and its letters may have either case. -/
def wordSeconds (amount unit : List Char) : Except Reason Nat := do
  let n ← match Text.wholeNumber? amount with
    | some n => if Int64.minValue.toInt ≤ n ∧ n ≤ Int64.maxValue.toInt then .ok n else .error (.notWhole amount)
    | none => .error (.notWhole amount)
  if n < 0 then .error .negative
  else
    let scale ← wordScale (Text.trimEnd (· = 's') (Text.lowerAscii unit))
    within (n.toNat * scale)

def readSeconds (trimmed : List Char) : Except Reason Nat :=
  match trimmed with
  | [] => .error .empty
  | 'P' :: rest => isoSeconds 0 false [] rest
  | 'p' :: rest => isoSeconds 0 false [] rest
  | s =>
    match Text.words s with
    | [amount, unit] => wordSeconds amount unit
    | _ => .error .notTwoWords

/-- Reads a period with any blanks around it; an empty text is reported with its blanks. -/
def parse (s : String) : Except ParseError Period :=
  let trimmed := Text.trimBlank s.toList
  match readSeconds trimmed with
  | .ok n => .ok (ofSeconds n)
  | .error reason => .error ⟨if trimmed.isEmpty then s.toList else trimmed, reason⟩

/-- Written as an ISO duration; read from a text or from a number of seconds, which is cut to a period. -/
def codec : Json.Codec Period where
  encode p := .str p.iso
  decode _
    | .str s => (parse s).mapError fun e => .refused e.message
    | .int n => .ok (ofSeconds n)
    | .float x => .ok (ofSeconds (Decimal.truncate Int64.minValue.toInt Int64.maxValue.toInt x))
    | r => Json.mismatch "an ISO-8601 duration, a '<number> <unit>' string or a number of seconds" r

end AttributeStore.Period
