/-! Time windows of attributes: a whole number of seconds, at least zero and at most what a signed 64-bit count of
milliseconds holds. -/
namespace AttributeStore

namespace Period

def perMinute : Nat := 60
def perHour : Nat := 3600
def perDay : Nat := 86400
def perWeek : Nat := 604800

/-- The longest period: the whole seconds in 2^63 - 1 milliseconds. -/
def maxSeconds : Nat := 9223372036854775

end Period

structure Period where
  seconds : Nat
  seconds_le : seconds ≤ Period.maxSeconds
  deriving DecidableEq

namespace Period

/-- The nearest period to a number of seconds. -/
def ofSeconds (n : Int) : Period := ⟨min n.toNat maxSeconds, Nat.min_le_right ..⟩

def days (n : Int) : Period := ofSeconds (n * perDay)
def weeks (n : Int) : Period := ofSeconds (n * perWeek)
def hours (n : Int) : Period := ofSeconds (n * perHour)

/-- The whole seconds of a number of milliseconds, cut toward zero. -/
def ofMilliseconds (n : Int) : Period := ofSeconds (n.tdiv 1000)

/-- Whole days; 36 hours are one day. -/
def numDays (p : Period) : Nat := p.seconds / perDay

/-- A count and its letter, nothing for zero. -/
def component (n : Nat) (letter : String) : String := if n > 0 then s!"{n}{letter}" else ""

/-- The ISO 8601 duration in days, hours, minutes and seconds. A whole number of days has no time part. -/
def iso (p : Period) : String :=
  let rest := p.seconds % perDay
  if rest = 0 then s!"P{p.numDays}D"
  else "P" ++ component p.numDays "D" ++ "T" ++ component (rest / perHour) "H" ++
    component (rest % perHour / perMinute) "M" ++ component (rest % perMinute) "S"

end Period

end AttributeStore
