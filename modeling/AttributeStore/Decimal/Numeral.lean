import AttributeStore.Text.Blank

/-! The value of a written number. A number without point and power is an integer if it fits 64 bits; any other is
a double made from the digits that fit a 64-bit significand and one power of ten, taken in a single step where the
range of doubles allows it. -/
namespace AttributeStore.Decimal

/-- A number as written: its digit runs, and its power of ten if it has one. -/
structure Numeral where
  negative : Bool
  whole : List Char
  fraction : Option (List Char)
  power : Option Int

inductive Number
  | int (n : Int)
  | float (x : Float)

/-- Digits are taken while the significand fits; the first that does not fit ends the run, and the count of digits
left out is returned with it. -/
def takeDigits : Nat → List Char → Nat × Nat
  | significand, [] => (significand, 0)
  | significand, c :: rest =>
    let next := 10 * significand + Text.digitValue c
    if next < UInt64.size then takeDigits next rest else (significand, rest.length + 1)

def tenTo (n : Nat) : Float := Float.ofScientific 1 false n

/-- `x * 10 ^ power`; no answer above the largest double. -/
def scale (x : Float) (power : Int) : Option Float :=
  if power ≥ 0 then
    if power ≤ 308 then
      let y := x * tenTo power.toNat
      if y.isInf then none else some y
    else if x == 0 then some x else none
  else if power ≥ -308 then some (x / tenTo (-power).toNat)
  else if x == 0 then some x
  else scale (x / tenTo 308) (power + 308)
termination_by (-power).toNat
decreasing_by omega

def Numeral.float? (n : Numeral) : Option Float :=
  let (head, left) := takeDigits 0 n.whole
  let (significand, unused) := takeDigits head (n.fraction.getD [])
  let places : Int := ((n.fraction.getD []).length : Int) - unused
  let power := (left : Int) - places + n.power.getD 0
  (scale significand.toUInt64.toFloat power).map fun x => if n.negative then -x else x

/-- No value if the number is larger than any double. A negative zero is a double, whatever its form. -/
def Numeral.value? (n : Numeral) : Option Number :=
  let digits := Text.digitsValue n.whole
  if n.fraction.isSome || n.power.isSome then n.float?.map .float
  else if n.negative then
    if digits ≠ 0 && Int64.minValue.toInt ≤ -(digits : Int) then some (.int (-(digits : Int))) else n.float?.map .float
  else if digits < UInt64.size then some (.int digits)
  else n.float?.map .float

end AttributeStore.Decimal
