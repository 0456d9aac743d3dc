/-! The fewest decimal digits that single out a finite double among all doubles. A double stands for the reals that
round to it; the search looks for the coarsest decimal grid with a point among them, and takes the grid point
nearest the double itself. All comparisons are exact, on natural numbers. -/
namespace AttributeStore.Decimal

/-- Which of two equally near decimals is taken. -/
inductive Tie
  | even
  | up
  deriving DecidableEq

/-- A magnitude `mantissa * 2 ^ power`. `narrow` holds where the double below is half as far away as the one
above. -/
structure Magnitude where
  mantissa : Nat
  power : Int
  narrow : Bool

/-- `digits * 10 ^ power`. -/
structure Digits where
  digits : Nat
  power : Int
  deriving DecidableEq, Repr

def Magnitude.ofBits (bits : UInt64) : Magnitude :=
  let exponent := ((bits >>> 52) &&& 0x7ff).toNat
  let fraction := (bits &&& 0xfffffffffffff).toNat
  if exponent = 0 then ⟨fraction, -1074, false⟩
  else ⟨0x10000000000000 + fraction, (exponent : Int) - 1075, fraction = 0 && exponent > 1⟩

/-- How `digits * 10 ^ power` compares with `n * 2 ^ exponent`. -/
def Digits.against (d : Digits) (n : Nat) (exponent : Int) : Ordering :=
  compare (d.digits * Nat.pow 10 d.power.toNat * Nat.pow 2 (-exponent).toNat)
    (n * Nat.pow 2 exponent.toNat * Nat.pow 10 (-d.power).toNat)

/-- The decimal rounds to the double: it lies between the midpoints to the neighbours, which themselves belong to
the double of even mantissa. -/
def Magnitude.holds (x : Magnitude) (d : Digits) : Bool :=
  let below := d.against (4 * x.mantissa - if x.narrow then 1 else 2) (x.power - 2)
  let above := d.against (4 * x.mantissa + 2) (x.power - 2)
  let even := x.mantissa % 2 == 0
  (below == .gt || (even && below == .eq)) && (above == .lt || (even && above == .eq))

/-- The largest whole number of `10 ^ power` units in the double. -/
def Magnitude.units (x : Magnitude) (power : Int) : Nat :=
  x.mantissa * Nat.pow 2 x.power.toNat * Nat.pow 10 (-power).toNat /
    (Nat.pow 2 (-x.power).toNat * Nat.pow 10 power.toNat)

/-- The exponent of the leading digit of a positive magnitude. -/
def Magnitude.leading (x : Magnitude) : Int :=
  ((Nat.toDigits 10 (x.units (-400))).length : Int) - 401

def Digits.strip (fuel : Nat) (d : Digits) : Digits :=
  match fuel with
  | 0 => d
  | fuel + 1 => if d.digits ≠ 0 && d.digits % 10 = 0 then strip fuel ⟨d.digits / 10, d.power + 1⟩ else d

/-- The point of the grid `10 ^ power` to write, if one of the double's two neighbours on it rounds to it. -/
def Magnitude.onGrid? (tie : Tie) (x : Magnitude) (power : Int) : Option Digits :=
  let low : Digits := ⟨x.units power, power⟩
  let high : Digits := ⟨low.digits + 1, power⟩
  match x.holds low, x.holds high with
  | true, true =>
    -- twice the double against the sum of the two neighbours
    match Digits.against ⟨low.digits + high.digits, power⟩ (2 * x.mantissa) x.power with
    | .lt => some high
    | .gt => some low
    | .eq => some (if tie = .up || low.digits % 2 = 1 then high else low)
  | true, false => some low
  | false, true => some high
  | false, false => none

/-- Seventeen digits always suffice; the exact value stands in for a search that finds none. -/
def Magnitude.shortest (tie : Tie) (x : Magnitude) : Digits :=
  if x.mantissa = 0 then ⟨0, 0⟩
  else
    let top := x.leading
    let found := (List.range 17).findSome? fun (n : Nat) => x.onGrid? tie (top - (n : Int))
    match found with
    | some d => d.strip 20
    | none => ⟨x.mantissa * Nat.pow 2 x.power.toNat * Nat.pow 5 (-x.power).toNat, if x.power < 0 then x.power else 0⟩

end AttributeStore.Decimal
