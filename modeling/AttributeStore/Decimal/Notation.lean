import AttributeStore.Decimal.Shortest

/-! How the digits of a double are laid out. A notation says which exponents are written with a point alone and
whether a whole number keeps its `.0`; the sign, zero included, is always written. -/
namespace AttributeStore.Decimal

structure Notation where
  /-- Exponents of the leading digit that need no power of ten. -/
  positional : Int → Bool
  pointZero : Bool
  tie : Tie

/-- JSON numbers keep a mark of being no integer: a point or a power of ten. -/
def jsonNotation : Notation := ⟨fun e => -6 < e && e < 16, true, .even⟩

/-- Names and SQL literals never hold a power of ten, and a whole number has no point. -/
def plainNotation : Notation := ⟨fun _ => true, false, .up⟩

def zeros (n : Nat) : String := String.ofList (List.replicate n '0')

/-- The digits with their point and no power of ten. -/
def positionalText (pointZero : Bool) (d : Digits) : String :=
  let text := toString d.digits
  if d.power ≥ 0 then text ++ zeros d.power.toNat ++ (if pointZero then ".0" else "")
  else
    let places := (-d.power).toNat
    if places < text.length then
      String.ofList (text.toList.take (text.length - places)) ++ "." ++
        String.ofList (text.toList.drop (text.length - places))
    else "0." ++ zeros (places - text.length) ++ text

/-- One digit, the rest of the digits after a point, and a signed power of ten. -/
def scientificText (d : Digits) : String :=
  let text := toString d.digits
  let exponent := d.power + (text.length : Int) - 1
  let tail := text.toList.drop 1
  String.ofList (text.toList.take 1) ++ (if tail.isEmpty then "" else "." ++ String.ofList tail) ++
    (if exponent < 0 then "e-" else "e+") ++ toString exponent.natAbs

def Notation.magnitude (style : Notation) (x : Magnitude) : String :=
  let d := x.shortest style.tie
  let exponent := d.power + ((toString d.digits).length : Int) - 1
  if style.positional exponent then positionalText style.pointZero d else scientificText d

/-- The text of a double; the caller has dealt with what is not finite. -/
def Notation.render (style : Notation) (x : Float) : String :=
  let bits := x.toBits
  (if bits >>> 63 = 1 then "-" else "") ++ style.magnitude (.ofBits bits)

/-- The plain text of any double. -/
def plain (x : Float) : String :=
  if x.isNaN then "NaN"
  else if x.isInf then (if x < 0 then "-inf" else "inf")
  else plainNotation.render x

/-- A double as a JSON number; what is not finite has none and becomes `null`. -/
def json (x : Float) : String :=
  if x.isFinite then jsonNotation.render x else "null"

/-- The whole part of a double, held inside `low` and `high`; what is no number counts as zero. -/
def truncate (low high : Int) (x : Float) : Int :=
  if x.isNaN then 0
  else if x.isInf then (if x < 0 then low else high)
  else
    let m := Magnitude.ofBits x.toBits
    let whole : Int := m.mantissa * Nat.pow 2 m.power.toNat / Nat.pow 2 (-m.power).toNat
    min high (max low (if x < 0 then -whole else whole))

end AttributeStore.Decimal
