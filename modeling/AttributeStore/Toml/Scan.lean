import AttributeStore.Decimal.Numeral

/-! The smallest pieces of a TOML text: strings, keys, numbers and moments. Lines end with a line feed alone here. -/
namespace AttributeStore.Toml

def isSpace (c : Char) : Bool := c = ' ' || c = '\t'

/-- What may stand in a comment or a string as it is. -/
def isPlain (c : Char) : Bool := c = '\t' || (c.toNat ≥ 0x20 && c.toNat ≠ 0x7f)

def hexValue? (c : Char) : Option Nat :=
  if Text.isDigit c then some (Text.digitValue c)
  else if 'a' ≤ c && c ≤ 'f' then some (c.toNat - 87)
  else if 'A' ≤ c && c ≤ 'F' then some (c.toNat - 55)
  else none

/-- The character whose number is written; surrogates are none. -/
def charOf? (digits : List Char) : Option Char := do
  let n ← digits.foldlM (fun n c => (hexValue? c).map (16 * n + ·)) 0
  if h : n.isValidChar then some (Char.ofNatAux n h) else none

def escapeOf? : Char → Option Char
  | 'b' => some '\x08'
  | 't' => some '\t'
  | 'n' => some '\n'
  | 'f' => some '\x0c'
  | 'r' => some '\r'
  | '"' => some '"'
  | '\\' => some '\\'
  | _ => none

/-- One character behind a backslash, and what follows it. -/
def escape? : List Char → Option (Char × List Char)
  | 'u' :: a :: b :: c :: d :: rest => (charOf? [a, b, c, d]).map (·, rest)
  | 'U' :: a :: b :: c :: d :: e :: f :: g :: h :: rest => (charOf? [a, b, c, d, e, f, g, h]).map (·, rest)
  | c :: rest => (escapeOf? c).map (·, rest)
  | [] => none

theorem escape?_length {s rest : List Char} {c : Char} (h : escape? s = some (c, rest)) :
    rest.length < s.length := by
  unfold escape? at h
  split at h <;> simp at h <;> obtain ⟨_, _, _, rfl⟩ := h <;> simp <;> omega

/-- A string behind its opening quote, and what follows it. -/
def string? (s : List Char) : Option (List Char × List Char) :=
  match s with
  | [] => none
  | '"' :: rest => some ([], rest)
  | '\\' :: more =>
    match _h : escape? more with
    | none => none
    | some (c, rest) => (string? rest).map fun (chars, rest) => (c :: chars, rest)
  | c :: rest => if isPlain c then (string? rest).map fun (chars, rest) => (c :: chars, rest) else none
termination_by s.length
decreasing_by
  · have := escape?_length _h; simp; omega
  · simp

/-- A string without escapes, behind its opening quote. -/
def literal? : List Char → Option (List Char × List Char)
  | [] => none
  | '\'' :: rest => some ([], rest)
  | c :: rest => if isPlain c then (literal? rest).map fun (chars, rest) => (c :: chars, rest) else none

/-- A string over lines, behind its three opening quotes. Up to two quotes may stand before the closing three, and a
backslash at the end of a line takes back the line feed and all blanks after it. -/
def block? (s : List Char) : Option (List Char × List Char) :=
  match s with
  | [] => none
  | '"' :: '"' :: '"' :: '"' :: '"' :: rest => some (['"', '"'], rest)
  | '"' :: '"' :: '"' :: '"' :: rest => some (['"'], rest)
  | '"' :: '"' :: '"' :: rest => some ([], rest)
  | '\\' :: more =>
    match more.dropWhile isSpace with
    | '\n' :: _ => block? (more.dropWhile fun c => isSpace c || c = '\n')
    | _ =>
      match _h : escape? more with
      | none => none
      | some (c, rest) => (block? rest).map fun (chars, rest) => (c :: chars, rest)
  | c :: rest =>
    if isPlain c || c = '\n' then (block? rest).map fun (chars, rest) => (c :: chars, rest) else none
termination_by s.length
decreasing_by
  · have := (List.dropWhile_suffix (l := more) fun c => isSpace c || c = '\n').length_le
    simp; omega
  · have := escape?_length _h; simp; omega
  · simp

/-- The same without escapes. -/
def literalBlock? : List Char → Option (List Char × List Char)
  | [] => none
  | '\'' :: '\'' :: '\'' :: '\'' :: '\'' :: rest => some (['\'', '\''], rest)
  | '\'' :: '\'' :: '\'' :: '\'' :: rest => some (['\''], rest)
  | '\'' :: '\'' :: '\'' :: rest => some ([], rest)
  | c :: rest =>
    if isPlain c || c = '\n' then (literalBlock? rest).map fun (chars, rest) => (c :: chars, rest) else none

/-- A line feed right behind the opening quotes does not count. -/
def dropFirstLineFeed : List Char → List Char
  | '\n' :: rest => rest
  | rest => rest

/-- A string of any kind. -/
def anyString? : List Char → Option (String × List Char)
  | '"' :: '"' :: '"' :: rest => (block? (dropFirstLineFeed rest)).map fun (s, rest) => (String.ofList s, rest)
  | '\'' :: '\'' :: '\'' :: rest =>
    (literalBlock? (dropFirstLineFeed rest)).map fun (s, rest) => (String.ofList s, rest)
  | '"' :: rest => (string? rest).map fun (s, rest) => (String.ofList s, rest)
  | '\'' :: rest => (literal? rest).map fun (s, rest) => (String.ofList s, rest)
  | _ => none

def isBare (c : Char) : Bool := Text.isLetter c || Text.isDigit c || c = '_' || c = '-'

/-- One part of a key. -/
def keyPart? : List Char → Option (String × List Char)
  | '"' :: rest => (string? rest).map fun (s, rest) => (String.ofList s, rest)
  | '\'' :: rest => (literal? rest).map fun (s, rest) => (String.ofList s, rest)
  | s =>
    if (s.takeWhile isBare).isEmpty then none
    else some (String.ofList (s.takeWhile isBare), s.dropWhile isBare)

/-- A run of digits, where single underscores may stand between two digits. -/
def digits? (isDigit : Char → Bool) (s : List Char) : Option (List Char) :=
  let groups := Text.splitAt '_' s
  if groups.all fun g => !g.isEmpty && g.all isDigit then some groups.flatten else none

/-- A run of decimal digits that does not start with a zero, unless it is one. -/
def decimal? (s : List Char) : Option (List Char) := do
  let digits ← digits? Text.isDigit s
  if digits.length > 1 && digits.head? = some '0' then none else some digits

def withoutSign : List Char → Bool × List Char
  | '-' :: rest => (true, rest)
  | '+' :: rest => (false, rest)
  | s => (false, s)

/-- A number in another base. -/
def based? (base : Nat) (s : List Char) : Option Int := do
  let digits ← digits? (fun c => (hexValue? c).any (· < base)) s
  return digits.foldl (fun n c => base * n + (hexValue? c).getD 0) 0

/-- A whole number of 64 bits. -/
def integer? (s : List Char) : Option Int := do
  let n ← match s with
    | '0' :: 'x' :: digits => based? 16 digits
    | '0' :: 'o' :: digits => based? 8 digits
    | '0' :: 'b' :: digits => based? 2 digits
    | s =>
      let (negative, s) := withoutSign s
      (decimal? s).map fun digits =>
        let n : Int := Text.digitsValue digits
        if negative then -n else n
  if Int64.minValue.toInt ≤ n ∧ n ≤ Int64.maxValue.toInt then some n else none

/-- The power of ten of a number, if it is written. -/
def power? (s : List Char) : Option (List Char × Option Int) :=
  match Text.splitFirst 'e' (s.map fun c => if c = 'E' then 'e' else c) with
  | none => some (s, none)
  | some (head, power) => do
    let (negative, power) := withoutSign power
    let digits ← digits? Text.isDigit power
    let n : Int := Text.digitsValue digits
    return (head, some (if negative then -n else n))

/-- A number with a point or a power. One above all doubles is none. -/
def isFloat (s : List Char) : Bool :=
  let (negative, s) := withoutSign s
  if s = ['i', 'n', 'f'] || s = ['n', 'a', 'n'] then true
  else
    let numeral : Option Decimal.Numeral := do
      let (head, power) ← power? s
      let (whole, fraction) ← match Text.splitFirst '.' head with
        | none => some (head, none)
        | some (whole, fraction) => (digits? Text.isDigit fraction).map fun digits => (whole, some digits)
      let whole ← decimal? whole
      if fraction.isNone && power.isNone then none
      return ⟨negative, whole, fraction, power⟩
    numeral.any fun n => negative || n.float?.isSome

/-- Two digits of a bounded number. -/
def isPair (low high : Nat) (a b : Char) : Bool :=
  Text.isDigit a && Text.isDigit b && low ≤ Text.digitsValue [a, b] && Text.digitsValue [a, b] ≤ high

def daysOf (year month : Nat) : Nat :=
  if month = 2 then if (year % 4 = 0 && year % 100 ≠ 0) || year % 400 = 0 then 29 else 28
  else if month = 4 || month = 6 || month = 9 || month = 11 then 30 else 31

/-- What follows a date. -/
def afterDate? : List Char → Option (List Char)
  | y :: e :: a :: r :: '-' :: m :: o :: '-' :: d :: t :: rest =>
    let year := [y, e, a, r]
    if year.all Text.isDigit && isPair 1 12 m o &&
        isPair 1 (daysOf (Text.digitsValue year) (Text.digitsValue [m, o])) d t then some rest
    else none
  | _ => none

/-- What follows a time of day. -/
def afterTime? : List Char → Option (List Char)
  | h :: o :: ':' :: m :: i :: ':' :: s :: e :: rest =>
    if isPair 0 23 h o && isPair 0 59 m i && isPair 0 60 s e then
      match rest with
      | '.' :: rest => if (rest.takeWhile Text.isDigit).isEmpty then none else some (rest.dropWhile Text.isDigit)
      | rest => some rest
    else none
  | _ => none

def isOffset : List Char → Bool
  | [] => true
  | [c] => c = 'Z' || c = 'z'
  | [sign, h, o, ':', m, i] => (sign = '+' || sign = '-') && isPair 0 23 h o && isPair 0 59 m i
  | _ => false

/-- A date, a time of day, or both, with the distance from the prime meridian's time if it is known. -/
def isMoment (s : List Char) : Bool :=
  match afterDate? s with
  | some [] => true
  | some (c :: time) => (c = 'T' || c = 't' || c = ' ') && (afterTime? time).any isOffset
  | none => (afterTime? s).any List.isEmpty

end AttributeStore.Toml
