/-! Blank characters and the cuts made at them. Lists of characters are cut, not slices, so that every statement
about a cut is one about lists. -/
namespace AttributeStore.Text

/-- The characters with the Unicode property White_Space. -/
def isBlank (c : Char) : Bool :=
  let n := c.toNat
  (0x9 ≤ n && n ≤ 0xd) || n == 0x20 || n == 0x85 || n == 0xa0 || n == 0x1680 ||
    (0x2000 ≤ n && n ≤ 0x200a) || n == 0x2028 || n == 0x2029 || n == 0x202f || n == 0x205f || n == 0x3000

def trimEnd (p : Char → Bool) (s : List Char) : List Char :=
  (s.reverse.dropWhile p).reverse

def trimBlank (s : List Char) : List Char :=
  trimEnd isBlank (s.dropWhile isBlank)

/-- The non-empty pieces between characters of the class `p`; `word` is the piece being read, reversed. -/
def pieces (p : Char → Bool) : List Char → List Char → List (List Char)
  | [], word => if word.isEmpty then [] else [word.reverse]
  | c :: rest, word =>
    if p c then
      if word.isEmpty then pieces p rest [] else word.reverse :: pieces p rest []
    else pieces p rest (c :: word)

/-- The words of a text: its longest runs without a blank. -/
def words (s : List Char) : List (List Char) := pieces isBlank s []

/-- All pieces between occurrences of `sep`, empty ones included. -/
def splitAt (sep : Char) : List Char → List (List Char)
  | [] => [[]]
  | c :: rest =>
    match splitAt sep rest with
    | [] => [[]]
    | piece :: more => if c = sep then [] :: piece :: more else (c :: piece) :: more

/-- What stands before and after the first `sep`. -/
def splitFirst (sep : Char) : List Char → Option (List Char × List Char)
  | [] => none
  | c :: rest =>
    if c = sep then some ([], rest) else (splitFirst sep rest).map fun (a, b) => (c :: a, b)

/-- What stands after the last `sep`. -/
def afterLast (sep : Char) : List Char → Option (List Char)
  | [] => none
  | c :: rest => (afterLast sep rest).or (if c = sep then some rest else none)

def isDigit (c : Char) : Bool := '0' ≤ c && c ≤ '9'

def isLetter (c : Char) : Bool := ('a' ≤ c && c ≤ 'z') || ('A' ≤ c && c ≤ 'Z')

def digitValue (c : Char) : Nat := c.toNat - 48

/-- The number that a run of ASCII digits writes. -/
def digitsValue (digits : List Char) : Nat :=
  digits.foldl (fun n c => 10 * n + digitValue c) 0

/-- A whole number with an optional sign, as the decimal text of a number of any size. -/
def wholeNumber? (s : List Char) : Option Int :=
  let read (digits : List Char) : Option Nat :=
    if digits.isEmpty || !digits.all isDigit then none else some (digitsValue digits)
  match s with
  | '-' :: digits => (read digits).map fun n => -(n : Int)
  | '+' :: digits => (read digits).map fun n => (n : Int)
  | digits => (read digits).map fun n => (n : Int)

end AttributeStore.Text
