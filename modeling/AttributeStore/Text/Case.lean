import AttributeStore.Text.CaseTable

/-! Case classes and case maps of characters. The maps look at one character at a time; a character may become
several, and one outside the tables is its own image. -/
namespace AttributeStore.Text

def inRuns (runs : List CaseRun) (c : Char) : Bool := runs.any (·.covers c.toNat)

def isUppercase (c : Char) : Bool :=
  if c.toNat < 128 then 'A' ≤ c && c ≤ 'Z' else inRuns uppercaseRuns c

def isLowercase (c : Char) : Bool :=
  if c.toNat < 128 then 'a' ≤ c && c ≤ 'z' else inRuns lowercaseRuns c

def shifted (runs : List CaseRun) (c : Char) : Char :=
  match runs.find? (·.covers c.toNat) with
  | some run => Char.ofNat (c.toNat + run.shift).toNat
  | none => c

/-- Only the dotted capital I has a lowercase form of two characters. -/
def lowerChar (c : Char) : List Char :=
  if c.toNat < 128 then [if 'A' ≤ c && c ≤ 'Z' then Char.ofNat (c.toNat + 32) else c]
  else if c.toNat = 0x130 then ['i', Char.ofNat 0x307]
  else [shifted toLowerRuns c]

def upperChar (c : Char) : List Char :=
  if c.toNat < 128 then [if 'a' ≤ c && c ≤ 'z' then Char.ofNat (c.toNat - 32) else c]
  else match toUpperWords.lookup c.toNat with
    | some codes => codes.map Char.ofNat
    | none => [shifted toUpperRuns c]

def lower (s : List Char) : List Char := s.flatMap lowerChar

def upper (s : List Char) : List Char := s.flatMap upperChar

/-- Lowers ASCII letters and keeps all else. -/
def lowerAscii (s : List Char) : List Char :=
  s.map fun c => if 'A' ≤ c && c ≤ 'Z' then Char.ofNat (c.toNat + 32) else c

end AttributeStore.Text
