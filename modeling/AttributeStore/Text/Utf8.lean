/-! Bytes read as UTF-8. Bytes that write no character are read as the replacement character: one for each longest
run that begins a character and breaks off, and one for every other byte. -/
namespace AttributeStore.Text

/-- A character that has begun: its bits so far, the number of bytes owed, and the range of the next one. -/
structure Begun where
  bits : Nat
  owed : Nat
  low : Nat
  high : Nat

/-- The character that a first byte begins. Ranges leave out surrogates, too long forms and what lies above the last
character. -/
def Begun.ofByte? (b : Nat) : Option Begun :=
  if 0xc2 ≤ b ∧ b ≤ 0xdf then some ⟨b - 0xc0, 1, 0x80, 0xbf⟩
  else if b = 0xe0 then some ⟨0, 2, 0xa0, 0xbf⟩
  else if b = 0xed then some ⟨0xd, 2, 0x80, 0x9f⟩
  else if 0xe1 ≤ b ∧ b ≤ 0xef then some ⟨b - 0xe0, 2, 0x80, 0xbf⟩
  else if b = 0xf0 then some ⟨0, 3, 0x90, 0xbf⟩
  else if b = 0xf4 then some ⟨4, 3, 0x80, 0x8f⟩
  else if 0xf1 ≤ b ∧ b ≤ 0xf3 then some ⟨b - 0xf0, 3, 0x80, 0xbf⟩
  else none

def replacement : Char := '\uFFFD'

/-- A byte between two characters. -/
def firstByte (b : Nat) : List Char × Option Begun :=
  if b < 0x80 then ([Char.ofNat b], none)
  else match Begun.ofByte? b with
    | some c => ([], some c)
    | none => ([replacement], none)

/-- The character goes on, is complete, or broke off before this byte. -/
def Begun.nextByte (c : Begun) (b : Nat) : List Char × Option Begun :=
  if c.low ≤ b ∧ b ≤ c.high then
    let bits := 64 * c.bits + (b - 0x80)
    if c.owed = 1 then ([Char.ofNat bits], none) else ([], some ⟨bits, c.owed - 1, 0x80, 0xbf⟩)
  else
    let (chars, state) := firstByte b
    (replacement :: chars, state)

def takeByte (state : Option Begun) (b : UInt8) : List Char × Option Begun :=
  match state with
  | none => firstByte b.toNat
  | some c => c.nextByte b.toNat

def fromUtf8At : Option Begun → List UInt8 → List Char
  | none, [] => []
  | some _, [] => [replacement]
  | state, b :: rest => (takeByte state b).1 ++ fromUtf8At (takeByte state b).2 rest

/-- The characters that bytes write. -/
def fromUtf8 (bytes : List UInt8) : List Char := fromUtf8At none bytes

/-- The bytes that write characters. -/
def toUtf8 (chars : List Char) : List UInt8 := chars.flatMap String.utf8EncodeChar

end AttributeStore.Text
