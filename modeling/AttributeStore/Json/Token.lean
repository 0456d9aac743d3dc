import AttributeStore.Json.Value
import AttributeStore.Decimal.Numeral

/-! JSON texts cut into tokens, one pass over the characters with the unfinished token as state. The pass goes on to
the first place where the text stops being JSON and leaves a mark there. -/
namespace AttributeStore.Json

/-- How a text fails to be JSON: a character that cannot stand where it stands, or an end that comes too early. -/
inductive Stop
  | malformed
  | ended
  deriving DecidableEq, Repr

inductive Token
  | openArr
  | closeArr
  | openObj
  | closeObj
  | comma
  | colon
  | word (value : Json)
  | number (n : Decimal.Numeral)
  | text (s : String)
  /-- A string whose escapes name no character. -/
  | badText
  | stop (why : Stop)

/-- The token being read. Digits and characters are kept reversed. -/
inductive Partial
  | between
  | word (left : List Char) (value : Json)
  | sign
  | whole (negative : Bool) (digits : List Char)
  | point (negative : Bool) (whole : List Char)
  | fraction (negative : Bool) (whole digits : List Char)
  /-- After `e`, and after its sign. -/
  | mark (negative : Bool) (whole : List Char) (fraction : Option (List Char))
  | markSign (negative : Bool) (whole : List Char) (fraction : Option (List Char)) (down : Bool)
  | power (negative : Bool) (whole : List Char) (fraction : Option (List Char)) (down : Bool) (digits : List Char)
  | text (chars : List Char) (bad : Bool)
  | escape (chars : List Char) (bad : Bool)
  /-- Inside `\u`: the digits so far, and the first half of a surrogate pair if one waits for its second. -/
  | hex (chars : List Char) (bad : Bool) (half : Option Nat) (digits : List Nat)
  /-- After the first half of a pair: a backslash must come, then a `u`. -/
  | half (chars : List Char) (bad : Bool) (high : Nat)
  | halfEscape (chars : List Char) (bad : Bool) (high : Nat)
  | stopped

def hexValue? (c : Char) : Option Nat :=
  if Text.isDigit c then some (Text.digitValue c)
  else if 'a' ≤ c && c ≤ 'f' then some (c.toNat - 87)
  else if 'A' ≤ c && c ≤ 'F' then some (c.toNat - 55)
  else none

def isSpace (c : Char) : Bool := c = ' ' || c = '\n' || c = '\t' || c = '\r'

/-- A character where a new token starts. -/
def begin (c : Char) : List Token × Partial :=
  if isSpace c then ([], .between)
  else match c with
    | '[' => ([.openArr], .between)
    | ']' => ([.closeArr], .between)
    | ',' => ([.comma], .between)
    | ':' => ([.colon], .between)
    | '"' => ([], .text [] false)
    | '-' => ([], .sign)
    | 't' => ([], .word ['r', 'u', 'e'] (.bool true))
    | 'f' => ([], .word ['a', 'l', 's', 'e'] (.bool false))
    | 'n' => ([], .word ['u', 'l', 'l'] .null)
    | c =>
      if c.toNat = 0x7b then ([.openObj], .between)
      else if c.toNat = 0x7d then ([.closeObj], .between)
      else if Text.isDigit c then ([], .whole false [c])
      else ([.stop .malformed], .stopped)

def fail : List Token × Partial := ([.stop .malformed], .stopped)

/-- A finished number, then the character after it. -/
def after (n : Decimal.Numeral) (c : Char) : List Token × Partial :=
  let (more, state) := begin c
  (.number n :: more, state)

def powerOf (down : Bool) (digits : List Char) : Int :=
  let n : Int := Text.digitsValue digits.reverse
  if down then -n else n

/-- Four hexadecimal digits have been read. -/
def unit (chars : List Char) (bad : Bool) (half : Option Nat) (code : Nat) : Partial :=
  match half with
  | some high =>
    if 0xdc00 ≤ code && code < 0xe000 then
      .text (Char.ofNat (0x10000 + (high - 0xd800) * 0x400 + (code - 0xdc00)) :: chars) bad
    else .text chars true
  | none =>
    if 0xd800 ≤ code && code < 0xdc00 then .half chars bad code
    else if 0xdc00 ≤ code && code < 0xe000 then .text chars true
    else .text (Char.ofNat code :: chars) bad

def escaped? (c : Char) : Option Char :=
  match c with
  | '"' => some '"'
  | '\\' => some '\\'
  | '/' => some '/'
  | 'b' => some (Char.ofNat 8)
  | 'f' => some (Char.ofNat 12)
  | 'n' => some '\n'
  | 'r' => some '\r'
  | 't' => some '\t'
  | _ => none

def exponentMark (c : Char) : Bool := c = 'e' || c = 'E'

def textSize (s : List Char) : Nat := s.foldl (fun n c => n + c.utf8Size) 0

def step (state : Partial) (c : Char) (rest : List Char) : List Token × Partial :=
  match state with
  | .between => begin c
  | .word [] value =>
    let (more, state) := begin c
    (.word value :: more, state)
  | .word (d :: left) value =>
    if c = d then (if left.isEmpty then ([.word value], .between) else ([], .word left value)) else fail
  | .sign => if Text.isDigit c then ([], .whole true [c]) else fail
  | .whole negative digits =>
    if Text.isDigit c then
      if digits = ['0'] then fail else ([], .whole negative (c :: digits))
    else if c = '.' then ([], .point negative digits.reverse)
    else if exponentMark c then ([], .mark negative digits.reverse none)
    else after ⟨negative, digits.reverse, none, none⟩ c
  | .point negative whole => if Text.isDigit c then ([], .fraction negative whole [c]) else fail
  | .fraction negative whole digits =>
    if Text.isDigit c then ([], .fraction negative whole (c :: digits))
    else if exponentMark c then ([], .mark negative whole (some digits.reverse))
    else after ⟨negative, whole, some digits.reverse, none⟩ c
  | .mark negative whole fraction =>
    if c = '+' then ([], .markSign negative whole fraction false)
    else if c = '-' then ([], .markSign negative whole fraction true)
    else if Text.isDigit c then ([], .power negative whole fraction false [c])
    else fail
  | .markSign negative whole fraction down =>
    if Text.isDigit c then ([], .power negative whole fraction down [c]) else fail
  | .power negative whole fraction down digits =>
    if Text.isDigit c then ([], .power negative whole fraction down (c :: digits))
    else after ⟨negative, whole, fraction, some (powerOf down digits)⟩ c
  | .text chars bad =>
    if c = '"' then ([if bad then .badText else .text (String.ofList chars.reverse)], .between)
    else if c = '\\' then ([], .escape chars bad)
    else if c.toNat < 32 then fail
    else ([], .text (c :: chars) bad)
  | .escape chars bad =>
    if c = 'u' then
      -- a code cut off by the end of the text is an early end, whatever stands in it
      if textSize rest < 4 then ([.stop .ended], .stopped) else ([], .hex chars bad none [])
    else match escaped? c with
      | some d => ([], .text (d :: chars) bad)
      | none => fail
  | .hex chars bad half digits =>
    match hexValue? c with
    | none => fail
    | some d =>
      match digits with
      | [a, b, e] => ([], unit chars bad half (((a * 16 + b) * 16 + e) * 16 + d))
      | digits => ([], .hex chars bad half (digits ++ [d]))
  | .half chars bad high =>
    if c = '\\' then ([], .halfEscape chars bad high)
    else if c = '"' then ([.badText], .between)
    else if c.toNat < 32 then fail
    else ([], .text chars true)
  | .halfEscape chars bad high =>
    if c = 'u' then
      if textSize rest < 4 then ([.stop .ended], .stopped) else ([], .hex chars bad (some high) [])
    else match escaped? c with
      | some d => ([], .text (d :: chars) true)
      | none => fail
  | .stopped => ([], .stopped)

/-- The end of the text. -/
def finish : Partial → List Token
  | .between => []
  | .word [] value => [.word value]
  | .whole negative digits => [.number ⟨negative, digits.reverse, none, none⟩]
  | .fraction negative whole digits => [.number ⟨negative, whole, some digits.reverse, none⟩]
  | .power negative whole fraction down digits =>
    [.number ⟨negative, whole, fraction, some (powerOf down digits)⟩]
  | .stopped => []
  | _ => [.stop .ended]

def scanFrom (state : Partial) : List Char → List Token
  | [] => finish state
  | c :: rest =>
    let (tokens, state) := step state c rest
    tokens ++ scanFrom state rest

def scan (s : List Char) : List Token := scanFrom .between s

end AttributeStore.Json
