import AttributeStore.Text.Blank

/-! Strings as they are written into TOML: in the plainest of five forms that needs no escapes, or escaped. -/
namespace AttributeStore.Toml

inductive Form
  | string
  | literal
  | block
  | literalBlock

/-- Two digits of a number below 256. -/
def hexPair (n : Nat) : List Char :=
  let digit (n : Nat) : Char := if n < 10 then Char.ofNat (48 + n) else Char.ofNat (55 + n)
  [digit (n / 16), digit (n % 16)]

/-- Control characters other than the tab and the line feed. -/
def isControl (c : Char) : Bool :=
  (c.toNat < 0x20 && c ≠ '\t' && c ≠ '\n') || c.toNat = 0x7f

/-- The longest run of a character. -/
def longestRun (c : Char) (s : List Char) : Nat :=
  (s.foldl (fun (most, run) d => if d = c then (max most (run + 1), run + 1) else (most, 0)) (0, 0)).1

/-- A string is preferred to a literal one, one line to many, and any form to escapes. -/
def formOf (s : List Char) : Form :=
  let controls := s.any isControl
  let backslash := s.contains '\\'
  let lineFeed := s.contains '\n'
  let quotes := longestRun '"' s
  let apostrophes := longestRun '\'' s
  if !controls && !backslash && !lineFeed && quotes = 0 then .string
  else if !controls && !lineFeed && apostrophes = 0 then .literal
  else if !controls && !backslash && quotes ≤ 2 then .block
  else if !controls && apostrophes ≤ 2 then .literalBlock
  else if lineFeed then .block
  else .string

/-- A character in a string; in a block, line feeds and two quotes in a row stand as they are. `quotes` counts those
right before it. -/
def escapeFrom (inBlock : Bool) : Nat → List Char → List Char
  | _, [] => []
  | quotes, '"' :: rest =>
    if inBlock && quotes < 2 then '"' :: escapeFrom inBlock (quotes + 1) rest
    else '\\' :: '"' :: escapeFrom inBlock 0 rest
  | _, '\\' :: rest => '\\' :: '\\' :: escapeFrom inBlock 0 rest
  | _, '\x08' :: rest => '\\' :: 'b' :: escapeFrom inBlock 0 rest
  | _, '\t' :: rest => '\\' :: 't' :: escapeFrom inBlock 0 rest
  | _, '\n' :: rest =>
    if inBlock then '\n' :: escapeFrom inBlock 0 rest else '\\' :: 'n' :: escapeFrom inBlock 0 rest
  | _, '\x0c' :: rest => '\\' :: 'f' :: escapeFrom inBlock 0 rest
  | _, '\r' :: rest => '\\' :: 'r' :: escapeFrom inBlock 0 rest
  | _, c :: rest =>
    if isControl c then ['\\', 'u', '0', '0'] ++ hexPair c.toNat ++ escapeFrom inBlock 0 rest
    else c :: escapeFrom inBlock 0 rest

/-- A block with a line feed starts on a line of its own. -/
def quote (s : String) : String :=
  let chars := s.toList
  let start := if chars.contains '\n' then "\n" else ""
  match formOf chars with
  | .string => "\"" ++ String.ofList (escapeFrom false 0 chars) ++ "\""
  | .literal => "'" ++ s ++ "'"
  | .block => "\"\"\"" ++ start ++ String.ofList (escapeFrom true 0 chars) ++ "\"\"\""
  | .literalBlock => "'''" ++ start ++ s ++ "'''"

end AttributeStore.Toml
