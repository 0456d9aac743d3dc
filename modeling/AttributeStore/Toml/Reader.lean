import AttributeStore.Toml.Scan
import AttributeStore.Toml.Value

/-! TOML texts read into tables. `fuel` bounds the pieces of a text by its characters. -/
namespace AttributeStore.Toml

/-- The least depth of lists, of tables in braces, and of dotted keys that is refused. -/
def maxDepth : Nat := 80

def skipSpace (s : List Char) : List Char := s.dropWhile isSpace

/-- The rest of a line that holds nothing more but a comment. -/
def lineEnd (s : List Char) : Except Fault (List Char) :=
  let s := skipSpace s
  let s := match s with
    | '#' :: comment => comment.dropWhile isPlain
    | s => s
  match s with
  | [] => .ok []
  | '\n' :: rest => .ok rest
  | _ => .error .malformed

/-- Blanks, line feeds and comments. -/
def skipLines : Nat → List Char → List Char
  | 0, s => s
  | fuel + 1, s =>
    match skipSpace s with
    | '\n' :: rest => skipLines fuel rest
    | '#' :: comment => skipLines fuel (comment.dropWhile isPlain)
    | s => s

/-- A dotted key, with blanks around its parts. -/
def key : Nat → List Char → Except Fault (List String × List Char)
  | 0, _ => .error .malformed
  | fuel + 1, s =>
    match keyPart? (skipSpace s) with
    | none => .error .malformed
    | some (part, rest) =>
      match skipSpace rest with
      | '.' :: rest => (key fuel rest).map fun (parts, rest) => (part :: parts, rest)
      | rest => .ok ([part], rest)

/-- The table's part of a key, its last part, and what follows it. -/
def splitKey (fuel : Nat) (s : List Char) : Except Fault (List String × String × List Char) := do
  let (parts, rest) ← key fuel s
  if parts.length ≥ maxDepth then .error .malformed
  match parts.getLast? with
  | some last => return (parts.dropLast, last, rest)
  | none => .error .malformed

/-- Characters of numbers, moments and words. -/
def isWordChar (c : Char) : Bool := isBare c || c = '+' || c = '.' || c = ':'

/-- A value without quotes or brackets. A blank may stand between a date and a time. -/
def word (s : List Char) : Except Fault (Value × List Char) :=
  let head := s.takeWhile isWordChar
  let rest := s.dropWhile isWordChar
  let text := String.ofList head
  match afterDate? head, rest with
  | some [], ' ' :: more =>
    let time := more.takeWhile isWordChar
    if (time.head?).any Text.isDigit then
      if isMoment (head ++ ' ' :: time) then
        .ok (.moment (text ++ " " ++ String.ofList time), more.dropWhile isWordChar)
      else .error .malformed
    else .ok (.moment text, rest)
  | _, _ =>
    if text = "true" then .ok (.bool true, rest)
    else if text = "false" then .ok (.bool false, rest)
    else if isMoment head then .ok (.moment text, rest)
    else match integer? head with
      | some n => .ok (.int n, rest)
      | none => if isFloat head then .ok (.float text, rest) else .error .malformed

mutual

def value : Nat → Nat → List Char → Except Fault (Value × List Char)
  | 0, _, _ => .error .malformed
  | fuel + 1, depth, s =>
    match s with
    | '[' :: rest =>
      if depth + 1 ≥ maxDepth then .error .malformed
      else (items fuel (depth + 1) rest).map fun (items, rest) => (.arr items, rest)
    | c :: rest =>
      if c.toNat = 0x7b then
        if depth + 1 ≥ maxDepth then .error .malformed
        else match skipSpace rest with
          | [] => .error .malformed
          | c :: more =>
            if c.toNat = 0x7d then .ok (.table .inline [], more)
            else (pairs fuel (depth + 1) (.inline, []) rest).map fun ((_, entries), rest) =>
              (.table .inline entries, rest)
      else if c = '"' || c = '\'' then
        match anyString? s with
        | some (text, rest) => .ok (.str text, rest)
        | none => .error .malformed
      else word s
    | [] => .error .malformed

/-- The items of a list, behind its bracket or behind a comma. -/
def items : Nat → Nat → List Char → Except Fault (List Value × List Char)
  | 0, _, _ => .error .malformed
  | fuel + 1, depth, s =>
    match skipLines s.length s with
    | ']' :: rest => .ok ([], rest)
    | s => do
      let (v, rest) ← value fuel depth s
      match skipLines rest.length rest with
      | ',' :: rest =>
        let (more, rest) ← items fuel depth rest
        return (v :: more, rest)
      | ']' :: rest => return ([v], rest)
      | _ => .error .malformed

/-- The entries of a table in braces; it ends on its line, and no comma stands before its end. -/
def pairs : Nat → Nat → Table → List Char → Except Fault (Table × List Char)
  | 0, _, _, _ => .error .malformed
  | fuel + 1, depth, t, s => do
    let (path, last, rest) ← splitKey s.length s
    match rest with
    | '=' :: rest =>
      let (v, rest) ← value fuel depth (skipSpace rest)
      let t ← addEntry path last v t
      match skipSpace rest with
      | [] => .error .malformed
      | c :: rest =>
        if c = ',' then pairs fuel depth t rest
        else if c.toNat = 0x7d then return (t, rest)
        else .error .malformed
    | _ => .error .malformed

end

/-- The header of a table, behind its first bracket. -/
def header (root : Table) (s : List Char) : Except Fault (List String × Table × List Char) := do
  match s with
  | '[' :: s =>
    let (path, last, rest) ← splitKey s.length s
    match rest with
    | ']' :: ']' :: rest =>
      let root ← addToTables path last root
      return (path ++ [last], root, ← lineEnd rest)
    | _ => .error .malformed
  | s =>
    let (path, last, rest) ← splitKey s.length s
    match rest with
    | ']' :: rest =>
      let root ← addTable path last root
      return (path ++ [last], root, ← lineEnd rest)
    | _ => .error .malformed

/-- An entry of the table at `current`. -/
def entry (current : List String) (root : Table) (s : List Char) : Except Fault (Table × List Char) := do
  let (path, last, rest) ← splitKey s.length s
  match rest with
  | '=' :: rest =>
    let (v, rest) ← value rest.length 0 (skipSpace rest)
    let root ← change .above (addEntry path last v) current root
    return (root, ← lineEnd rest)
  | _ => .error .malformed

/-- The lines of a text, below the header of the table at `current`. -/
def lines : Nat → List String → Table → List Char → Except Fault Table
  | 0, _, root, s => if s.isEmpty then .ok root else .error .malformed
  | fuel + 1, current, root, s =>
    match skipSpace s with
    | [] => .ok root
    | '\n' :: rest => lines fuel current root rest
    | '#' :: rest => do
      let rest ← lineEnd ('#' :: rest)
      lines fuel current root rest
    | '[' :: rest => do
      let (current, root, rest) ← header root rest
      lines fuel current root rest
    | s => do
      let (root, rest) ← entry current root s
      lines fuel current root rest

/-- Line ends of two characters as one. -/
def joinLineEnds : List Char → List Char
  | '\r' :: '\n' :: rest => '\n' :: joinLineEnds rest
  | c :: rest => c :: joinLineEnds rest
  | [] => []

/-- The entries of a text's outermost table. A byte order mark may stand before them. -/
def parse (s : String) : Except Fault (List (String × Value)) := do
  let chars := match joinLineEnds s.toList with
    | '\uFEFF' :: rest => rest
    | chars => chars
  let (_, entries) ← lines (chars.length + 1) [] (.header, []) chars
  return entries

end AttributeStore.Toml
