import AttributeStore.Sql.Fault
import AttributeStore.Text.Alphabetic
import AttributeStore.Text.Blank

/-! SQL texts cut into tokens, without regard to any one database. A text in single quotes ends at the first quote
that is not doubled, and a backslash in it means itself. -/
namespace AttributeStore.Sql

namespace Lexer

def startsName (c : Char) : Bool := Text.isAlphabetic c || c = '_' || c = '#' || c = '@'

def continuesName (c : Char) : Bool :=
  Text.isAlphabetic c || Text.isDigit c || c = '@' || c = '$' || c = '#' || c = '_'

/-- The characters up to the closing quote and what follows it; a doubled quote stands for one. -/
def quoted (q : Char) : List Char → Option (List Char × List Char)
  | [] => none
  | c :: d :: rest =>
    if c = q then
      if d = q then (quoted q rest).map fun (a, r) => (q :: a, r) else some ([], d :: rest)
    else (quoted q (d :: rest)).map fun (a, r) => (c :: a, r)
  | [c] => if c = q then some ([], []) else none

/-- The characters up to three quotes in a row. -/
def tripleQuoted (q : Char) : List Char → Option (List Char × List Char)
  | [] => none
  | c :: rest =>
    match c :: rest with
    | a :: b :: d :: rest' => if a = q ∧ b = q ∧ d = q then some ([], rest')
      else (tripleQuoted q rest).map fun (s, r) => (c :: s, r)
    | _ => none

/-- The characters up to the closing quote where a backslash escapes the next character. -/
def escapedQuoted : List Char → Option (List Char × List Char)
  | [] => none
  | '\\' :: c :: rest =>
    let d := match c with
      | 'b' => Char.ofNat 8
      | 'f' => Char.ofNat 12
      | 'n' => '\n'
      | 'r' => '\r'
      | 't' => '\t'
      | c => c
    (escapedQuoted rest).map fun (a, r) => (d :: a, r)
  | '\'' :: '\'' :: rest => (escapedQuoted rest).map fun (a, r) => ('\'' :: a, r)
  | '\'' :: rest => some ([], rest)
  | c :: rest => (escapedQuoted rest).map fun (a, r) => (c :: a, r)

/-- What follows a comment that has been opened `depth` times. -/
def afterComment (depth : Nat) : List Char → Option (List Char)
  | [] => none
  | '/' :: '*' :: rest => afterComment (depth + 1) rest
  | '*' :: '/' :: rest => if depth ≤ 1 then some rest else afterComment (depth - 1) rest
  | _ :: rest => afterComment depth rest

/-- What stands before `mark`, and what follows it. -/
def upTo (mark : List Char) : List Char → Option (List Char × List Char)
  | [] => none
  | c :: rest =>
    if mark.isPrefixOf (c :: rest) then some ([], (c :: rest).drop mark.length)
    else (upTo mark rest).map fun (a, r) => (c :: a, r)

/-- The place behind some characters. -/
def advance (p : Position) : List Char → Position
  | [] => p
  | c :: rest => advance (if c = '\n' then ⟨p.line + 1, 1⟩ else ⟨p.line, p.column + 1⟩) rest

/-- One step of the lexer: a token or nothing to keep, and the characters left. -/
inductive Cut
  | token (t : Token) (rest : List Char)
  | blank (rest : List Char)
  /-- The reason, and how many characters on it is reported. -/
  | fault (reason : String) (offset : Nat)

def restOfName (start : List Char) (rest : List Char) : Cut :=
  .token (.word (String.ofList (start ++ rest.takeWhile continuesName))) (rest.dropWhile continuesName)

/-- A quoted literal after its opening mark, of which the quote is the last character. -/
def literal (opening : String) (q : Char) (rest : List Char) : Cut :=
  match quoted q rest with
  | some (payload, rest) => .token (.marked opening (String.ofList payload) q.toString) rest
  | none => .fault "Unterminated string literal" (opening.length - 1)

/-- A raw literal: one quote, or three, on either side. -/
def rawLiteral (mark : Char) (q : Char) (rest : List Char) : Cut :=
  match rest with
  | a :: b :: rest' =>
    if a = q then
      if b = q then
        match tripleQuoted q rest' with
        | some (payload, rest) =>
          let quotes := String.ofList [q, q, q]
          .token (.marked (mark.toString ++ quotes) (String.ofList payload) quotes) rest
        | none => .fault "Unterminated string literal" 1
      else .token (.marked (String.ofList [mark, q]) "" q.toString) (b :: rest')
    else literal (String.ofList [mark, q]) q rest
  | rest => literal (String.ofList [mark, q]) q rest

/-- The exponent of a number, if a digit makes it one. -/
def exponent (s : List Char) : List Char × List Char :=
  match s with
  | e :: rest =>
    if e = 'e' ∨ e = 'E' then
      let (sign, digits) := match rest with
        | '+' :: more => (['+'], more)
        | '-' :: more => (['-'], more)
        | more => ([], more)
      if digits.head?.any Text.isDigit then
        (e :: sign ++ digits.takeWhile Text.isDigit, digits.dropWhile Text.isDigit)
      else ([], s)
    else ([], s)
  | [] => ([], [])

/-- A number or a period. A period before an underscore joins two names. -/
def number (afterWord : Bool) (s : List Char) : Cut :=
  match s with
  | '.' :: '_' :: rest =>
    if afterWord then .token (.symbol ".") ('_' :: rest) else .fault "Unexpected character '_'" 0
  | s =>
    let whole := s.takeWhile Text.isDigit
    let rest := s.dropWhile Text.isDigit
    match whole, rest with
    | ['0'], 'x' :: rest =>
      let hex (c : Char) : Bool := Text.isDigit c || ('a' ≤ c && c ≤ 'f') || ('A' ≤ c && c ≤ 'F')
      .token (.marked "X'" (String.ofList (rest.takeWhile hex)) "'") (rest.dropWhile hex)
    | whole, rest =>
      let (point, rest) := match rest with
        | '.' :: rest => (['.'], rest)
        | rest => ([], rest)
      let fraction := rest.takeWhile Text.isDigit
      let rest := rest.dropWhile Text.isDigit
      let written := whole ++ point ++ fraction
      if written = ['.'] then .token (.symbol ".") rest
      else
        let (power, rest) := exponent rest
        let (long, rest) := match rest with
          | 'L' :: rest => (true, rest)
          | rest => (false, rest)
        .token (.number (String.ofList (written ++ power)) long) rest

/-- Operators and punctuation, the longest first. -/
def symbols : List (String × String) := [
  ("!~~*", "!~~*"), ("!~~", "!~~"), ("!~*", "!~*"), ("!~", "!~"), ("!=", "<>"), ("!!", "!!"), ("!", "!"),
  ("->>", "->>"), ("->", "->"), ("-", "-"), ("//", "//"), ("/", "/"), ("+", "+"), ("*", "*"), ("%", "%"),
  ("||/", "||/"), ("||", "||"), ("|/", "|/"), ("|", "|"), ("=>", "=>"), ("==", "=="), ("=", "="),
  ("<=>", "<=>"), ("<=", "<="), ("<>", "<>"), ("<<", "<<"), ("<@", "<@"), ("<", "<"),
  (">=", ">="), (">>", ">>"), (">", ">"), ("::", "::"), (":=", ":="), (":", ":"), (";", ";"), ("\\", "\\"),
  ("[", "["), ("]", "]"), ("&&", "&&"), ("&", "&"), ("^@", "^@"), ("^", "^"), ("\x7b", "\x7b"), ("\x7d", "\x7d"),
  ("~~*", "~~*"), ("~~", "~~"), ("~*", "~*"), ("~", "~"), ("(", "("), (")", ")"), (",", ",")]

def symbol? (s : List Char) : Option (String × List Char) :=
  symbols.findSome? fun (written, shown) =>
    if written.toList.isPrefixOf s then some (shown, s.drop written.length) else none

/-- A dollar opens a literal that ends with the same mark, or names a placeholder. -/
def dollar (rest : List Char) : Cut :=
  let nameChar (c : Char) : Bool := Text.isAlphabetic c || Text.isDigit c || c = '_'
  let tag := rest.takeWhile nameChar
  match rest.dropWhile nameChar with
  | '$' :: body =>
    let mark := '$' :: tag ++ ['$']
    match upTo mark body with
    | some (payload, rest) =>
      .token (.marked (String.ofList mark) (String.ofList payload) (String.ofList mark)) rest
    | none =>
      .fault (if tag.isEmpty then "Unterminated dollar-quoted string" else "Unterminated dollar-quoted, expected $")
        (mark.length + body.length)
  | rest => .token (.placeholder ("$" ++ String.ofList tag)) rest

/-- A name that starts with one of the marks `#` and `@`. -/
def markedName (start : List Char) (alone : String) (s : List Char) : Cut :=
  match s with
  | c :: rest => restOfName (start ++ [c]) rest
  | [] => .token (.symbol alone) []

def cut (afterWord : Bool) (c : Char) (rest : List Char) : Cut :=
  match c, rest with
  | ' ', _ | '\t', _ | '\n', _ | '\r', _ => .blank rest
  | '\'', _ =>
    match quoted '\'' rest with
    | some (payload, rest) => .token (.text (String.ofList payload)) rest
    | none => .fault "Unterminated string literal" 0
  | 'b', '\'' :: s | 'B', '\'' :: s => literal "B'" '\'' s
  | 'b', '"' :: s | 'B', '"' :: s => literal "B\"" '"' s
  | 'r', '\'' :: s | 'R', '\'' :: s => rawLiteral 'R' '\'' s
  | 'r', '"' :: s | 'R', '"' :: s => rawLiteral 'R' '"' s
  | 'n', '\'' :: s | 'N', '\'' :: s => literal "N'" '\'' s
  | 'x', '\'' :: s | 'X', '\'' :: s => literal "X'" '\'' s
  | 'e', '\'' :: s | 'E', '\'' :: s =>
    match escapedQuoted s with
    | some (payload, rest) => .token (.marked "E'" (String.ofList payload) "'") rest
    | none => .fault "Unterminated encoded string literal" 0
  | 'u', '&' :: '\'' :: s | 'U', '&' :: '\'' :: s =>
    match quoted '\'' s with
    | some (payload, rest) => .token (.marked "U&'" (String.ofList payload) "'") rest
    | none => .fault "Unterminated unicode encoded string literal" (s.length + 3)
  | '"', _ | '\x60', _ =>
    match quoted c rest with
    | some (payload, rest) => .token (.name c (String.ofList payload)) rest
    | none => .fault ("Expected close delimiter '" ++ c.toString ++ "' before EOF.") 0
  | '-', '-' :: s => .blank (s.dropWhile (· ≠ '\n'))
  | '/', '*' :: s =>
    match afterComment 1 s with
    | some rest => .blank rest
    | none => .fault "Unexpected EOF while in a multi-line comment" (s.length + 2)
  | '#', '-' :: s => .token (.symbol "#-") s
  | '#', '>' :: '>' :: s => .token (.symbol "#>>") s
  | '#', '>' :: s => .token (.symbol "#>") s
  | '#', ' ' :: _ => .token (.symbol "#") rest
  | '#', s => markedName ['#'] "#" s
  | '@', '>' :: s => .token (.symbol "@>") s
  | '@', '?' :: s => .token (.symbol "@?") s
  | '@', '@' :: ' ' :: s => .token (.symbol "@@") (' ' :: s)
  | '@', '@' :: s => markedName ['@', '@'] "@@" s
  | '@', ' ' :: _ | '@', '\'' :: _ | '@', '"' :: _ | '@', '\x60' :: _ => .token (.symbol "@") rest
  | '@', s => markedName ['@'] "@" s
  | '?', s => .token (.placeholder ("?" ++ String.ofList (s.takeWhile Text.isDigit))) (s.dropWhile Text.isDigit)
  | '$', s => dollar s
  | c, rest =>
    if Text.isDigit c || c = '.' then number afterWord (c :: rest)
    else if startsName c then restOfName [c] rest
    else match symbol? (c :: rest) with
      | some (shown, rest) => .token (.symbol shown) rest
      | none => if Text.isBlank c then .blank rest else .token (.other c) rest

/-- The tokens from a place on. Every step takes at least one character, so that the length of the text bounds the
number of steps. -/
def lexFrom (fuel : Nat) (p : Position) (afterWord : Bool) (s : List Char) : Except Fault (List Lexeme) :=
  match fuel, s with
  | _, [] => .ok []
  | 0, _ => .ok []
  | fuel + 1, c :: rest =>
    let move (left : List Char) : Position := advance p (s.take (s.length - left.length))
    match cut afterWord c rest with
    | .token t left => do
      let isWord := match t with
        | .word _ | .name _ _ => true
        | _ => false
      let more ← lexFrom fuel (move left) isWord left
      return ⟨t, some p⟩ :: more
    | .blank left => lexFrom fuel (move left) false left
    | .fault reason offset => .error (.malformed reason (some (advance p (s.take offset))))

end Lexer

/-- The tokens of a text without its blanks and comments. -/
def lex (s : String) : Except Fault (List Lexeme) := Lexer.lexFrom s.length ⟨1, 1⟩ false s.toList

end AttributeStore.Sql
