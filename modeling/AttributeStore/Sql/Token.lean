import AttributeStore.Text.Case

/-! The tokens of SQL texts and the places where they stand. -/
namespace AttributeStore.Sql

structure Position where
  line : Nat
  column : Nat
  deriving DecidableEq, Repr

inductive Token
  | word (text : String)
  /-- A name in quotes, which is never a keyword. -/
  | name (quote : Char) (text : String)
  /-- `long` marks a final `L`. -/
  | number (text : String) (long : Bool)
  /-- A text in single quotes, the quotes inside it no longer doubled. -/
  | text (payload : String)
  /-- Any other literal between two marks, such as `X'1f'` or `$$a$$`. -/
  | marked (opening payload closing : String)
  | placeholder (text : String)
  /-- Operators and punctuation; `!=` is `<>`. -/
  | symbol (text : String)
  | other (c : Char)
  | ended
  deriving DecidableEq

def Token.show : Token → String
  | .word s => s
  | .name quote s => quote.toString ++ s ++ quote.toString
  | .number s long => if long then s ++ "L" else s
  | .text s => "'" ++ s ++ "'"
  | .marked opening s closing => opening ++ s ++ closing
  | .placeholder s => s
  | .symbol s => s
  | .other c => c.toString
  | .ended => "EOF"

/-- A word in capitals, as keywords are compared; nothing else is a keyword. -/
def Token.keyword : Token → String
  | .word s => String.ofList (Text.upper s.toList)
  | _ => ""

/-- A token at its place; the end of the text has none. -/
structure Lexeme where
  token : Token
  position : Option Position

def Position.suffix (p : Option Position) : String :=
  match p with
  | some p => s!" at Line: {p.line}, Column: {p.column}"
  | none => ""

end AttributeStore.Sql
