import AttributeStore.Sql.Token

/-! Why a text is no SQL expression. -/
namespace AttributeStore.Sql

inductive Fault
  | expected (what : String) (found : Lexeme)
  /-- A text that cannot be cut into tokens, or an operator that joins nothing. -/
  | malformed (reason : String) (position : Option Position)
  | tooDeep
  /-- An expression with something behind it. -/
  | trailing (token : Token)

def Fault.message : Fault → String
  | .expected what found =>
    s!"sql parser error: Expected: {what}, found: {found.token.show}{Position.suffix found.position}"
  | .malformed reason position => s!"sql parser error: {reason}{Position.suffix position}"
  | .tooDeep => "sql parser error: recursion limit exceeded"
  | .trailing token => "unexpected trailing token " ++ token.show

end AttributeStore.Sql
