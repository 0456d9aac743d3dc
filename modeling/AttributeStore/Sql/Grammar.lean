import AttributeStore.Sql.Expr
import AttributeStore.Sql.Lexer

/-! The grammar of SQL expressions, read by precedence. Words with a meaning of their own fall back to plain names
where that meaning does not fit, except for four that never do. Fifty expressions may stand inside each other. -/
namespace AttributeStore.Sql

namespace Grammar

/-- Reading moves along the tokens. -/
abbrev Reader := StateT (List Lexeme) (Except Fault)

namespace Reader

def endOfText : Lexeme := ⟨.ended, none⟩

def peek : Reader Lexeme := do
  return (← get).headD endOfText

/-- The token `n` places on. -/
def peekAt (n : Nat) : Reader Token := do
  return ((← get)[n]?.getD endOfText).token

def next : Reader Lexeme := do
  let lexeme ← peek
  modify (·.drop 1)
  return lexeme

def refuse (what : String) (found : Lexeme) : Reader α := throw (.expected what found)

/-- Reads on, or stays where it was if that fails. Depth is the one failure that nothing hides. -/
def attempt (p : Reader α) : Reader (Option α) := fun s =>
  match p s with
  | .ok (a, rest) => .ok (some a, rest)
  | .error .tooDeep => .error .tooDeep
  | .error _ => .ok (none, s)

def sawSymbol (s : String) : Reader Bool := do
  if (← peek).token = .symbol s then
    modify (·.drop 1)
    return true
  else return false

def expectSymbol (s : String) : Reader Unit := do
  let lexeme ← next
  if lexeme.token = .symbol s then return () else refuse s lexeme

/-- All of some keywords, or none. -/
def sawKeywords (words : List String) : Reader Bool := do
  let ahead := ((← get).take words.length).map (·.token.keyword)
  if ahead = words then
    modify (·.drop words.length)
    return true
  else return false

def sawKeyword (w : String) : Reader Bool := sawKeywords [w]

/-- One of some keywords. -/
def oneKeyword (words : List String) : Reader (Option String) := do
  let w := (← peek).token.keyword
  if words.contains w then
    modify (·.drop 1)
    return some w
  else return none

def expectKeyword (w : String) : Reader Unit := do
  if ← sawKeyword w then return () else refuse w (← peek)

def expectKeywords (words : List String) : Reader Unit := words.forM expectKeyword

end Reader

open Reader

/-- Words with a meaning in some place; all others may be read as texts behind a type. -/
def knownWords : List String := [
  "ALL", "AND", "ANY", "ARRAY", "AS", "ASC", "AT", "BETWEEN", "BOTH", "BY", "CASE", "CAST", "CEIL", "COLLATE", "COLUMN",
  "COMMENT", "CONVERT", "COUNT", "CROSS", "CURRENT", "CURRENT_CATALOG", "CURRENT_DATE", "CURRENT_TIME",
  "CURRENT_TIMESTAMP", "CURRENT_USER", "DATA", "DATABASE", "DATE", "DATETIME", "DAY", "DAYS", "DESC", "DISTINCT", "DIV",
  "DOUBLE", "DROP", "ELSE", "END", "ENUM", "ESCAPE", "EVENT", "EXCEPT", "EXISTS", "EXTRACT", "FALSE", "FETCH", "FILE",
  "FILTER", "FIRST", "FLOAT", "FLOOR", "FOR", "FORMAT", "FROM", "FULL", "FUNCTION", "GROUP", "HAVING", "HOUR", "HOURS",
  "ID", "IF", "ILIKE", "IN", "INDEX", "INNER", "INT", "INTEGER", "INTERSECT", "INTERVAL", "INTO", "IS", "JOIN", "JSON",
  "KEY", "LANGUAGE", "LAST", "LATERAL", "LEADING", "LEFT", "LEVEL", "LIKE", "LIMIT", "LOCAL", "LOCALTIME",
  "LOCALTIMESTAMP", "LOCATION", "MAP", "MATCH", "MAX", "MIN", "MINUTE", "MINUTES", "MONTH", "MONTHS", "NAME", "NATURAL",
  "NOT", "NULL", "NULLS", "NUMERIC", "OF", "OFFSET", "ON", "ONLY", "OPERATOR", "OPTION", "OPTIONS", "OR", "ORDER",
  "OUTER", "OVER", "OVERLAPS", "OVERLAY", "OWNER", "PARTITION", "PERCENT", "POSITION", "PRIMARY", "PRIOR", "QUALIFY",
  "QUARTER", "RANGE", "RANK", "REFERENCES", "REGEXP", "RENAME", "REPLACE", "RIGHT", "RLIKE", "ROLE", "ROW", "ROWS",
  "SECOND", "SECONDS", "SELECT", "SESSION", "SESSION_USER", "SET", "SIMILAR", "SOME", "SORT", "START", "STATUS", "STRING",
  "STRUCT", "SUBSTRING", "SUM", "TABLE", "TAG", "TARGET", "TEXT", "THEN", "TIME", "TIMESTAMP", "TO", "TOP", "TRAILING",
  "TRIM", "TRUE", "TYPE", "UNION", "UNIQUE", "UNKNOWN", "UNNEST", "UPDATE", "URL", "USER", "USING", "VALUE", "VALUES",
  "VERSION", "VIEW", "WEEK", "WEEKS", "WHEN", "WHERE", "WINDOW", "WITH", "WITHIN", "XOR", "YEAR", "YEARS", "ZONE"]

/-- Types that stand alone. -/
def bareTypes : List String := [
  "BOOLEAN", "BOOL", "REAL", "FLOAT4", "FLOAT8", "FLOAT32", "FLOAT64", "INT16", "INT32", "INT64", "INT128", "INT256",
  "UINT8", "UINT16", "UINT32", "UINT64", "UINT128", "UINT256", "UUID", "DATE", "DATE32", "JSON", "JSONB", "REGCLASS",
  "TEXT", "TINYTEXT", "MEDIUMTEXT", "LONGTEXT", "BYTEA", "TINYBLOB", "MEDIUMBLOB", "LONGBLOB", "TRIGGER"]

/-- Types that may be followed by one or two numbers in parentheses. -/
def sizedTypes : List String := [
  "FLOAT", "DOUBLE", "TINYINT", "INT2", "SMALLINT", "MEDIUMINT", "INT", "INT4", "INT8", "INTEGER", "BIGINT", "VARCHAR",
  "NVARCHAR", "CHARACTER", "CHAR", "CLOB", "BINARY", "VARBINARY", "BLOB", "BYTES", "BIT", "DATETIME", "TIMESTAMPTZ",
  "TIMETZ", "STRING", "NUMERIC", "DECIMAL", "DEC", "BIGNUMERIC", "BIGDECIMAL"]

/-- Types whose form has further words. -/
def otherTypes : List String := [
  "TIMESTAMP", "TIME", "INTERVAL", "FIXEDSTRING", "ENUM", "ENUM8", "ENUM16", "SET", "ARRAY", "STRUCT", "UNION",
  "NULLABLE", "LOWCARDINALITY", "MAP", "NESTED", "TUPLE", "DATETIME64"]

def isKnown (w : String) : Bool :=
  knownWords.contains w || bareTypes.contains w || sizedTypes.contains w || otherTypes.contains w

/-- How tightly the operator ahead binds; zero if none is ahead. -/
def precedenceOf (t next afterNext : Token) : Nat :=
  match t with
  | .word _ =>
    match t.keyword with
    | "OR" => 5
    | "AND" => 10
    | "XOR" => 24
    | "AT" => if next.keyword = "TIME" ∧ afterNext.keyword = "ZONE" then 41 else 0
    | "NOT" =>
      match next.keyword with
      | "IN" | "BETWEEN" => 20
      | "LIKE" | "ILIKE" | "RLIKE" | "REGEXP" | "SIMILAR" => 19
      | _ => 0
    | "IS" => 17
    | "IN" | "BETWEEN" | "OVERLAPS" | "OPERATOR" => 20
    | "LIKE" | "ILIKE" | "RLIKE" | "REGEXP" | "SIMILAR" => 19
    | "DIV" => 40
    | _ => 0
  | .symbol s =>
    if ["=", "<", "<=", "<>", ">", ">=", "==", "<=>", "~", "~*", "!~", "!~*", "~~", "~~*", "!~~", "!~~*"].contains s then
      20
    else if s = "|" then 21
    else if ["^", "#", ">>", "<<"].contains s then 22
    else if s = "&" then 23
    else if s = "+" ∨ s = "-" then 30
    else if ["*", "/", "//", "%", "||"].contains s then 40
    else if ["::", "!", "[", "&&", "^@"].contains s then 50
    else if ["->", "->>", "#>", "#>>", "@>", "<@", "#-", "@?", "@@"].contains s then 16
    else 0
  | _ => 0

/-- Operators between two expressions. -/
def binarySymbols : List String := [
  "=", "<", "<=", "<>", ">", ">=", "==", "<=>", "~", "~*", "!~", "!~*", "~~", "~~*", "!~~", "!~~*", "|", "^", ">>", "<<",
  "&", "+", "-", "*", "/", "//", "%", "||", "^@", "->", "->>", "#>", "#>>", "@>", "<@", "#-", "@?", "@@"]

def binaryWords : List String := ["AND", "OR", "XOR", "OVERLAPS", "OPERATOR"]

/-- Names of operators that join nothing, as they are reported. -/
def symbolName (s : String) : String :=
  match s with
  | "#" => "Sharp"
  | "&&" => "Overlap"
  | "!" => "ExclamationMark"
  | s => s

def identifier : Reader String := do
  let lexeme ← next
  match lexeme.token with
  | .word s | .name _ s | .text s => return s
  | _ => refuse "identifier" lexeme

/-- Names joined by periods. -/
def objectNameRest (fuel : Nat) (first : List String) : Reader (List String) :=
  match fuel with
  | 0 => return first
  | fuel + 1 => do
    if ← sawSymbol "." then
      let part ← identifier
      objectNameRest fuel (first ++ [part])
    else return first

def objectName : Reader (List String) := do
  let first ← identifier
  objectNameRest (← get).length [first]

def unsignedNumber : Reader Unit := do
  let lexeme ← next
  match lexeme.token with
  | .number s false => if s.all Char.isDigit then return () else refuse "literal int" lexeme
  | _ => refuse "literal int" lexeme

/-- Up to two numbers in parentheses. -/
def size : Reader Unit := do
  if ← sawSymbol "(" then
    unsignedNumber
    if ← sawSymbol "," then unsignedNumber
    expectSymbol ")"

def timeZone : Reader Unit := do
  size
  if ← sawKeyword "WITH" then expectKeywords ["TIME", "ZONE"]
  else if ← sawKeyword "WITHOUT" then expectKeywords ["TIME", "ZONE"]

/-- Any number of `[]`, with or without a number. -/
def dimensions (fuel : Nat) : Reader Unit :=
  match fuel with
  | 0 => return ()
  | fuel + 1 => do
    if ← sawSymbol "[" then
      let _ ← attempt unsignedNumber
      expectSymbol "]"
      dimensions fuel

/-- Words, numbers and texts up to the closing parenthesis, with commas anywhere. -/
def modifiers (fuel : Nat) : Reader Unit :=
  match fuel with
  | 0 => return ()
  | fuel + 1 => do
    let lexeme ← next
    match lexeme.token with
    | .word _ | .name .. | .number .. | .text _ | .symbol "," => modifiers fuel
    | .symbol ")" => return ()
    | _ => refuse "type modifiers" lexeme

/-- The end of a type in angle brackets, if what is inside has not closed it already; whether it closes the type around
it, too. -/
def closeAngle (closed : Bool) : Reader Bool := do
  if closed then return false
  else if ← sawSymbol ">" then return false
  else if ← sawSymbol ">>" then return true
  else refuse ">" (← peek)

mutual

/-- A type, and whether its `>>` closes the type around it, too. A name that is no known type has no name here. -/
def typeForm (fuel : Nat) : Reader (Option String × Bool) :=
  match fuel with
  | 0 => throw .tooDeep
  | fuel + 1 => do
    let lexeme ← peek
    match lexeme.token with
    | .word _ | .name .. =>
      let (known, closed) ← namedType fuel lexeme.token.keyword
      let before := (← get).length
      dimensions before
      return (if (← get).length = before then known else some "ARRAY", closed)
    | _ => refuse "a data type name" (← next)

def namedType (fuel : Nat) (w : String) : Reader (Option String × Bool) :=
  match fuel with
  | 0 => throw .tooDeep
  | fuel + 1 => do
    if bareTypes.contains w then
      let _ ← next
      return (some w, false)
    else if sizedTypes.contains w then
      let _ ← next
      if w = "DOUBLE" then
        let _ ← sawKeyword "PRECISION"
      if w = "CHARACTER" ∨ w = "CHAR" ∨ w = "BIT" then
        let _ ← sawKeyword "VARYING"
      size
      let _ ← sawKeyword "UNSIGNED"
      return (some w, false)
    else match w with
      | "TIMESTAMP" | "TIME" =>
        let _ ← next
        timeZone
        return (some w, false)
      | "INTERVAL" =>
        let _ ← next
        return (some w, false)
      | "ARRAY" =>
        let _ ← next
        expectSymbol "<"
        let (_, closed) ← typeForm fuel
        let closed ← closeAngle closed
        return (some w, closed)
      | "STRUCT" =>
        let _ ← next
        let closed ← structTypes fuel
        return (some w, closed)
      | "FIXEDSTRING" | "ENUM" | "ENUM8" | "ENUM16" | "SET" | "UNION" | "NULLABLE" | "LOWCARDINALITY" | "MAP" | "NESTED"
      | "TUPLE" | "DATETIME64" =>
        let _ ← next
        refuse "(" (← peek)
      | _ =>
        let _ ← objectName
        if ← sawSymbol "(" then modifiers (← get).length
        return (none, false)

/-- The types behind `STRUCT`, if there are any. -/
def structTypes (fuel : Nat) : Reader Bool :=
  match fuel with
  | 0 => throw .tooDeep
  | fuel + 1 => do
    if ← sawSymbol "<" then
      let closed ← fieldTypes fuel
      closeAngle closed
    else return false

/-- Types separated by commas, each with or without a name in front of it. -/
def fieldTypes (fuel : Nat) : Reader Bool :=
  match fuel with
  | 0 => throw .tooDeep
  | fuel + 1 => do
    let lexeme ← peek
    let isName : Token → Bool
      | .word _ | .name .. => true
      | _ => false
    if isName lexeme.token && isName (← peekAt 1) then
      let _ ← identifier
    let (_, closed) ← typeForm fuel
    if ← sawSymbol "," then
      if closed then throw (.malformed "unmatched > in STRUCT definition" lexeme.position)
      else fieldTypes fuel
    else return closed

end

/-- A type by itself: its name, or nothing if the name is no known type. -/
def dataType (fuel : Nat) : Reader (Option String) := do
  let (known, closed) ← typeForm fuel
  if closed then throw (.malformed "unmatched > after parsing data type" none)
  else return known

/-- A text behind a type; a word without any meaning of its own is one, too. -/
def typedText : Reader String := do
  let lexeme ← next
  match lexeme.token with
  | .text s => return s
  | .marked "E'" s _ => return s
  | .marked "U&'" s _ => return s
  | .name _ s => return s
  | .word s => if isKnown lexeme.token.keyword then refuse "literal string" lexeme else return s
  | _ => refuse "literal string" lexeme

/-- An operator, behind names if it has any. -/
def operatorPath (fuel : Nat) : Reader Unit :=
  match fuel with
  | 0 => return ()
  | fuel + 1 => do
    let _ ← next
    if ← sawSymbol "." then operatorPath fuel

/-- A literal, or a placeholder. -/
def value : Reader Expr := do
  let lexeme ← next
  match lexeme.token with
  | .number s _ => return .number s
  | .text s => return .text s
  | .marked opening s _ => return .form opening [.text s]
  | .placeholder s => return .form s []
  | .symbol ":" | .symbol "@" =>
    let name ← next
    match name.token with
    | .word s | .name _ s | .number s false => return .form lexeme.token.show [.text s]
    | _ => refuse "placeholder" name
  | .word _ | .name .. => refuse "a concrete value" lexeme
  | _ => refuse "a value" lexeme

def dateTimeField : Reader Unit := do
  let lexeme ← next
  match lexeme.token with
  | .word _ | .name .. | .text _ => return ()
  | _ => refuse "date/time field" lexeme

/-- Units that may follow the value of an interval. -/
def temporalUnits : List String := [
  "YEAR", "YEARS", "MONTH", "MONTHS", "WEEK", "WEEKS", "DAY", "DAYOFWEEK", "DAYOFYEAR", "DAYS", "DATE", "DATETIME",
  "HOUR", "HOURS", "MINUTE", "MINUTES", "SECOND", "SECONDS", "CENTURY", "DECADE", "DOW", "DOY", "EPOCH", "ISODOW",
  "ISOYEAR", "JULIAN", "MICROSECOND", "MICROSECONDS", "MILLENIUM", "MILLENNIUM", "MILLISECOND", "MILLISECONDS",
  "NANOSECOND", "NANOSECONDS", "QUARTER", "TIME", "TIMEZONE", "TIMEZONE_ABBR", "TIMEZONE_HOUR", "TIMEZONE_MINUTE",
  "TIMEZONE_REGION"]

/-- What may follow the value of an interval. -/
def intervalUnit : Reader Unit := do
  let w := (← peek).token.keyword
  if temporalUnits.contains w then
    let _ ← next
    size
    if w ≠ "SECOND" then
      if ← sawKeyword "TO" then
        dateTimeField
        size
  else
    size
    if ← sawKeyword "TO" then
      dateTimeField
      size

/-- Words that cannot be names where they stand for nothing else. -/
def neverNames : List String := ["EXISTS", "INTERVAL", "STRUCT", "TRIM"]

/-- Words that end a table of a selection. -/
def afterTable : List String := [
  "WITH", "EXPLAIN", "ANALYZE", "SELECT", "WHERE", "GROUP", "SORT", "HAVING", "ORDER", "PIVOT", "UNPIVOT", "TOP",
  "LATERAL", "VIEW", "LIMIT", "OFFSET", "FETCH", "UNION", "EXCEPT", "INTERSECT", "MINUS", "ON", "JOIN", "INNER", "CROSS",
  "FULL", "LEFT", "RIGHT", "NATURAL", "USING", "CLUSTER", "DISTRIBUTE", "GLOBAL", "ANTI", "SEMI", "RETURNING", "ASOF",
  "MATCH_CONDITION", "OUTER", "SET", "QUALIFY", "WINDOW", "END", "FOR", "PARTITION", "PREWHERE", "SETTINGS", "FORMAT",
  "START", "CONNECT", "MATCH_RECOGNIZE", "SAMPLE", "TABLESAMPLE"]

/-- Words that end the item of a selection. -/
def afterItem : List String := [
  "WITH", "EXPLAIN", "ANALYZE", "SELECT", "WHERE", "GROUP", "SORT", "HAVING", "ORDER", "TOP", "LATERAL", "VIEW", "LIMIT",
  "OFFSET", "FETCH", "UNION", "EXCEPT", "INTERSECT", "MINUS", "CLUSTER", "DISTRIBUTE", "RETURNING", "FROM", "INTO", "END"]

mutual

/-- An expression whose operators bind more tightly than `floor`. -/
def subexpr (fuel depth floor : Nat) : Reader Expr :=
  match fuel, depth with
  | fuel + 1, depth + 1 => do
    let e ← primary fuel depth
    infixes fuel depth floor e
  | _, _ => throw .tooDeep

/-- The operators behind an expression, as long as they bind tightly enough. -/
def infixes (fuel depth floor : Nat) (left : Expr) : Reader Expr :=
  match fuel with
  | 0 => throw .tooDeep
  | fuel + 1 => do
    let p := precedenceOf (← peekAt 0) (← peekAt 1) (← peekAt 2)
    if floor < p then
      let e ← joined fuel depth p left
      infixes fuel depth floor e
    else return left

def commaSeparated (fuel depth : Nat) : Reader (List Expr) :=
  match fuel with
  | 0 => throw .tooDeep
  | fuel + 1 => do
    let e ← subexpr fuel depth 0
    if ← sawSymbol "," then
      let more ← commaSeparated fuel depth
      return e :: more
    else return [e]

/-- One operator and what stands right of it. -/
def joined (fuel depth p : Nat) (left : Expr) : Reader Expr :=
  match fuel with
  | 0 => throw .tooDeep
  | fuel + 1 => do
    let lexeme ← peek
    let w := lexeme.token.keyword
    let shown := if w = "" then lexeme.token.show else w
    if binarySymbols.contains shown || binaryWords.contains w then
      let _ ← next
      if w = "OPERATOR" then
        expectSymbol "("
        operatorPath (← get).length
        expectSymbol ")"
      match ← oneKeyword ["ANY", "ALL", "SOME"] with
      | some quantifier =>
        expectSymbol "("
        let w := (← peek).token.keyword
        let right ← if w = "SELECT" ∨ w = "WITH" then query fuel depth else subexpr fuel depth p
        expectSymbol ")"
        if ["=", "<>", "<", ">", "<=", ">=", "=="].contains shown then return .form quantifier [left, right]
        else
          throw (.malformed s!"Expected one of [=, >, <, =>, =<, !=] as comparison operator, found: {shown}"
            lexeme.position)
      | none =>
        let right ← subexpr fuel depth p
        return .binary shown left right
    else match w with
      | "IS" =>
        let _ ← next
        nullTest fuel depth left
      | "AT" =>
        let _ ← next
        expectKeywords ["TIME", "ZONE"]
        let zone ← subexpr fuel depth p
        return .form "AT TIME ZONE" [left, zone]
      | "DIV" =>
        throw (.malformed ("No infix parser for token Word(Word \x7b value: \"" ++ lexeme.token.show ++
          "\", quote_style: None, keyword: DIV \x7d)") lexeme.position)
      | "" =>
        let _ ← next
        match shown with
        | "::" =>
          let _ ← dataType fuel
          return .form "::" [left]
        | "[" => subscript fuel depth left
        | shown => throw (.malformed s!"No infix parser for token {symbolName shown}" lexeme.position)
      | _ => matched fuel depth left

/-- What follows `IS`. -/
def nullTest (fuel depth : Nat) (left : Expr) : Reader Expr :=
  match fuel with
  | 0 => throw .tooDeep
  | fuel + 1 => do
    if ← sawKeyword "NULL" then return .isNull left false
    else if ← sawKeywords ["NOT", "NULL"] then return .isNull left true
    else if ← sawKeyword "TRUE" then return .form "IS TRUE" [left]
    else if ← sawKeywords ["NOT", "TRUE"] then return .form "IS NOT TRUE" [left]
    else if ← sawKeyword "FALSE" then return .form "IS FALSE" [left]
    else if ← sawKeywords ["NOT", "FALSE"] then return .form "IS NOT FALSE" [left]
    else if ← sawKeyword "UNKNOWN" then return .form "IS UNKNOWN" [left]
    else if ← sawKeywords ["NOT", "UNKNOWN"] then return .form "IS NOT UNKNOWN" [left]
    else if ← sawKeywords ["DISTINCT", "FROM"] then
      let right ← subexpr fuel depth 0
      return .form "IS DISTINCT FROM" [left, right]
    else if ← sawKeywords ["NOT", "DISTINCT", "FROM"] then
      let right ← subexpr fuel depth 0
      return .form "IS NOT DISTINCT FROM" [left, right]
    else refuse "[NOT] NULL or TRUE|FALSE or [NOT] DISTINCT FROM after IS" (← peek)

/-- `IN`, `BETWEEN` and the pattern operators, any of them behind `NOT`. -/
def matched (fuel depth : Nat) (left : Expr) : Reader Expr :=
  match fuel with
  | 0 => throw .tooDeep
  | fuel + 1 => do
    let negated ← sawKeyword "NOT"
    match ← oneKeyword ["REGEXP", "RLIKE"] with
    | some word =>
      let pattern ← subexpr fuel depth 19
      return .form word [left, pattern]
    | none =>
      if ← sawKeyword "IN" then membership fuel depth left negated
      else if ← sawKeyword "BETWEEN" then
        let low ← subexpr fuel depth 20
        expectKeyword "AND"
        let high ← subexpr fuel depth 20
        return .form "BETWEEN" [left, low, high]
      else if ← sawKeyword "LIKE" then
        let any ← sawKeyword "ANY"
        let pattern ← subexpr fuel depth 19
        let escaped ← sawKeyword "ESCAPE"
        if escaped then
          let _ ← typedText
        return if any || escaped then .form "LIKE" [left, pattern] else .like left pattern negated
      else if ← sawKeyword "ILIKE" then
        let _ ← sawKeyword "ANY"
        let pattern ← subexpr fuel depth 19
        if ← sawKeyword "ESCAPE" then
          let _ ← typedText
        return .form "ILIKE" [left, pattern]
      else if ← sawKeywords ["SIMILAR", "TO"] then
        let pattern ← subexpr fuel depth 19
        if ← sawKeyword "ESCAPE" then
          let _ ← typedText
        return .form "SIMILAR TO" [left, pattern]
      else refuse "IN or BETWEEN after NOT" (← peek)

def membership (fuel depth : Nat) (left : Expr) (negated : Bool) : Reader Expr :=
  match fuel with
  | 0 => throw .tooDeep
  | fuel + 1 => do
    if ← sawKeyword "UNNEST" then
      expectSymbol "("
      let array ← subexpr fuel depth 0
      expectSymbol ")"
      return .form "IN UNNEST" [left, array]
    else
      expectSymbol "("
      match ← attempt (queryBody fuel depth) with
      | some query =>
        expectSymbol ")"
        return .form "IN" [left, query]
      | none =>
        let items ← commaSeparated fuel depth
        expectSymbol ")"
        return .isIn left items negated

/-- The inside of `[…]` behind an expression. -/
def subscript (fuel depth : Nat) (left : Expr) : Reader Expr :=
  match fuel with
  | 0 => throw .tooDeep
  | fuel + 1 => do
    let unbounded ← sawSymbol ":"
    let low ← if unbounded then pure [] else (do return [← subexpr fuel depth 0])
    if ← sawSymbol "]" then return .form "[]" (left :: low)
    else
      if !unbounded then expectSymbol ":"
      if ← sawSymbol "]" then return .form "[]" (left :: low)
      else
        let high ← subexpr fuel depth 0
        if ← sawSymbol "]" then return .form "[]" (left :: low ++ [high])
        else
          expectSymbol ":"
          if ← sawSymbol "]" then return .form "[]" (left :: low ++ [high])
          else
            let stride ← subexpr fuel depth 0
            expectSymbol "]"
            return .form "[]" (left :: low ++ [high, stride])

/-- An expression without operators behind it. -/
def primary (fuel depth : Nat) : Reader Expr :=
  match fuel with
  | 0 => throw .tooDeep
  | fuel + 1 => do
    match ← attempt (typed fuel depth) with
    | some e => return e
    | none =>
      let lexeme ← peek
      let e ← (match lexeme.token with
        | .word _ | .name .. => wordExpr fuel depth
        | .number .. | .text _ | .marked .. | .placeholder _ | .symbol ":" | .symbol "@" => value
        | .symbol "-" | .symbol "+" => do
          let _ ← next
          let e ← subexpr fuel depth 40
          return .unary lexeme.token.show e
        | .symbol "(" => do
          let _ ← next
          parenthesized fuel depth
        | .symbol "[" => do
          let _ ← next
          array fuel depth
        | .symbol s => do
          let _ ← next
          if s = "\x7b" then
            match ← attempt (bracedCall fuel depth) with
            | some e =>
              expectSymbol "\x7d"
              return e
            | none => dictionary fuel depth
          else refuse "an expression" lexeme
        | _ => refuse "an expression" lexeme)
      if ← sawKeyword "COLLATE" then
        let _ ← objectName
        return .form "COLLATE" [e]
      else return e

/-- A type and a text, as one literal. -/
def typed (fuel depth : Nat) : Reader Expr :=
  match fuel with
  | 0 => throw .tooDeep
  | fuel + 1 => do
    match ← dataType fuel with
    | some "INTERVAL" => interval fuel depth
    | some type =>
      let s ← typedText
      return .form type [.text s]
    | none => refuse "dummy" (← peek)

def interval (fuel depth : Nat) : Reader Expr :=
  match fuel with
  | 0 => throw .tooDeep
  | fuel + 1 => do
    let e ← primary fuel depth
    intervalUnit
    return .form "INTERVAL" [e]

/-- The meaning of a word where it has one, else a name. -/
def wordExpr (fuel depth : Nat) : Reader Expr :=
  match fuel with
  | 0 => throw .tooDeep
  | fuel + 1 => fun s =>
    match special fuel depth s with
    | .ok (some e, rest) => .ok (e, rest)
    | .ok (none, _) => named fuel depth s
    | .error fault =>
      if neverNames.contains ((s.headD endOfText).token.keyword) then .error fault
      else match attempt (named fuel depth) s with
        | .ok (some e, rest) => .ok (e, rest)
        | _ => .error fault

/-- A name, a path of names, or a call. -/
def named (fuel depth : Nat) : Reader Expr :=
  match fuel with
  | 0 => throw .tooDeep
  | fuel + 1 => do
    let first ← next
    let s := match first.token with
      | .word s | .name _ s => s
      | _ => ""
    match (← peek).token with
    | .symbol "(" => call fuel depth [s]
    | .symbol "." =>
      let parts ← path fuel [s]
      if (← peek).token = .symbol "(" then call fuel depth parts else return .column parts
    | .text payload =>
      if s.startsWith "_" then
        let _ ← next
        return .form s [.text payload]
      else return .column [s]
    | .marked "X'" payload _ =>
      if s.startsWith "_" then
        let _ ← next
        return .form s [.text payload]
      else return .column [s]
    | _ => return .column [s]

/-- The parts of a name behind periods. -/
def path (fuel : Nat) (parts : List String) : Reader (List String) :=
  match fuel with
  | 0 => throw .tooDeep
  | fuel + 1 => do
    if ← sawSymbol "." then
      let lexeme ← next
      match lexeme.token with
      | .word s | .name _ s | .text s | .placeholder s => path fuel (parts ++ [s])
      | .symbol "*" => refuse "an identifier after '.'" lexeme
      | _ => refuse "an identifier or a '*' after '.'" lexeme
    else return parts

/-- A call, with what may follow its arguments. -/
def call (fuel depth : Nat) (name : List String) : Reader Expr :=
  match fuel with
  | 0 => throw .tooDeep
  | fuel + 1 => do
    expectSymbol "("
    let first ← arguments fuel depth
    let args ← (do
      if ← sawSymbol "(" then
        let second ← arguments fuel depth
        return first ++ second
      else return first)
    if ← sawKeywords ["WITHIN", "GROUP"] then
      expectSymbol "("
      expectKeywords ["ORDER", "BY"]
      let _ ← orderItems fuel depth
      expectSymbol ")"
    if (← peekAt 0).keyword = "FILTER" ∧ (← peekAt 1) = .symbol "(" ∧ (← peekAt 2).keyword = "WHERE" then
      modify (·.drop 3)
      let _ ← subexpr fuel depth 0
      expectSymbol ")"
    let _ ← sawKeywords ["IGNORE", "NULLS"]
    let _ ← sawKeywords ["RESPECT", "NULLS"]
    if ← sawKeyword "OVER" then
      if ← sawSymbol "(" then
        let _ ← sawKeywords ["PARTITION", "BY"]
        if (← peek).token ≠ .symbol ")" ∧ (← peek).token.keyword ≠ "ORDER" then
          let _ ← commaSeparated fuel depth
        if ← sawKeywords ["ORDER", "BY"] then
          let _ ← orderItems fuel depth
        expectSymbol ")"
      else
        let _ ← identifier
    return .form (".".intercalate name) args

def orderItems (fuel depth : Nat) : Reader (List Expr) :=
  match fuel with
  | 0 => throw .tooDeep
  | fuel + 1 => do
    let e ← subexpr fuel depth 0
    let _ ← oneKeyword ["ASC", "DESC"]
    if ← sawSymbol "," then
      let more ← orderItems fuel depth
      return e :: more
    else return [e]

/-- Arguments up to the closing parenthesis. -/
def arguments (fuel depth : Nat) : Reader (List Expr) :=
  match fuel with
  | 0 => throw .tooDeep
  | fuel + 1 => do
    if ← sawSymbol ")" then return []
    else
      let _ ← oneKeyword ["ALL", "DISTINCT"]
      let args ← argumentList fuel depth
      let _ ← sawKeywords ["IGNORE", "NULLS"]
      let _ ← sawKeywords ["RESPECT", "NULLS"]
      if ← sawKeywords ["ORDER", "BY"] then
        let _ ← orderItems fuel depth
      if ← sawKeyword "LIMIT" then
        let _ ← subexpr fuel depth 0
      if ← sawKeyword "SEPARATOR" then
        let _ ← value
      expectSymbol ")"
      return args

/-- Arguments, each with or without a name in front of it. -/
def argumentList (fuel depth : Nat) : Reader (List Expr) :=
  match fuel with
  | 0 => throw .tooDeep
  | fuel + 1 => do
    let isName := match ← peekAt 0 with
      | .word _ | .name .. | .text _ => true
      | _ => false
    let e ← (do
      match isName, ← peekAt 1 with
      | true, .symbol "=>" | true, .symbol ":=" =>
        let before ← get
        modify (·.drop 2)
        match ← attempt (star fuel depth) with
        | some e => return e
        | none =>
          set before
          star fuel depth
      | _, _ => star fuel depth)
    if ← sawSymbol "," then
      let more ← argumentList fuel depth
      return e :: more
    else return [e]

/-- An expression, or a star with or without names in front of it. -/
def star (fuel depth : Nat) : Reader Expr :=
  match fuel with
  | 0 => throw .tooDeep
  | fuel + 1 => do
    if ← sawSymbol "*" then return .form "*" []
    else
      match ← attempt (qualifiedStar fuel) with
      | some e => return e
      | none => subexpr fuel depth 0

def qualifiedStar (fuel : Nat) : Reader Expr :=
  match fuel with
  | 0 => throw .tooDeep
  | fuel + 1 => do
    let _ ← identifier
    expectSymbol "."
    if ← sawSymbol "*" then return .form "*" [] else qualifiedStar fuel

/-- The inside of parentheses: a query, or expressions. -/
def parenthesized (fuel depth : Nat) : Reader Expr :=
  match fuel with
  | 0 => throw .tooDeep
  | fuel + 1 => do
    let w := (← peek).token.keyword
    let e ← (do
      if w = "SELECT" ∨ w = "WITH" then query fuel depth
      else
        let es ← commaSeparated fuel depth
        match es with
        | [e] => return .nested e
        | es => return .form "()" es)
    expectSymbol ")"
    if ← sawSymbol "." then
      let lexeme ← next
      match lexeme.token with
      | .word s | .name _ s => return .form ("." ++ s) [e]
      | _ => throw (.malformed s!"Expected identifier, found: {lexeme.token.show}" lexeme.position)
    else return e

def array (fuel depth : Nat) : Reader Expr :=
  match fuel with
  | 0 => throw .tooDeep
  | fuel + 1 => do
    if ← sawSymbol "]" then return .form "[]" []
    else
      let items ← commaSeparated fuel depth
      expectSymbol "]"
      return .form "[]" items

/-- Names and values in braces. -/
def dictionary (fuel depth : Nat) : Reader Expr :=
  match fuel with
  | 0 => throw .tooDeep
  | fuel + 1 => do
    if ← sawSymbol "\x7d" then return .form "\x7b\x7d" []
    else
      let fields ← dictionaryFields fuel depth
      expectSymbol "\x7d"
      return .form "\x7b\x7d" fields

/-- A call in braces. -/
def bracedCall (fuel depth : Nat) : Reader Expr :=
  match fuel with
  | 0 => throw .tooDeep
  | fuel + 1 => do
    expectKeyword "FN"
    let name ← objectName
    call fuel depth name

def dictionaryFields (fuel depth : Nat) : Reader (List Expr) :=
  match fuel with
  | 0 => throw .tooDeep
  | fuel + 1 => do
    let _ ← identifier
    expectSymbol ":"
    let e ← subexpr fuel depth 0
    if ← sawSymbol "," then
      let more ← dictionaryFields fuel depth
      return e :: more
    else return [e]

/-- Words that begin an expression of their own; nothing for any other word. -/
def special (fuel depth : Nat) : Reader (Option Expr) :=
  match fuel with
  | 0 => throw .tooDeep
  | fuel + 1 => do
    let lexeme ← next
    match lexeme.token.keyword with
    | "TRUE" => return some (.bool true)
    | "FALSE" => return some (.bool false)
    | "NULL" => return some .null
    | "CURRENT_CATALOG" | "CURRENT_USER" | "SESSION_USER" | "USER" => return some (.form lexeme.token.show [])
    | "CURRENT_TIMESTAMP" | "CURRENT_TIME" | "CURRENT_DATE" | "LOCALTIME" | "LOCALTIMESTAMP" =>
      if ← sawSymbol "(" then
        let args ← arguments fuel depth
        return some (.form lexeme.token.show args)
      else return some (.form lexeme.token.show [])
    | "CASE" => return some (← caseExpr fuel depth)
    | "CAST" | "TRY_CAST" | "SAFE_CAST" =>
      expectSymbol "("
      let e ← subexpr fuel depth 0
      expectKeyword "AS"
      let _ ← dataType fuel
      if ← sawKeyword "FORMAT" then
        let _ ← value
      expectSymbol ")"
      return some (.form "CAST" [e])
    | "CONVERT" | "TRY_CONVERT" =>
      expectSymbol "("
      let e ← subexpr fuel depth 0
      if ← sawKeyword "USING" then
        let _ ← objectName
      else
        expectSymbol ","
        let _ ← dataType fuel
        if ← sawKeywords ["CHARACTER", "SET"] then
          let _ ← objectName
      expectSymbol ")"
      return some (.form "CONVERT" [e])
    | "EXISTS" => return some (← existence fuel depth)
    | "EXTRACT" =>
      expectSymbol "("
      dateTimeField
      if !(← sawKeyword "FROM") then
        if !(← sawSymbol ",") then
          throw (.malformed "Expected 'FROM' or ','" (← peek).position)
      let e ← subexpr fuel depth 0
      expectSymbol ")"
      return some (.form "EXTRACT" [e])
    | "CEIL" | "FLOOR" =>
      expectSymbol "("
      let e ← subexpr fuel depth 0
      if ← sawKeyword "TO" then dateTimeField
      else if ← sawSymbol "," then
        let _ ← value
      expectSymbol ")"
      return some (.form lexeme.token.keyword [e])
    | "POSITION" =>
      if (← peek).token = .symbol "(" then
        match ← attempt (position fuel depth) with
        | some e => return some e
        | none => return some (← call fuel depth [lexeme.token.show])
      else return none
    | "SUBSTRING" =>
      expectSymbol "("
      let e ← subexpr fuel depth 0
      let hasStart ← (do
        if ← sawSymbol "," then return true else sawKeyword "FROM")
      if hasStart then
        let _ ← subexpr fuel depth 0
      let hasLength ← (do
        if ← sawKeyword "FOR" then return true else sawSymbol ",")
      if hasLength then
        let _ ← subexpr fuel depth 0
      expectSymbol ")"
      return some (.form "SUBSTRING" [e])
    | "OVERLAY" =>
      expectSymbol "("
      let e ← subexpr fuel depth 0
      expectKeyword "PLACING"
      let what ← subexpr fuel depth 0
      expectKeyword "FROM"
      let start ← subexpr fuel depth 0
      if ← sawKeyword "FOR" then
        let _ ← subexpr fuel depth 0
      expectSymbol ")"
      return some (.form "OVERLAY" [e, what, start])
    | "TRIM" =>
      expectSymbol "("
      let _ ← oneKeyword ["BOTH", "LEADING", "TRAILING"]
      let e ← subexpr fuel depth 0
      if ← sawKeyword "FROM" then
        let _ ← subexpr fuel depth 0
      else if ← sawSymbol "," then
        let _ ← commaSeparated fuel depth
      expectSymbol ")"
      return some (.form "TRIM" [e])
    | "INTERVAL" => return some (← interval fuel depth)
    | "ARRAY" =>
      match (← peek).token with
      | .symbol "[" =>
        let _ ← next
        return some (← array fuel depth)
      | .symbol "(" =>
        let _ ← next
        let e ← query fuel depth
        expectSymbol ")"
        return some (.form "ARRAY" [e])
      | _ => return none
    | "NOT" =>
      if ← sawKeyword "EXISTS" then return some (← existence fuel depth)
      else
        let e ← subexpr fuel depth 15
        return some (.unary "NOT" e)
    | "MATCH" =>
      expectSymbol "("
      let _ ← commaSeparated fuel depth
      expectSymbol ")"
      expectKeyword "AGAINST"
      expectSymbol "("
      let e ← value
      expectSymbol ")"
      return some (.form "MATCH" [e])
    | "STRUCT" =>
      let isTyped := (← peek).token = .symbol "<"
      if ← structTypes fuel then throw (.malformed "unmatched > in STRUCT literal" (← peek).position)
      expectSymbol "("
      let items ← structItems fuel depth isTyped
      expectSymbol ")"
      return some (.form "STRUCT" items)
    | "MAP" =>
      if ← sawSymbol "\x7b" then
        let e ← dictionary fuel depth
        return some (.form "MAP" [e])
      else return none
    | _ => return none

/-- The values of a structure, which may be named where their types are not given. -/
def structItems (fuel depth : Nat) (isTyped : Bool) : Reader (List Expr) :=
  match fuel with
  | 0 => throw .tooDeep
  | fuel + 1 => do
    let e ← subexpr fuel depth 0
    if ← sawKeyword "AS" then
      if isTyped then throw (.malformed "Typed syntax does not allow AS" (← peek).position)
      let _ ← identifier
    if ← sawSymbol "," then
      let more ← structItems fuel depth isTyped
      return e :: more
    else return [e]

def caseExpr (fuel depth : Nat) : Reader Expr :=
  match fuel with
  | 0 => throw .tooDeep
  | fuel + 1 => do
    let operand ← (do
      if ← sawKeyword "WHEN" then return []
      else
        let e ← subexpr fuel depth 0
        expectKeyword "WHEN"
        return [e])
    let arms ← caseArms fuel depth
    let other ← (do
      if ← sawKeyword "ELSE" then
        let e ← subexpr fuel depth 0
        return [e]
      else return [])
    expectKeyword "END"
    return .form "CASE" (operand ++ arms ++ other)

def caseArms (fuel depth : Nat) : Reader (List Expr) :=
  match fuel with
  | 0 => throw .tooDeep
  | fuel + 1 => do
    let condition ← subexpr fuel depth 0
    expectKeyword "THEN"
    let result ← subexpr fuel depth 0
    if ← sawKeyword "WHEN" then
      let more ← caseArms fuel depth
      return condition :: result :: more
    else return [condition, result]

def existence (fuel depth : Nat) : Reader Expr :=
  match fuel with
  | 0 => throw .tooDeep
  | fuel + 1 => do
    expectSymbol "("
    let e ← query fuel depth
    expectSymbol ")"
    return .form "EXISTS" [e]

def position (fuel depth : Nat) : Reader Expr :=
  match fuel with
  | 0 => throw .tooDeep
  | fuel + 1 => do
    expectSymbol "("
    let e ← subexpr fuel depth 20
    expectKeyword "IN"
    let whole ← subexpr fuel depth 0
    expectSymbol ")"
    return .form "POSITION" [e, whole]

/-- A selection, with the names it is given for the purpose in front of it, and its order and limits behind it. -/
def query (fuel depth : Nat) : Reader Expr :=
  match fuel, depth with
  | fuel + 1, depth + 1 => do
    if ← sawKeyword "WITH" then
      let _ ← sawKeyword "RECURSIVE"
      namedQueries fuel depth
    let body ← queryBody fuel depth
    if ← sawKeywords ["ORDER", "BY"] then
      let _ ← orderItems fuel depth
    if ← sawKeyword "LIMIT" then
      if !(← sawKeyword "ALL") then
        let _ ← subexpr fuel depth 0
    if ← sawKeyword "OFFSET" then
      let _ ← subexpr fuel depth 0
      let _ ← oneKeyword ["ROW", "ROWS"]
    return body
  | _, _ => throw .tooDeep

def namedQueries (fuel depth : Nat) : Reader Unit :=
  match fuel with
  | 0 => throw .tooDeep
  | fuel + 1 => do
    let _ ← identifier
    if ← sawSymbol "(" then columnNames fuel
    expectKeyword "AS"
    expectSymbol "("
    let _ ← query fuel depth
    expectSymbol ")"
    if ← sawSymbol "," then namedQueries fuel depth

/-- Names up to the closing parenthesis. -/
def columnNames (fuel : Nat) : Reader Unit :=
  match fuel with
  | 0 => throw .tooDeep
  | fuel + 1 => do
    let _ ← identifier
    let _ ← attempt (dataType fuel)
    if ← sawSymbol "," then columnNames fuel else expectSymbol ")"

/-- Selections and rows, joined by the operators on sets. -/
def queryBody (fuel depth : Nat) : Reader Expr :=
  match fuel with
  | 0 => throw .tooDeep
  | fuel + 1 => do
    let first ← simpleQuery fuel depth
    match ← oneKeyword ["UNION", "EXCEPT", "INTERSECT", "MINUS"] with
    | some word =>
      let _ ← oneKeyword ["ALL", "DISTINCT"]
      let second ← queryBody fuel depth
      return .form word [first, second]
    | none => return first

def simpleQuery (fuel depth : Nat) : Reader Expr :=
  match fuel with
  | 0 => throw .tooDeep
  | fuel + 1 => do
    if ← sawKeyword "SELECT" then
      let _ ← oneKeyword ["ALL", "DISTINCT"]
      let items ← if (← peek).token.keyword = "FROM" then pure [] else selection fuel depth
      if ← sawKeyword "FROM" then tables fuel depth
      if ← sawKeyword "WHERE" then
        let _ ← subexpr fuel depth 0
      if ← sawKeywords ["GROUP", "BY"] then
        let _ ← commaSeparated fuel depth
      if ← sawKeyword "HAVING" then
        let _ ← subexpr fuel depth 0
      return .form "SELECT" items
    else if ← sawSymbol "(" then
      let e ← query fuel depth
      expectSymbol ")"
      return e
    else if ← sawKeyword "VALUES" then
      let rows ← valueRows fuel depth
      return .form "VALUES" rows
    else if ← sawKeyword "TABLE" then
      let name ← objectName
      return .form "TABLE" [.column name]
    else refuse "SELECT, VALUES, or a subquery in the query body" (← peek)

def valueRows (fuel depth : Nat) : Reader (List Expr) :=
  match fuel with
  | 0 => throw .tooDeep
  | fuel + 1 => do
    let _ ← sawKeyword "ROW"
    expectSymbol "("
    let items ← if (← peek).token = .symbol ")" then pure [] else commaSeparated fuel depth
    expectSymbol ")"
    if ← sawSymbol "," then
      let more ← valueRows fuel depth
      return .form "()" items :: more
    else return [.form "()" items]

/-- Tables separated by commas, each with what is joined to it. -/
def tables (fuel depth : Nat) : Reader Unit :=
  match fuel with
  | 0 => throw .tooDeep
  | fuel + 1 => do
    table fuel depth
    joins fuel depth
    if ← sawSymbol "," then tables fuel depth

/-- A table or a query, with or without another name. -/
def table (fuel depth : Nat) : Reader Unit :=
  match fuel with
  | 0 => throw .tooDeep
  | fuel + 1 => do
    if ← sawSymbol "(" then
      let _ ← query fuel depth
      expectSymbol ")"
    else
      let _ ← objectName
      if ← sawSymbol "(" then
        let _ ← arguments fuel depth
    if ← sawKeyword "AS" then
      let _ ← identifier
    else match (← peek).token with
      | .text _ | .name .. => modify (·.drop 1)
      | .word _ =>
        if !afterTable.contains (← peek).token.keyword then modify (·.drop 1)
      | _ => pure ()

def joins (fuel depth : Nat) : Reader Unit :=
  match fuel with
  | 0 => throw .tooDeep
  | fuel + 1 => do
    let crosses ← sawKeywords ["CROSS", "JOIN"]
    let natural ← if crosses then pure false else sawKeyword "NATURAL"
    let meets ← (do
      if crosses then return true
      else
        match ← oneKeyword ["INNER", "LEFT", "RIGHT", "FULL"] with
        | none =>
          if natural then
            expectKeyword "JOIN"
            return true
          else sawKeyword "JOIN"
        | some side =>
          if side ≠ "INNER" then
            let _ ← sawKeyword "OUTER"
          expectKeyword "JOIN"
          return true)
    if meets then
      table fuel depth
      if !crosses && !natural then
        if ← sawKeyword "ON" then
          let _ ← subexpr fuel depth 0
        else if ← sawKeyword "USING" then
          expectSymbol "("
          columnNames fuel
      joins fuel depth

/-- The items of a selection, each with or without another name. -/
def selection (fuel depth : Nat) : Reader (List Expr) :=
  match fuel with
  | 0 => throw .tooDeep
  | fuel + 1 => do
    let e ← star fuel depth
    if ← sawKeyword "AS" then
      let _ ← identifier
    else match (← peek).token with
      | .text _ | .name .. => modify (·.drop 1)
      | .word _ =>
        if !afterItem.contains (← peek).token.keyword then modify (·.drop 1)
      | _ => pure ()
    if ← sawSymbol "," then
      let more ← selection fuel depth
      return e :: more
    else return [e]

end

/-- Expressions inside each other. -/
def maxNesting : Nat := 50

/-- Every rule takes a token or goes one level down before a rule comes up again, and there are fewer than fifty
rules. -/
def fuelFor (lexemes : List Lexeme) : Nat := 50 * (lexemes.length + maxNesting + 2)

end Grammar

/-- Reads one expression that takes up the whole text. -/
def Expr.parse (s : String) : Except Fault Expr := do
  let lexemes ← lex s
  let (e, rest) ← (Grammar.subexpr (Grammar.fuelFor lexemes) Grammar.maxNesting 0).run lexemes
  match rest with
  | [] => return e
  | lexeme :: _ => throw (.trailing lexeme.token)

end AttributeStore.Sql
