import AttributeStore.Sql.Grammar
import AttributeStore.CompileError

/-! Filters written as SQL: literals, conditions, the two groups of a filter, and the expression of each row that a
daily aggregate folds. -/
namespace AttributeStore.Sql

/-- Quotes inside a text are doubled. -/
def escape (s : String) : String :=
  String.ofList (s.toList.flatMap fun c => if c = '\'' then ['\'', '\''] else [c])

mutual

def literal (value : Operand) : String :=
  match value with
  | .bool b => if b then "TRUE" else "FALSE"
  | .int n => toString n.toInt
  | .float x => Decimal.plain x
  | .str s => "'" ++ escape s ++ "'"
  | .list items => "(" ++ ", ".intercalate (literals items) ++ ")"

def literals : List Operand → List String
  | [] => []
  | item :: rest => literal item :: literals rest

end

/-- The inside of the parentheses of `IN`; a single value is a list of one. -/
def inList (value : Operand) : String :=
  match value with
  | .list items => ", ".intercalate (literals items)
  | value => literal value

/-- A condition as SQL. `!=` holds of a missing value, too; an order needs a number or a boolean. -/
def condition (subject : String) (c : Criterion) : Except CompileError String :=
  let p := c.property
  match c.operator with
  | .eq => .ok (p ++ " = " ++ literal c.value)
  | .notEq => .ok ("(" ++ p ++ " != " ++ literal c.value ++ " OR " ++ p ++ " IS NULL)")
  | .like => .ok (p ++ " LIKE '%" ++ escape c.value.text ++ "%'")
  | .isIn => .ok (p ++ " IN(" ++ inList c.value ++ ")")
  | op =>
    match c.value with
    | .str _ | .list _ => .error (.invalidFilterOperator subject op c.value)
    | value => .ok (p ++ " " ++ op.symbol ++ " " ++ literal value)

def conditions (subject : String) : List Criterion → Except CompileError (List String)
  | [] => .ok []
  | c :: rest => do
    let first ← condition subject c
    let more ← conditions subject rest
    return first :: more

/-- The `all` group joined with AND, and the `any` group joined with OR behind it. -/
def clause (subject : String) (c : Criteria) : Except CompileError String := do
  let all ← conditions subject c.all
  let any ← conditions subject c.any
  let conjunction := " AND ".intercalate all
  let disjunction := " OR ".intercalate any
  return match conjunction.isEmpty, disjunction.isEmpty with
    | false, false => conjunction ++ " AND (" ++ disjunction ++ ")"
    | false, true => conjunction
    | true, false => disjunction
    | true, true => ""

/-- The name of the function that folds a day. -/
def dailyFunction : Fold → String
  | .uniqueList => "array_agg"
  | fold => fold.name

/-- What a daily aggregate folds in each row; without a condition every row counts. -/
def rowExpression (subject : String) (fold : Fold) (condition : String) (property : Option String) :
    Except CompileError String :=
  match fold, property with
  | .count, _ => .ok (if condition.isEmpty then "1" else "CASE WHEN " ++ condition ++ " THEN 1 ELSE 0 END")
  | fold, none => .error (.missingProperty subject fold.name)
  | .uniqueList, some p =>
    .ok (if condition.isEmpty then "DISTINCT " ++ p
      else "DISTINCT CASE WHEN " ++ condition ++ " THEN " ++ p ++ " ELSE NULL END")
  | .sum, some p =>
    .ok (if condition.isEmpty then "CAST(" ++ p ++ " AS FLOAT)"
      else "CASE WHEN " ++ condition ++ " THEN CAST(" ++ p ++ " AS FLOAT) ELSE 0 END")
  | _, some p =>
    .ok (if condition.isEmpty then p else "CASE WHEN " ++ condition ++ " THEN " ++ p ++ " ELSE NULL END")

/-- A clause has to be one SQL expression, or empty. -/
def validate (subject clause : String) : Except CompileError Unit :=
  if clause.isEmpty then .ok ()
  else match Expr.parse clause with
    | .ok _ => .ok ()
    | .error fault => .error (.invalidSql subject clause fault)

end AttributeStore.Sql
