/-! SQL expressions as far as clauses need them: columns, literals, comparisons and connectives have forms of their own,
all else is a named form over its parts. -/
namespace AttributeStore.Sql

inductive Expr
  | column (path : List String)
  | number (text : String)
  | text (payload : String)
  | bool (b : Bool)
  | null
  | nested (inner : Expr)
  | unary (op : String) (arg : Expr)
  | binary (op : String) (left right : Expr)
  | isNull (arg : Expr) (negated : Bool)
  | isIn (arg : Expr) (items : List Expr) (negated : Bool)
  | like (arg pattern : Expr) (negated : Bool)
  | form (name : String) (parts : List Expr)
  deriving Inhabited

end AttributeStore.Sql
