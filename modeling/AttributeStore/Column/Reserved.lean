import AttributeStore.Text.Case

/-! Words that no warehouse takes bare as a column name. -/
namespace AttributeStore.Column

def reservedWords : List String := [
  "all", "alter", "and", "any", "array", "as", "asc", "between", "both", "by", "case", "cast", "check",
  "column", "constraint", "create", "cross", "current_date", "current_time", "current_timestamp",
  "current_user", "date", "default", "delete", "desc", "distinct", "drop", "else", "end", "except", "exists",
  "false", "fetch", "for", "foreign", "from", "full", "grant", "group", "having", "in", "inner", "insert",
  "intersect", "interval", "into", "is", "join", "leading", "left", "like", "limit", "natural", "not", "null",
  "offset", "on", "only", "or", "order", "outer", "primary", "qualify", "references", "right", "rows",
  "select", "session_user", "some", "table", "then", "time", "timestamp", "to", "trailing", "true", "union",
  "unique", "update", "user", "using", "values", "when", "where", "window", "with"]

/-- ASCII letters may have either case. -/
def isReserved (name : String) : Bool :=
  reservedWords.contains (String.ofList (Text.lowerAscii name.toList))

end AttributeStore.Column
