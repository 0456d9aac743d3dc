import AttributeStore.Proofs.Sql.Operands

/-! Single conditions as tokens and as expressions. -/
namespace AttributeStore

/-- A condition on a column that has a value SQL can write. -/
structure Criterion.IsPlain (c : Criterion) : Prop where
  column : Sql.Grammar.IsColumn c.property
  value : c.value.IsPlain

/-- A boolean or a whole number. -/
def Operand.IsOrdered : Operand → Prop
  | .bool _ | .int _ => True
  | _ => False

/-- A value that fits the operator: a scalar, no text for an order, and scalars in a list only for `IN`. -/
def Criterion.Fits (c : Criterion) : Prop :=
  match c.operator with
  | .eq | .notEq | .like => c.value.IsScalar
  | .isIn => c.value.IsPlain
  | _ => c.value.IsOrdered

theorem Operand.IsOrdered.isScalar {value : Operand} (ordered : value.IsOrdered) : value.IsScalar := by
  cases value <;> first | exact trivial | exact ordered.elim

theorem Criterion.Fits.isPlain {c : Criterion} (fits : c.Fits) : c.value.IsPlain := by
  unfold Fits at fits
  split at fits
  · exact .inl fits
  · exact .inl fits
  · exact .inl fits
  · exact fits
  · exact .inl fits.isScalar

/-- Whether a condition has the values it needs: a pattern is made of anything, but any other list needs its items. -/
def Criterion.isFilled (c : Criterion) : Bool := c.operator = .like || c.value.isFilled

theorem Criterion.Fits.isFilled {c : Criterion} (fits : c.Fits) : c.isFilled := by
  simp [Criterion.isFilled, fits.isPlain.facts.1]

theorem Criterion.isFilled_of_ne {c : Criterion} (filled : c.isFilled) (other : c.operator ≠ .like) :
    c.value.isFilled := by
  simpa [isFilled, other] using filled

namespace Sql

/-- The pattern of a text anywhere inside another. -/
def containing (s : String) : String := "%" ++ s ++ "%"

def conditionTokens (c : Criterion) : List Token :=
  let p := .word c.property
  match c.operator with
  | .notEq =>
    .symbol "(" :: p :: .symbol "<>" :: literalTokens c.value ++
      [.word "OR", p, .word "IS", .word "NULL", .symbol ")"]
  | .like => [p, .word "LIKE", .text (containing c.value.text)]
  | .isIn => p :: .word "IN" :: .symbol "(" :: commas (c.value.items.map literalTokens) ++ [.symbol ")"]
  | op => p :: .symbol op.symbol :: literalTokens c.value

def conditionTree (c : Criterion) : Expr :=
  let p := .column [c.property]
  match c.operator with
  | .notEq => .nested (.binary "OR" (.binary "<>" p (literalTree c.value)) (.isNull p false))
  | .like => .like p (.text (containing c.value.text)) false
  | .isIn => .isIn p (c.value.items.map literalTree) false
  | op => .binary op.symbol p (literalTree c.value)

/-- What a condition is read as where its column is read as `p`. -/
def conditionOn (p : Expr) (c : Criterion) : Expr :=
  match c.operator with
  | .notEq => .nested (.binary "OR" (.binary "<>" p (literalRead c.value)) (.isNull p false))
  | .like => .like p (.text (containing c.value.text)) false
  | .isIn => .isIn p (literalsRead c.value.items) false
  | op => .binary op.symbol p (literalRead c.value)

theorem conditionTree_eq {c : Criterion} (plain : c.value.IsPlain) :
    conditionTree c = conditionOn (.column [c.property]) c := by
  have items : literalsRead c.value.items = c.value.items.map literalTree := by
    rw [literalsRead_eq_map]
    exact List.map_congr_left fun v member => literalRead_plain (.inl (plain.items.2 v member))
  unfold conditionTree conditionOn
  rw [literalRead_plain plain, items]

namespace Grammar

open Reader

/-- An operator between two expressions takes up what stands right of it. -/
theorem joined_binary_eq {t : Token} {s : List Lexeme} {left : Expr} (fuel depth p : Nat) (name : String)
    (pos : Option Position) (shown : (if t.keyword = "" then t.show else t.keyword) = name)
    (binary : (binarySymbols.contains name || binaryWords.contains t.keyword) = true)
    (simple : t.keyword ≠ "OPERATOR")
    (unquantified : (s.headD endOfText).token.keyword ∉ ["ANY", "ALL", "SOME"]) :
    joined (fuel + 1) depth p left (⟨t, pos⟩ :: s) =
      (subexpr fuel depth p >>= fun right => pure (.binary name left right)) s := by
  rw [joined.eq_def]
  dsimp only
  rw [run_bind, run_peek]
  dsimp only [List.headD_cons]
  rw [shown, if_pos binary, run_bind, run_next, if_neg simple]
  simp only [List.drop_succ_cons, List.drop_zero]
  rw [run_bind, run_oneKeyword, if_neg (by simpa using unquantified)]

theorem joined_binary {t : Token} {s rest : List Lexeme} {left right : Expr} (fuel depth p : Nat) (name : String)
    (pos : Option Position) (shown : (if t.keyword = "" then t.show else t.keyword) = name)
    (binary : (binarySymbols.contains name || binaryWords.contains t.keyword) = true)
    (simple : t.keyword ≠ "OPERATOR")
    (unquantified : (s.headD endOfText).token.keyword ∉ ["ANY", "ALL", "SOME"])
    (read : subexpr fuel depth p s = .ok (right, rest)) :
    joined (fuel + 1) depth p left (⟨t, pos⟩ :: s) = .ok (.binary name left right, rest) := by
  rw [joined_binary_eq fuel depth p name pos shown binary simple unquantified, run_bind, read]
  rfl

theorem nullTest_null {rest : List Lexeme} {left : Expr} (fuel depth : Nat) (pos : Option Position) :
    nullTest (fuel + 1) depth left (⟨.word "NULL", pos⟩ :: rest) = .ok (.isNull left false, rest) := by
  rw [nullTest.eq_def]
  rfl

theorem joined_isNull {rest : List Lexeme} {left : Expr} (fuel depth p : Nat) (pos pos' : Option Position) :
    joined (fuel + 2) depth p left (⟨.word "IS", pos⟩ :: ⟨.word "NULL", pos'⟩ :: rest) =
      .ok (.isNull left false, rest) := by
  rw [joined.eq_def]
  exact nullTest_null fuel depth pos'

theorem matched_like {s rest : List Lexeme} {left pattern : Expr} (fuel depth : Nat) (pos : Option Position)
    (unquantified : (s.headD endOfText).token.keyword ≠ "ANY") (read : subexpr fuel depth 19 s = .ok (pattern, rest))
    (ends : Stops rest) :
    matched (fuel + 1) depth left (⟨.word "LIKE", pos⟩ :: s) = .ok (.like left pattern false, rest) := by
  rw [matched.eq_def]
  show (do
    let any ← sawKeyword "ANY"
    let pattern ← subexpr fuel depth 19
    let escaped ← sawKeyword "ESCAPE"
    if escaped then
      let _ ← typedText
    return if any || escaped then .form "LIKE" [left, pattern] else .like left pattern false : Reader Expr) s = _
  rw [run_bind, run_sawKeyword "ANY" (by decide), if_neg unquantified]
  simp (disch := decide) only [run_bind, read, ends.sawKeyword, Bool.false_eq_true, if_false]
  rfl

theorem joined_matched {s : List Lexeme} {left : Expr} {w : String} (fuel depth p : Nat) (pos : Option Position)
    (word : w = "LIKE" ∨ w = "IN") :
    joined (fuel + 1) depth p left (⟨.word w, pos⟩ :: s) = matched fuel depth left (⟨.word w, pos⟩ :: s) := by
  rw [joined.eq_def]
  rcases word with rfl | rfl <;> rfl

theorem queryBody_refuses {s : List Lexeme} (fuel depth : Nat)
    (noQuery : (s.headD endOfText).token.keyword ∉ ["SELECT", "WITH", "VALUES", "TABLE"])
    (noParenthesis : (s.headD endOfText).token ≠ .symbol "(") : Refuses (queryBody (fuel + 2) depth s) := by
  simp only [List.mem_cons, List.not_mem_nil, or_false, not_or] at noQuery
  rw [queryBody.eq_def]
  dsimp only
  rw [run_bind, simpleQuery.eq_def]
  dsimp only
  rw [run_bind, run_sawKeyword "SELECT" (by decide), if_neg noQuery.1]
  dsimp only
  simp only [Bool.false_eq_true, if_false]
  rw [run_bind, run_sawSymbol, if_neg noParenthesis]
  dsimp only
  simp only [Bool.false_eq_true, if_false]
  rw [run_bind, run_sawKeyword "VALUES" (by decide), if_neg noQuery.2.2.1]
  dsimp only
  simp only [Bool.false_eq_true, if_false]
  rw [run_bind, run_sawKeyword "TABLE" (by decide), if_neg noQuery.2.2.2]
  exact ⟨_, rfl, by rintro ⟨⟩⟩

/-- Parentheses around what is no query are no query. -/
theorem queryBody_opening {s : List Lexeme} (fuel depth : Nat) (pos : Option Position)
    (noQuery : (s.headD endOfText).token.keyword ≠ "WITH") (refuses : Refuses (queryBody fuel depth s)) :
    Refuses (queryBody (fuel + 3) (depth + 1) (⟨.symbol "(", pos⟩ :: s)) := by
  obtain ⟨fault, failed, shallow⟩ := refuses
  refine ⟨fault, ?_, shallow⟩
  have query : query (fuel + 1) (depth + 1) s = .error fault := by
    rw [query.eq_def]
    dsimp only
    rw [run_bind, run_sawKeyword "WITH" (by decide), if_neg noQuery]
    simp only [Bool.false_eq_true, if_false]
    rw [run_bind, failed]
  have noKeyword : (Token.symbol "(").keyword ≠ "SELECT" := by decide
  rw [queryBody.eq_def]
  dsimp only
  rw [run_bind, simpleQuery.eq_def]
  dsimp only
  rw [run_bind, run_sawKeyword "SELECT" (by decide), List.headD_cons, if_neg noKeyword]
  simp only [Bool.false_eq_true, if_false]
  rw [run_bind, run_sawSymbol, List.headD_cons, if_pos rfl]
  simp only [if_true, List.drop_succ_cons, List.drop_zero]
  rw [run_bind, query]

theorem queryBody_atom {value : Operand} (atom : ∀ items, value ≠ .list items) {front rest : List Lexeme}
    (spelled : front.map (·.token) = literalTokens value) {fuel : Nat} (enough : 3 * front.length ≤ fuel + 1)
    (depth : Nat) : Refuses (queryBody fuel depth (front ++ rest)) := by
  obtain ⟨t, more, first, keyword, onlyLists⟩ := literal_begins value
  have head := headD_spelled rest (spelled.trans first)
  have length := congrArg List.length (spelled.trans first)
  rw [List.length_map, List.length_cons] at length
  obtain ⟨fuel, rfl⟩ := Nat.exists_eq_add_of_le' (by omega : 2 ≤ fuel)
  have other : ∀ w ∈ literalWords, w ∉ ["SELECT", "WITH", "VALUES", "TABLE"] := by decide
  refine queryBody_refuses fuel depth ?_ ?_
  · rw [head]
    exact other _ keyword
  · rw [head]
    exact fun opening => (onlyLists opening).elim atom

mutual

/-- A literal is no query, however deep it stands in parentheses. -/
theorem queryBody_literal (value : Operand) {front rest : List Lexeme}
    (spelled : front.map (·.token) = literalTokens value) {fuel depth : Nat} (enough : 3 * front.length ≤ fuel + 1)
    (deep : value.nesting ≤ depth) : Refuses (queryBody fuel depth (front ++ rest)) :=
  match value with
  | .bool _ | .int _ | .float _ | .str _ => queryBody_atom (by simp) spelled enough depth
  | .list items => by
    obtain ⟨inside, opening, closing, spelledItems, rfl⟩ := exists_listLexemes spelled
    simp only [List.length_cons, List.length_append, List.length_nil] at enough
    rw [Operand.nesting] at deep
    obtain ⟨fuel, rfl⟩ := Nat.exists_eq_add_of_le' (by omega : 3 ≤ fuel)
    obtain ⟨depth, rfl⟩ := Nat.exists_eq_add_of_le' (by omega : 1 ≤ depth)
    simp only [List.cons_append, List.append_assoc, List.nil_append]
    refine queryBody_opening fuel depth opening ?_ (queryBody_items items spelledItems (by omega) (by omega))
    exact (noQuery_of_notMem (items_noQuery spelledItems closing rest)).2

theorem queryBody_items (items : List Operand) {front rest : List Lexeme} {pos : Option Position}
    (spelled : front.map (·.token) = commas (items.map literalTokens)) {fuel depth : Nat}
    (enough : 3 * front.length + 2 ≤ fuel) (deep : Operand.nestings items ≤ depth) :
    Refuses (queryBody fuel depth (front ++ ⟨.symbol ")", pos⟩ :: rest)) :=
  match items with
  | [] => by
    have other := items_noQuery spelled pos rest
    obtain rfl : front = [] := List.map_eq_nil_iff.mp spelled
    obtain ⟨fuel, rfl⟩ := Nat.exists_eq_add_of_le' (by omega : 2 ≤ fuel)
    exact queryBody_refuses fuel depth other (by simp)
  | v :: items => by
    obtain ⟨behind, joined⟩ := commas_begin v items
    rw [joined] at spelled
    obtain ⟨own, others, rfl, spelledOwn, -⟩ := List.map_eq_append_iff.mp spelled
    rw [List.length_append] at enough
    rw [Operand.nestings] at deep
    rw [List.append_assoc]
    exact queryBody_literal v spelledOwn (by omega) (by omega)

end

/-- What is in the parentheses behind `IN` is a list, where it is no query. -/
theorem matched_in_eq {s : List Lexeme} {left : Expr} (fuel depth : Nat) (pos opening : Option Position)
    (noQuery : Refuses (queryBody (fuel + 2) depth s)) :
    matched (fuel + 4) depth left (⟨.word "IN", pos⟩ :: ⟨.symbol "(", opening⟩ :: s) =
      (commaSeparated (fuel + 2) depth >>= fun items => do
        expectSymbol ")"
        return .isIn left items false : Reader Expr) s := by
  rw [matched.eq_def]
  show membership (fuel + 3) depth left false (⟨.symbol "(", opening⟩ :: s) = _
  rw [membership.eq_def]
  dsimp only
  have noArray : (Token.symbol "(").keyword ≠ "UNNEST" := by decide
  rw [run_bind, run_sawKeyword "UNNEST" (by decide), List.headD_cons, if_neg noArray]
  dsimp only
  simp only [Bool.false_eq_true, if_false]
  rw [run_bind, run_expectSymbol, List.headD_cons, if_pos rfl, List.drop_succ_cons, List.drop_zero]
  dsimp only
  rw [run_bind, noQuery.attempt]

theorem subexpr_literal {value : Operand} (filled : value.isFilled) {front rest : List Lexeme}
    (spelled : front.map (·.token) = literalTokens value) (ends : Closes rest) {fuel depth floor : Nat}
    (enough : 4 * front.length + 5 ≤ fuel) (deep : value.nesting + 2 ≤ depth) (above : 10 ≤ floor) :
    subexpr fuel depth floor (front ++ rest) = .ok (literalRead value, rest) := by
  obtain ⟨fuel, rfl⟩ := Nat.exists_eq_add_of_le' (by omega : 2 ≤ fuel)
  obtain ⟨depth, rfl⟩ := Nat.exists_eq_add_of_le' (by omega : 1 ≤ depth)
  have read := primary_literal value filled spelled ends (by omega : 4 * front.length + 4 ≤ fuel + 1)
    (by omega : value.nesting + 1 ≤ depth)
  exact subexpr_operand read fun t u => (ends.precedence t u).trans above

/-- The tokens of a list that a column is looked up in, one behind the other. -/
theorem exists_inLexemes {word : String} {inside : List Token} {front : List Lexeme} (spelled :
    front.map (·.token) = .word word :: .word "IN" :: .symbol "(" :: (inside ++ [.symbol ")"])) :
    ∃ items pos pos' opening closing, items.map (·.token) = inside ∧ front =
      ⟨.word word, pos⟩ :: ⟨.word "IN", pos'⟩ :: ⟨.symbol "(", opening⟩ :: (items ++ [⟨.symbol ")", closing⟩]) := by
  obtain ⟨⟨_, pos⟩, _, rfl, rfl, behind⟩ := List.map_eq_cons_iff.mp spelled
  obtain ⟨⟨_, pos'⟩, _, rfl, rfl, behind'⟩ := List.map_eq_cons_iff.mp behind
  obtain ⟨⟨_, opening⟩, _, rfl, rfl, list⟩ := List.map_eq_cons_iff.mp behind'
  obtain ⟨items, _, rfl, spelledItems, last⟩ := List.map_eq_append_iff.mp list
  obtain ⟨⟨_, closing⟩, rfl, rfl⟩ := List.map_eq_singleton_iff.mp last
  exact ⟨items, pos, pos', opening, closing, spelledItems, rfl⟩

/-- The tokens of an inequality, one behind the other. -/
theorem exists_notEqLexemes {word : String} {inside : List Token} {front : List Lexeme} (spelled :
    front.map (·.token) = .symbol "(" :: .word word :: .symbol "<>" :: (inside ++
      [.word "OR", .word word, .word "IS", .word "NULL", .symbol ")"])) :
    ∃ value opening pos pos' or pos'' is missing closing, value.map (·.token) = inside ∧ front =
      ⟨.symbol "(", opening⟩ :: ⟨.word word, pos⟩ :: ⟨.symbol "<>", pos'⟩ :: (value ++ [⟨.word "OR", or⟩,
        ⟨.word word, pos''⟩, ⟨.word "IS", is⟩, ⟨.word "NULL", missing⟩, ⟨.symbol ")", closing⟩]) := by
  obtain ⟨⟨_, opening⟩, _, rfl, rfl, behind⟩ := List.map_eq_cons_iff.mp spelled
  obtain ⟨⟨_, pos⟩, _, rfl, rfl, behind'⟩ := List.map_eq_cons_iff.mp behind
  obtain ⟨⟨_, pos'⟩, _, rfl, rfl, compared⟩ := List.map_eq_cons_iff.mp behind'
  obtain ⟨value, _, rfl, spelledValue, test⟩ := List.map_eq_append_iff.mp compared
  obtain ⟨⟨_, or⟩, _, rfl, rfl, test'⟩ := List.map_eq_cons_iff.mp test
  obtain ⟨⟨_, pos''⟩, _, rfl, rfl, null⟩ := List.map_eq_cons_iff.mp test'
  obtain ⟨⟨_, is⟩, _, rfl, rfl, null'⟩ := List.map_eq_cons_iff.mp null
  obtain ⟨⟨_, missing⟩, _, rfl, rfl, last⟩ := List.map_eq_cons_iff.mp null'
  obtain ⟨⟨_, closing⟩, rfl, rfl⟩ := List.map_eq_singleton_iff.mp last
  exact ⟨value, opening, pos, pos', or, pos'', is, missing, closing, spelledValue, rfl⟩

/-- The tokens of a comparison, one behind the other. -/
theorem exists_comparisonLexemes {word name : String} {inside : List Token} {front : List Lexeme}
    (spelled : front.map (·.token) = .word word :: .symbol name :: inside) :
    ∃ value pos pos', value.map (·.token) = inside ∧ front = ⟨.word word, pos⟩ :: ⟨.symbol name, pos'⟩ :: value := by
  obtain ⟨⟨_, pos⟩, _, rfl, rfl, behind⟩ := List.map_eq_cons_iff.mp spelled
  obtain ⟨⟨_, pos'⟩, value, rfl, rfl, spelledValue⟩ := List.map_eq_cons_iff.mp behind
  exact ⟨value, pos, pos', spelledValue, rfl⟩

def comparisons : List String := ["=", "<>", "<", ">", "<=", ">="]

theorem comparison_precedence {name : String} (known : name ∈ comparisons) (t u : Token) :
    precedenceOf (.symbol name) t u = 20 := by
  simp only [comparisons, List.mem_cons, List.not_mem_nil, or_false] at known
  rcases known with rfl | rfl | rfl | rfl | rfl | rfl <;> rfl

theorem joined_comparison {name : String} (known : name ∈ comparisons) (pos : Option Position) {value : Operand}
    {front rest : List Lexeme} (spelled : front.map (·.token) = literalTokens value) {fuel depth : Nat} {left : Expr} :
    joined (fuel + 1) depth 20 left (⟨.symbol name, pos⟩ :: (front ++ rest)) =
      (subexpr fuel depth 20 >>= fun right => pure (.binary name left right)) (front ++ rest) := by
  obtain ⟨t, more, first, keyword, -⟩ := literal_begins value
  have binary : ∀ name ∈ comparisons, (binarySymbols.contains name || binaryWords.contains "") = true := by decide
  have unquantified : ∀ w ∈ literalWords, w ∉ ["ANY", "ALL", "SOME"] := by decide
  refine joined_binary_eq fuel depth 20 name pos rfl (binary name known) (show "" ≠ "OPERATOR" by decide) ?_
  rw [headD_spelled rest (spelled.trans first)]
  exact unquantified _ keyword

/-- A comparison with a literal takes up the literal and nothing behind it. -/
theorem infixes_comparison {value : Operand} (filled : value.isFilled) {name : String} (known : name ∈ comparisons)
    {front rest : List Lexeme} {pos : Option Position} (spelled : front.map (·.token) = literalTokens value)
    (ends : Closes rest) {fuel depth floor : Nat} (enough : 4 * front.length + 6 ≤ fuel)
    (deep : value.nesting + 2 ≤ depth) (below : floor ≤ 10) (left : Expr) :
    infixes (fuel + 1) depth floor left (⟨.symbol name, pos⟩ :: (front ++ rest)) =
      infixes fuel depth floor (.binary name left (literalRead value)) rest := by
  obtain ⟨fuel, rfl⟩ := Nat.exists_eq_add_of_le' (by omega : 1 ≤ fuel)
  refine infixes_step (fuel + 1) depth (comparison_precedence known) (by omega) ?_
  rw [joined_comparison known pos spelled, run_bind,
    subexpr_literal filled spelled ends (by omega) deep (by decide)]
  rfl

/-- A word, and then whatever is said about it. -/
theorem subexpr_word {p : String} {e : Expr} (operand : IsOperand p e) {s : List Lexeme} (stops : Stops s)
    {fuel depth floor : Nat} (pos : Option Position) (enough : 4 ≤ fuel) :
    subexpr (fuel + 1) (depth + 1) floor (⟨.word p, pos⟩ :: s) = infixes fuel depth floor e s := by
  obtain ⟨fuel, rfl⟩ := Nat.exists_eq_add_of_le' enough
  exact subexpr_primary (operand.read fuel depth pos stops)

theorem stops_comparison {name : String} (known : name ∈ comparisons) (pos : Option Position) (s : List Lexeme) :
    Stops (⟨.symbol name, pos⟩ :: s) := by
  have included : ∀ name ∈ comparisons, Token.symbol name ∈ stops := by decide
  exact included name known

variable {c : Criterion} {p : Expr}

/-- A condition with a comparison in its middle. -/
theorem subexpr_comparison (operand : IsOperand c.property p) (filled : c.value.isFilled) {name : String}
    (known : name ∈ comparisons) {front rest : List Lexeme}
    (spelled : front.map (·.token) = .word c.property :: .symbol name :: literalTokens c.value)
    (ends : Closes rest) {fuel depth floor : Nat} (enough : 4 * front.length + 10 ≤ fuel)
    (deep : c.value.nesting + 3 ≤ depth) (below : floor ≤ 10) :
    ∃ n, fuel ≤ n + 2 ∧ subexpr fuel depth floor (front ++ rest) =
      infixes n (depth - 1) floor (.binary name p (literalRead c.value)) rest := by
  obtain ⟨fuel, rfl⟩ := Nat.exists_eq_add_of_le' (by omega : 2 ≤ fuel)
  obtain ⟨depth, rfl⟩ := Nat.exists_eq_add_of_le' (by omega : 1 ≤ depth)
  obtain ⟨value, pos, pos', spelledValue, rfl⟩ := exists_comparisonLexemes spelled
  simp only [List.length_cons] at enough
  refine ⟨fuel, le_rfl, ?_⟩
  simp only [List.cons_append]
  rw [subexpr_word operand (stops_comparison known pos' _) pos (by omega)]
  exact infixes_comparison filled known spelledValue ends (by omega) (by omega) below _

theorem subexpr_like (operand : IsOperand c.property p) {pattern : String}
    {front rest : List Lexeme} (spelled : front.map (·.token) = [.word c.property, .word "LIKE", .text pattern])
    (ends : Closes rest) {fuel depth floor : Nat} (enough : 4 * front.length + 10 ≤ fuel) (deep : 2 ≤ depth)
    (below : floor ≤ 10) : ∃ n, fuel ≤ n + 2 ∧ subexpr fuel depth floor (front ++ rest) =
      infixes n (depth - 1) floor (.like p (.text pattern) false) rest := by
  obtain ⟨fuel, rfl⟩ := Nat.exists_eq_add_of_le' (by omega : 9 ≤ fuel)
  obtain ⟨depth, rfl⟩ := Nat.exists_eq_add_of_le' (by omega : 2 ≤ depth)
  obtain ⟨⟨_, pos⟩, _, rfl, rfl, behind⟩ := List.map_eq_cons_iff.mp spelled
  obtain ⟨⟨_, pos'⟩, _, rfl, rfl, last⟩ := List.map_eq_cons_iff.mp behind
  obtain ⟨⟨_, pos''⟩, rfl, rfl⟩ := List.map_eq_singleton_iff.mp last
  have stops : Stops (⟨.word "LIKE", pos'⟩ :: ⟨.text pattern, pos''⟩ :: rest) :=
    (by decide : Token.word "LIKE" ∈ Grammar.stops)
  have read : subexpr (fuel + 5) (depth + 1) 19 (⟨.text pattern, pos''⟩ :: rest) = .ok (.text pattern, rest) :=
    subexpr_operand (primary_text (fuel + 1) depth pos'' ends.stops) fun t u =>
      (ends.precedence t u).trans (by decide)
  refine ⟨fuel + 7, le_rfl, ?_⟩
  simp only [List.cons_append, List.nil_append]
  rw [subexpr_word operand stops pos (by omega)]
  refine infixes_step (fuel + 7) (depth + 1) (p := 19) (fun t u => rfl) (by omega) ?_
  rw [joined_matched (fuel + 6) (depth + 1) 19 pos' (.inl rfl)]
  exact matched_like (fuel + 5) (depth + 1) pos' (show "" ≠ "ANY" by decide) read ends.stops

theorem subexpr_in (operand : IsOperand c.property p) (filled : c.value.isFilled) {front rest : List Lexeme}
    (spelled : front.map (·.token) =
      .word c.property :: .word "IN" :: .symbol "(" :: (commas (c.value.items.map literalTokens) ++ [.symbol ")"]))
    {fuel depth floor : Nat} (enough : 4 * front.length + 10 ≤ fuel) (deep : c.value.nesting + 3 ≤ depth)
    (below : floor ≤ 10) : ∃ n, fuel ≤ n + 2 ∧ subexpr fuel depth floor (front ++ rest) =
      infixes n (depth - 1) floor (.isIn p (literalsRead c.value.items) false) rest := by
  obtain ⟨fuel, rfl⟩ := Nat.exists_eq_add_of_le' (by omega : 7 ≤ fuel)
  obtain ⟨depth, rfl⟩ := Nat.exists_eq_add_of_le' (by omega : 1 ≤ depth)
  obtain ⟨shallow, itemsFilled⟩ := c.value.items_facts
  obtain ⟨nonempty, filledItems⟩ := itemsFilled filled
  obtain ⟨items, pos, pos', opening, closing, spelledItems, rfl⟩ := exists_inLexemes spelled
  simp only [List.length_cons, List.length_append, List.length_nil] at enough
  have read : commaSeparated (fuel + 2) depth (items ++ ⟨.symbol ")", closing⟩ :: rest) =
      .ok (literalsRead c.value.items, ⟨.symbol ")", closing⟩ :: rest) :=
    commaSeparated_literals _ nonempty filledItems spelledItems (by omega) (by omega)
  have noQuery : Refuses (queryBody (fuel + 2) depth (items ++ ⟨.symbol ")", closing⟩ :: rest)) :=
    queryBody_items _ spelledItems (by omega) (by omega)
  have stops : ∀ s, Stops (⟨.word "IN", pos'⟩ :: s) := fun s => (by decide : Token.word "IN" ∈ Grammar.stops)
  refine ⟨fuel + 5, le_rfl, ?_⟩
  simp only [List.cons_append, List.append_assoc, List.nil_append]
  rw [subexpr_word operand (stops _) pos (by omega)]
  refine infixes_step (fuel + 5) depth (p := 20) (fun t u => rfl) (by omega) ?_
  rw [joined_matched (fuel + 4) depth 20 pos' (.inr rfl)]
  rw [matched_in_eq fuel depth pos' opening noQuery, run_bind, read]
  rfl

/-- The test for a missing value, up to the parenthesis behind it, joins what stands before it. -/
theorem infixes_orMissing {word : String} (operand : IsOperand word p) (or pos is missing closing : Option Position)
    {rest : List Lexeme} (fuel depth : Nat) (left : Expr) :
    infixes (fuel + 8) (depth + 1) 0 left (⟨.word "OR", or⟩ :: ⟨.word word, pos⟩ :: ⟨.word "IS", is⟩ ::
      ⟨.word "NULL", missing⟩ :: ⟨.symbol ")", closing⟩ :: rest) =
        .ok (.binary "OR" left (.isNull p false), ⟨.symbol ")", closing⟩ :: rest) := by
  let after : List Lexeme := ⟨.symbol ")", closing⟩ :: rest
  let test : List Lexeme := ⟨.word "IS", is⟩ :: ⟨.word "NULL", missing⟩ :: after
  have isStops : Stops test := (by decide : Token.word "IS" ∈ Grammar.stops)
  have noCondition (e : Expr) (n d : Nat) {floor : Nat} : infixes (n + 1) d floor e after = .ok (e, after) :=
    infixes_stop n d e fun t u => Nat.zero_le floor
  have missingValue : subexpr (fuel + 6) (depth + 1) 5 (⟨.word word, pos⟩ :: test) = .ok (.isNull p false, after) := by
    rw [subexpr_word operand isStops pos (by omega)]
    rw [infixes_step (fuel + 4) depth (p := 17) (fun t u => rfl) (by omega)
      (joined_isNull (fuel + 2) depth 17 is missing)]
    exact noCondition _ _ _
  rw [infixes_step (fuel + 7) (depth + 1) (p := 5) (fun t u => rfl) (by omega)
    (joined_binary (fuel + 6) (depth + 1) 5 "OR" or (by decide) (by decide) (by decide) ?unquantified missingValue)]
  case unquantified => exact operand.unmarked.unquantified
  exact noCondition _ _ _

/-- Inequality is read inside its own parentheses, where the test for a missing value joins it. -/
theorem subexpr_notEq (operand : IsOperand c.property p) (filled : c.value.isFilled) {front rest : List Lexeme}
    (spelled : front.map (·.token) = .symbol "(" :: .word c.property :: .symbol "<>" :: (literalTokens c.value ++
      [.word "OR", .word c.property, .word "IS", .word "NULL", .symbol ")"]))
    (ends : Closes rest) {fuel depth floor : Nat} (enough : 4 * front.length + 10 ≤ fuel)
    (deep : c.value.nesting + 4 ≤ depth) : ∃ n, fuel ≤ n + 2 ∧ subexpr fuel depth floor (front ++ rest) =
      infixes n (depth - 1) floor (.nested (.binary "OR" (.binary "<>" p (literalRead c.value)) (.isNull p false)))
        rest := by
  obtain ⟨value, opening, pos, pos', or, pos'', is, missing, closing, spelledValue, rfl⟩ := exists_notEqLexemes spelled
  simp only [List.length_cons, List.length_append, List.length_nil] at enough
  obtain ⟨fuel, rfl⟩ := Nat.exists_eq_add_of_le' (by omega : 14 ≤ fuel)
  obtain ⟨depth, rfl⟩ := Nat.exists_eq_add_of_le' (by omega : 3 ≤ depth)
  let after : List Lexeme := ⟨.symbol ")", closing⟩ :: rest
  let test : List Lexeme := ⟨.word "OR", or⟩ :: ⟨.word c.property, pos''⟩ :: ⟨.word "IS", is⟩ ::
    ⟨.word "NULL", missing⟩ :: after
  have orCloses : Closes test := (by decide : Token.word "OR" ∈ closes)
  have notEqual : subexpr (fuel + 10) (depth + 2) 0 (⟨.word c.property, pos⟩ :: ⟨.symbol "<>", pos'⟩ ::
      (value ++ test)) = .ok (.binary "OR" (.binary "<>" p (literalRead c.value)) (.isNull p false), after) := by
    rw [subexpr_word operand (stops_comparison (by decide) pos' _) pos (by omega),
      infixes_comparison filled (by decide) spelledValue orCloses (by omega) (by omega) (by omega)]
    exact infixes_orMissing operand or pos'' is missing closing fuel depth _
  have inParentheses := primary_opening (fuel + 10) (depth + 2) opening ends.stops
    (parenthesized_run ?noQuery (commaSeparated_last notEqual (by simp)) ends.stops)
  case noQuery => exact operand.unmarked.noQuery
  refine ⟨fuel + 13, by omega, ?_⟩
  simp only [List.cons_append, List.append_assoc, List.nil_append]
  exact subexpr_primary inParentheses

theorem subexpr_condition (operand : IsOperand c.property p) (filled : c.isFilled) {front rest : List Lexeme}
    (spelled : front.map (·.token) = conditionTokens c) (ends : Closes rest) {fuel depth floor : Nat}
    (enough : 4 * front.length + 10 ≤ fuel) (deep : c.value.nesting + 4 ≤ depth) (below : floor ≤ 10) :
    ∃ n, fuel ≤ n + 2 ∧ subexpr fuel depth floor (front ++ rest) =
      infixes n (depth - 1) floor (conditionOn p c) rest := by
  have known : ∀ op ∈ [Operator.eq, .lt, .gt, .ltEq, .gtEq], op.symbol ∈ comparisons := by decide
  have other := c.isFilled_of_ne filled
  unfold conditionTokens at spelled
  unfold conditionOn
  cases operator : c.operator <;> simp only [operator, List.cons_append, ne_eq, reduceCtorEq, not_false_eq_true,
    forall_const] at spelled other ⊢
  case eq | lt | gt | ltEq | gtEq =>
    exact subexpr_comparison operand other (known _ (by decide)) spelled ends enough (by omega) below
  case notEq => exact subexpr_notEq operand other spelled ends enough deep
  case like => exact subexpr_like operand spelled ends enough (by omega) below
  case isIn => exact subexpr_in operand other spelled enough (by omega) below

theorem condition_begins (unmarked : Unmarked (.word c.property)) :
    ∃ t more, conditionTokens c = t :: more ∧ Unmarked t := by
  unfold conditionTokens
  cases c.operator with
  | notEq => exact ⟨_, _, rfl, (by decide : (Token.symbol "(").keyword ∉ marks)⟩
  | _ => exact ⟨_, _, rfl, unmarked⟩

/-- A condition that is read as one expression, up to what closes behind it, where its lists are no more than some
levels deep. -/
structure ReadsAs (levels : Nat) (c : Criterion) (e : Expr) : Prop where
  begins : ∃ t more, conditionTokens c = t :: more ∧ Unmarked t
  read : ∀ {front rest : List Lexeme}, front.map (·.token) = conditionTokens c → Closes rest →
    ∀ {fuel depth floor : Nat}, 4 * front.length + 10 ≤ fuel → levels + 4 ≤ depth → floor ≤ 10 →
      ∃ n, fuel ≤ n + 2 ∧ subexpr fuel depth floor (front ++ rest) = infixes n (depth - 1) floor e rest

theorem IsOperand.readsAs (operand : IsOperand c.property p) (filled : c.isFilled) {levels : Nat}
    (shallow : c.value.nesting ≤ levels) : ReadsAs levels c (conditionOn p c) where
  begins := condition_begins operand.unmarked
  read spelled ends _ _ _ enough deep below :=
    subexpr_condition operand filled spelled ends enough (by omega) below

theorem ReadsAs.of_isPlain (plain : c.IsPlain) : ReadsAs 1 c (conditionTree c) := by
  obtain ⟨filled, shallow⟩ := plain.value.facts
  rw [conditionTree_eq plain.value]
  exact plain.column.isOperand.readsAs (by simp [Criterion.isFilled, filled]) shallow

end Grammar

end Sql

end AttributeStore
