import AttributeStore.Proofs.Sql.Types
import AttributeStore.Proofs.Sql.Words

/-! Clauses that are refused. A word that cannot stand alone fails as an operand, and an empty list where its first item
should be, whatever condition they are in; and nothing takes the failure back, neither in a junction nor in a group. -/
namespace AttributeStore.Sql

namespace Grammar

open Reader

/-- A failure of any kind. -/
def Fails (x : Except Fault α) : Prop := ∃ fault, x = .error fault

theorem Fails.of_refuses {x : Except Fault α} (refuses : Refuses x) : Fails x := refuses.imp fun _ failed => failed.1

theorem Fails.bind {x : Reader α} {f : α → Reader β} {s : List Lexeme} (fails : Fails (x s)) : Fails ((x >>= f) s) := by
  obtain ⟨fault, failed⟩ := fails
  exact ⟨fault, by rw [run_bind, failed]⟩

theorem Fails.attempt {p : Reader α} {s : List Lexeme} (fails : Fails (p s)) :
    attempt p s = .ok (none, s) ∨ Fails (attempt p s) := by
  obtain ⟨fault, failed⟩ := fails
  by_cases shallow : fault = .tooDeep
  · exact .inr ⟨.tooDeep, by simp [Reader.attempt, failed, shallow]⟩
  · exact .inl (Refuses.attempt ⟨fault, failed, shallow⟩)

variable {p : String} {rest : List Lexeme}

theorem special_unlisted (fuel depth : Nat) (pos : Option Position) (unlisted : (Token.word p).keyword ∈ unlistedWords)
    (ends : Stops rest) (untyped : Untyped rest) : Fails (special (fuel + 1) depth (⟨.word p, pos⟩ :: rest)) := by
  rw [special.eq_def]
  simp only [run_bind, run_next, List.headD_cons, List.drop_succ_cons, List.drop_zero]
  generalize (Token.word p).keyword = w at unlisted
  simp only [unlistedWords, List.mem_cons, List.not_mem_nil, or_false] at unlisted
  rcases unlisted with rfl | rfl
  case inl =>
    simp only [run_bind, run_peek]
    cases read : structTypes fuel rest with
    | error fault => exact ⟨fault, rfl⟩
    | ok result =>
      obtain ⟨closed, left⟩ := result
      obtain ⟨rfl, rfl⟩ := untyped fuel closed left read
      simp (disch := decide) only [Bool.false_eq_true, if_false, run_bind, ends.expectSymbol]
      exact ⟨_, rfl⟩
  case inr =>
    simp (disch := decide) only [run_bind, ends.expectSymbol]
    exact ⟨_, rfl⟩

theorem wordExpr_unlisted (fuel depth : Nat) (pos : Option Position) (unlisted : (Token.word p).keyword ∈ unlistedWords)
    (ends : Stops rest) (untyped : Untyped rest) : Fails (wordExpr (fuel + 2) depth (⟨.word p, pos⟩ :: rest)) := by
  obtain ⟨fault, failed⟩ := special_unlisted fuel depth pos unlisted ends untyped
  have never : ∀ w ∈ unlistedWords, neverNames.contains w := by decide
  refine ⟨fault, ?_⟩
  rw [wordExpr.eq_def]
  dsimp only
  rw [failed]
  dsimp only
  rw [List.headD_cons, if_pos (never _ unlisted)]

theorem namedType_structure (fuel : Nat) (l : Lexeme) (s : List Lexeme) :
    namedType (fuel + 1) "STRUCT" (l :: s) = match structTypes fuel s with
      | .ok (closed, left) => .ok ((some "STRUCT", closed), left)
      | .error fault => .error fault := by
  rw [namedType.eq_def]
  dsimp only
  rw [if_neg (by decide), if_neg (by decide)]
  show (next >>= fun _ => structTypes fuel >>= fun closed => pure (some "STRUCT", closed)) (l :: s) = _
  simp only [run_bind, run_next, List.drop_succ_cons, List.drop_zero]
  rcases structTypes fuel s with fault | ⟨closed, left⟩ <;> rfl

theorem typed_structure (fuel depth : Nat) (pos : Option Position) (structured : (Token.word p).keyword = "STRUCT")
    (ends : Stops rest) (untyped : Untyped rest) : Fails (typed (fuel + 3) depth (⟨.word p, pos⟩ :: rest)) := by
  rw [typed.eq_def]
  dsimp only
  rw [run_bind, dataType, run_bind, typeForm.eq_def]
  simp only [run_bind, run_peek, List.headD_cons, structured, namedType_structure]
  cases read : structTypes fuel rest with
  | error fault => exact ⟨fault, rfl⟩
  | ok result =>
    obtain ⟨closed, left⟩ := result
    obtain ⟨rfl, rfl⟩ := untyped fuel closed left read
    simp only [run_get, dimensions_none (ends.symbol (by decide)), if_true, run_pure, Bool.false_eq_true, if_false]
    exact Fails.bind (.of_refuses ends.typedText)

theorem primary_unlisted (fuel depth : Nat) (pos : Option Position) (unlisted : (Token.word p).keyword ∈ unlistedWords)
    (ends : Stops rest) (untyped : Untyped rest) : Fails (primary (fuel + 4) depth (⟨.word p, pos⟩ :: rest)) := by
  have typed : Fails (typed (fuel + 3) depth (⟨.word p, pos⟩ :: rest)) := by
    by_cases structured : (Token.word p).keyword = "STRUCT"
    case pos => exact typed_structure fuel depth pos structured ends untyped
    case neg =>
      refine .of_refuses (typed_word fuel depth pos ?_ ends)
      revert unlisted structured
      generalize (Token.word p).keyword = w
      revert w
      decide
  rw [primary.eq_def]
  dsimp only
  rcases typed.attempt with untypedWord | fails
  · rw [run_bind, untypedWord]
    dsimp only
    rw [run_bind, run_peek]
    exact Fails.bind (wordExpr_unlisted (fuel + 1) depth pos unlisted ends untyped)
  · exact fails.bind

theorem subexpr_fails {fuel depth floor : Nat} {s : List Lexeme} (fails : Fails (primary fuel depth s)) :
    Fails (subexpr (fuel + 1) (depth + 1) floor s) := by
  rw [subexpr.eq_def]
  exact fails.bind

theorem commaSeparated_fails {fuel depth : Nat} {s : List Lexeme} (fails : Fails (subexpr fuel depth 0 s)) :
    Fails (commaSeparated (fuel + 1) depth s) := by
  rw [commaSeparated.eq_def]
  exact fails.bind

theorem parenthesized_fails {fuel depth : Nat} {s : List Lexeme}
    (noQuery : (s.headD endOfText).token.keyword ≠ "SELECT" ∧ (s.headD endOfText).token.keyword ≠ "WITH")
    (fails : Fails (commaSeparated fuel depth s)) : Fails (parenthesized (fuel + 1) depth s) := by
  rw [parenthesized.eq_def]
  dsimp only
  rw [run_bind, run_peek]
  dsimp only
  refine Fails.bind ?_
  rw [if_neg (not_or.mpr noQuery)]
  exact fails.bind

theorem primary_opening_fails {fuel depth : Nat} {s : List Lexeme} (pos : Option Position)
    (fails : Fails (parenthesized (fuel + 2) depth s)) :
    Fails (primary (fuel + 3) depth (⟨.symbol "(", pos⟩ :: s)) := by
  rw [primary.eq_def]
  dsimp only
  rw [run_bind, (typed_other fuel depth pos (by simp)).attempt]
  dsimp only
  rw [run_bind, run_peek]
  refine Fails.bind ?_
  show Fails ((next >>= fun _ => parenthesized (fuel + 2) depth) _)
  rw [run_bind, run_next]
  exact fails

/-- A condition that is refused wherever it stands in a clause, where its lists are no more than some levels deep. -/
structure IsRefused (levels : Nat) (c : Criterion) : Prop where
  begins : ∃ t more, conditionTokens c = t :: more ∧ Unmarked t
  fails : ∀ {front rest : List Lexeme}, front.map (·.token) = conditionTokens c → Follows rest →
    ∀ {fuel depth floor : Nat}, 4 * front.length + 10 ≤ fuel → levels + 4 ≤ depth → floor ≤ 10 →
      Fails (subexpr fuel depth floor (front ++ rest))

variable {c : Criterion} {levels : Nat}

/-- A condition of which it is known whether it is read, and as what. -/
def Settled (levels : Nat) (tree : Criterion → Expr) (c : Criterion) : Prop :=
  ReadsAs levels c (tree c) ∨ IsRefused levels c

theorem Settled.begins {tree : Criterion → Expr} (settled : Settled levels tree c) :
    ∃ t more, conditionTokens c = t :: more ∧ Unmarked t := settled.elim (·.begins) (·.begins)

theorem subexpr_unlisted (unlisted : (Token.word p).keyword ∈ unlistedWords) (ends : Stops rest)
    (untyped : Untyped rest) (pos : Option Position) {fuel depth floor : Nat} (enough : 5 ≤ fuel) (deep : 1 ≤ depth) :
    Fails (subexpr fuel depth floor (⟨.word p, pos⟩ :: rest)) := by
  obtain ⟨fuel, rfl⟩ := Nat.exists_eq_add_of_le' enough
  obtain ⟨depth, rfl⟩ := Nat.exists_eq_add_of_le' deep
  exact subexpr_fails (primary_unlisted fuel depth pos unlisted ends untyped)

theorem isRefused_of_unlisted (unlisted : (Token.word c.property).keyword ∈ unlistedWords) {subject text : String}
    (written : condition subject c = .ok text) : IsRefused levels c := by
  have unmarked : ∀ w ∈ unlistedWords, w ∉ marks := by decide
  have begins : Unmarked (.word c.property) := unmarked _ unlisted
  refine ⟨condition_begins begins, fun {front rest} spelled follows {fuel depth floor} enough deep _ => ?_⟩
  have operators : ∀ t ∈ [Token.symbol "=", .symbol "<", .symbol ">", .symbol "<=", .symbol ">=", .word "LIKE",
    .word "IN"], t ∈ stops := by decide
  have ends {t : Token} (known : t ∈ _) (pos : Option Position) (s : List Lexeme) : Stops (⟨t, pos⟩ :: s) :=
    operators t known
  unfold conditionTokens at spelled
  unfold condition at written
  cases operator : c.operator <;> simp only [operator, List.cons_append] at spelled written
  case notEq =>
    -- inside its parentheses an inequality begins with the column, too
    obtain ⟨value, opening, pos, pos', _, _, _, _, _, -, rfl⟩ := exists_notEqLexemes spelled
    simp only [List.length_cons] at enough
    obtain ⟨fuel, rfl⟩ := Nat.exists_eq_add_of_le' (by omega : 11 ≤ fuel)
    obtain ⟨depth, rfl⟩ := Nat.exists_eq_add_of_le' (by omega : 2 ≤ depth)
    refine subexpr_fails (primary_opening_fails opening (parenthesized_fails begins.noQuery ?_))
    refine commaSeparated_fails (subexpr_unlisted unlisted ?_ (.of_ne (by simp)) pos (by omega) (by omega))
    exact stops_comparison (by decide) pos' _
  case lt =>
    obtain ⟨value, pos, pos', spelledValue, rfl⟩ := exists_comparisonLexemes spelled
    simp only [List.length_cons] at enough
    have untyped : Untyped (⟨.symbol "<", pos'⟩ :: (value ++ rest)) := by
      refine untyped_ordered (fun s same => ?_) (fun items same => ?_) spelledValue pos' follows <;>
        simp [same] at written
    exact subexpr_unlisted unlisted (ends (by decide) pos' _) untyped pos (by omega) (by omega)
  all_goals
    obtain ⟨⟨_, pos⟩, _, rfl, rfl, behind⟩ := List.map_eq_cons_iff.mp spelled
    obtain ⟨⟨_, pos'⟩, _, rfl, rfl, -⟩ := List.map_eq_cons_iff.mp behind
    simp only [List.length_cons] at enough
    exact subexpr_unlisted unlisted (ends (by decide) pos' _) (.of_ne (by simp [Operator.symbol])) pos (by omega)
      (by omega)

variable {tree : Criterion → Expr}

theorem subexpr_closing_fails {s : List Lexeme} (pos : Option Position) {fuel depth floor : Nat} (enough : 4 ≤ fuel)
    (deep : 1 ≤ depth) : Fails (subexpr fuel depth floor (⟨.symbol ")", pos⟩ :: s)) := by
  obtain ⟨fuel, rfl⟩ := Nat.exists_eq_add_of_le' enough
  obtain ⟨depth, rfl⟩ := Nat.exists_eq_add_of_le' deep
  refine subexpr_fails ?_
  rw [primary.eq_def]
  dsimp only
  rw [run_bind, (typed_other fuel depth pos (by simp)).attempt]
  exact ⟨_, rfl⟩

theorem commaSeparated_more_fails {fuel depth : Nat} {s left : List Lexeme} {e : Expr} {pos : Option Position}
    (read : subexpr fuel depth 0 s = .ok (e, ⟨.symbol ",", pos⟩ :: left))
    (fails : Fails (commaSeparated fuel depth left)) : Fails (commaSeparated (fuel + 1) depth s) := by
  rw [commaSeparated.eq_def]
  dsimp only
  rw [run_bind, read]
  dsimp only
  rw [run_bind, run_sawSymbol, List.headD_cons, if_pos rfl]
  simp only [if_true, List.drop_succ_cons, List.drop_zero]
  exact fails.bind

mutual

/-- A literal with an empty list in it fails where the list should have its first item. -/
theorem primary_unfilled (value : Operand) (unfilled : value.isFilled = false) {front rest : List Lexeme}
    (spelled : front.map (·.token) = literalTokens value) {fuel depth : Nat} (enough : 4 * front.length + 4 ≤ fuel)
    (deep : value.nesting + 1 ≤ depth) : Fails (primary fuel depth (front ++ rest)) :=
  match value with
  | .bool _ | .int _ | .float _ | .str _ => by simp [Operand.isFilled] at unfilled
  | .list items => by
    obtain ⟨inside, opening, pos, spelledItems, rfl⟩ := exists_listLexemes spelled
    simp only [List.length_cons, List.length_append, List.length_nil] at enough
    rw [Operand.nesting] at deep
    obtain ⟨fuel, rfl⟩ := Nat.exists_eq_add_of_le' (by omega : 3 ≤ fuel)
    simp only [List.cons_append, List.append_assoc, List.nil_append]
    refine primary_opening_fails opening (parenthesized_fails ?_ ?_)
    · exact noQuery_of_notMem (items_noQuery spelledItems pos rest)
    · exact commaSeparated_unfilled items unfilled spelledItems (by omega) (by omega)

theorem commaSeparated_unfilled (items : List Operand) (unfilled : (Operand.list items).isFilled = false)
    {front rest : List Lexeme} {pos : Option Position}
    (spelled : front.map (·.token) = commas (items.map literalTokens)) {fuel depth : Nat}
    (enough : 4 * front.length + 6 ≤ fuel) (deep : Operand.nestings items + 2 ≤ depth) :
    Fails (commaSeparated fuel depth (front ++ ⟨.symbol ")", pos⟩ :: rest)) :=
  match items with
  | [] => by
    obtain rfl : front = [] := List.map_eq_nil_iff.mp spelled
    obtain ⟨fuel, rfl⟩ := Nat.exists_eq_add_of_le' (by omega : 1 ≤ fuel)
    exact commaSeparated_fails (subexpr_closing_fails pos (by omega) (by omega))
  | [v] => by
    simp only [List.map_cons, List.map_nil, commas] at spelled
    simp only [Operand.nestings, Nat.max_zero] at deep
    have own : v.isFilled = false := by simpa [Operand.isFilled, Operand.areFilled] using unfilled
    obtain ⟨fuel, rfl⟩ := Nat.exists_eq_add_of_le' (by omega : 2 ≤ fuel)
    obtain ⟨depth, rfl⟩ := Nat.exists_eq_add_of_le' (by omega : 1 ≤ depth)
    exact commaSeparated_fails (subexpr_fails (primary_unfilled v own spelled (by omega) (by omega)))
  | v :: w :: items => by
    simp only [Operand.nestings] at deep
    obtain ⟨front, others, rfl, spelledOwn, behind⟩ := List.map_eq_append_iff.mp spelled
    obtain ⟨⟨_, comma⟩, others, rfl, rfl, spelledOthers⟩ := List.map_eq_cons_iff.mp behind
    simp only [List.length_append, List.length_cons] at enough
    obtain ⟨fuel, rfl⟩ := Nat.exists_eq_add_of_le' (by omega : 3 ≤ fuel)
    obtain ⟨depth, rfl⟩ := Nat.exists_eq_add_of_le' (by omega : 1 ≤ depth)
    rw [List.append_assoc]
    cases own : v.isFilled
    case false =>
      exact commaSeparated_fails (subexpr_fails (primary_unfilled v own spelledOwn (by omega) (by omega)))
    case true =>
      let left := others ++ ⟨.symbol ")", pos⟩ :: rest
      have separator : Closes (⟨.symbol ",", comma⟩ :: left) := (by decide : Token.symbol "," ∈ closes)
      have read : subexpr (fuel + 2) (depth + 1) 0 (front ++ ⟨.symbol ",", comma⟩ :: left) =
          .ok (literalRead v, ⟨.symbol ",", comma⟩ :: left) :=
        subexpr_operand (primary_literal v own spelledOwn separator (by omega) (by omega)) fun t u => Nat.le_refl 0
      refine commaSeparated_more_fails read ?_
      refine commaSeparated_unfilled (w :: items) ?_ spelledOthers (by omega) (by simp only [Operand.nestings]; omega)
      simpa [Operand.isFilled, Operand.areFilled, own] using unfilled

end

theorem infixes_fails {s : List Lexeme} {fuel depth floor p : Nat} {e : Expr}
    (tight : ∀ t u, precedenceOf (s.headD endOfText).token t u = p) (binds : floor < p)
    (fails : Fails (joined fuel depth p e s)) : Fails (infixes (fuel + 1) depth floor e s) := by
  rw [infixes.eq_def]
  simp only [run_bind, run_peekAt, peekAt_zero, tight]
  rw [if_pos binds]
  exact fails.bind

theorem infixes_comparison_fails {value : Operand} (unfilled : value.isFilled = false) {name : String}
    (known : name ∈ comparisons) {front rest : List Lexeme} {pos : Option Position}
    (spelled : front.map (·.token) = literalTokens value) {fuel depth floor : Nat}
    (enough : 4 * front.length + 6 ≤ fuel) (deep : value.nesting + 2 ≤ depth) (below : floor ≤ 10) (left : Expr) :
    Fails (infixes (fuel + 1) depth floor left (⟨.symbol name, pos⟩ :: (front ++ rest))) := by
  obtain ⟨fuel, rfl⟩ := Nat.exists_eq_add_of_le' (by omega : 2 ≤ fuel)
  obtain ⟨depth, rfl⟩ := Nat.exists_eq_add_of_le' (by omega : 1 ≤ depth)
  refine infixes_fails (comparison_precedence known) (by omega) ?_
  rw [joined_comparison known pos spelled]
  exact Fails.bind (subexpr_fails (primary_unfilled value unfilled spelled (by omega) (by omega)))

theorem subexpr_comparison_fails {e : Expr} (operand : IsOperand p e) {value : Operand}
    (unfilled : value.isFilled = false) {name : String} (known : name ∈ comparisons) {front rest : List Lexeme}
    (spelled : front.map (·.token) = literalTokens value) (pos pos' : Option Position) {fuel depth floor : Nat}
    (enough : 4 * front.length + 8 ≤ fuel) (deep : value.nesting + 3 ≤ depth) (below : floor ≤ 10) :
    Fails (subexpr fuel depth floor (⟨.word p, pos⟩ :: ⟨.symbol name, pos'⟩ :: (front ++ rest))) := by
  obtain ⟨fuel, rfl⟩ := Nat.exists_eq_add_of_le' (by omega : 6 ≤ fuel)
  obtain ⟨depth, rfl⟩ := Nat.exists_eq_add_of_le' (by omega : 1 ≤ depth)
  rw [subexpr_word operand (stops_comparison known pos' _) pos (by omega)]
  exact infixes_comparison_fails unfilled known spelled (by omega) (by omega) below e

theorem subexpr_in_fails {e : Expr} (operand : IsOperand p e) {items : List Operand}
    (unfilled : (Operand.list items).isFilled = false) {front rest : List Lexeme}
    (spelled : front.map (·.token) = commas (items.map literalTokens)) (pos pos' opening closing : Option Position)
    {fuel depth floor : Nat} (enough : 4 * front.length + 14 ≤ fuel) (deep : Operand.nestings items + 5 ≤ depth)
    (below : floor ≤ 10) :
    Fails (subexpr fuel depth floor (⟨.word p, pos⟩ :: ⟨.word "IN", pos'⟩ :: ⟨.symbol "(", opening⟩ ::
      (front ++ ⟨.symbol ")", closing⟩ :: rest))) := by
  obtain ⟨fuel, rfl⟩ := Nat.exists_eq_add_of_le' (by omega : 7 ≤ fuel)
  obtain ⟨depth, rfl⟩ := Nat.exists_eq_add_of_le' (by omega : 1 ≤ depth)
  have stops : ∀ s, Stops (⟨.word "IN", pos'⟩ :: s) := fun s => (by decide : Token.word "IN" ∈ Grammar.stops)
  have noQuery : Refuses (queryBody (fuel + 2) depth (front ++ ⟨.symbol ")", closing⟩ :: rest)) :=
    queryBody_items items spelled (by omega) (by omega)
  rw [subexpr_word operand (stops _) pos (by omega)]
  refine infixes_fails (p := 20) (fun t u => rfl) (by omega) ?_
  rw [joined_matched (fuel + 4) depth 20 pos' (.inr rfl), matched_in_eq fuel depth pos' opening noQuery]
  exact Fails.bind (commaSeparated_unfilled items unfilled spelled (by omega) (by omega))

/-- A condition lacks the values that it needs. -/
theorem isRefused_of_unfilled {e : Expr} (operand : IsOperand c.property e) (unfilled : c.isFilled = false)
    (shallow : c.value.nesting ≤ levels) : IsRefused levels c := by
  refine ⟨condition_begins operand.unmarked, fun {front rest} spelled _ {fuel depth floor} enough deep below => ?_⟩
  obtain ⟨other, empty⟩ : c.operator ≠ .like ∧ c.value.isFilled = false := by simpa [Criterion.isFilled] using unfilled
  have known : ∀ op ∈ [Operator.eq, .lt, .gt, .ltEq, .gtEq], op.symbol ∈ comparisons := by decide
  unfold conditionTokens at spelled
  cases operator : c.operator <;> simp only [operator, List.cons_append] at spelled
  case like => exact absurd operator other
  case isIn =>
    obtain ⟨front, pos, pos', opening, closing, spelledItems, rfl⟩ := exists_inLexemes spelled
    obtain ⟨items, listed⟩ : ∃ items, c.value = .list items := by
      cases value : c.value with
      | list items => exact ⟨items, rfl⟩
      | _ => simp [value, Operand.isFilled] at empty
    rw [listed, Operand.nesting] at shallow
    rw [listed, Operand.items] at spelledItems
    rw [listed] at empty
    simp only [List.length_cons, List.length_append, List.length_nil] at enough
    simp only [List.cons_append, List.append_assoc, List.nil_append]
    exact subexpr_in_fails operand empty spelledItems pos pos' opening closing (by omega) (by omega) below
  case notEq =>
    obtain ⟨value, opening, pos, pos', _, _, _, _, _, spelledValue, rfl⟩ := exists_notEqLexemes spelled
    simp only [List.length_cons, List.length_append] at enough
    obtain ⟨fuel, rfl⟩ := Nat.exists_eq_add_of_le' (by omega : 5 ≤ fuel)
    obtain ⟨depth, rfl⟩ := Nat.exists_eq_add_of_le' (by omega : 1 ≤ depth)
    simp only [List.cons_append, List.append_assoc]
    refine subexpr_fails (primary_opening_fails opening (parenthesized_fails operand.unmarked.noQuery ?_))
    exact commaSeparated_fails (subexpr_comparison_fails operand empty (by decide) spelledValue pos pos' (by omega)
      (by omega) (Nat.zero_le 10))
  all_goals
    obtain ⟨value, pos, pos', spelledValue, rfl⟩ := exists_comparisonLexemes spelled
    simp only [List.length_cons] at enough
    simp only [List.cons_append]
    exact subexpr_comparison_fails operand empty (known _ (by decide)) spelledValue pos pos' (by omega) (by omega) below

theorem Connective.joined_fails {word : String} {p : Nat} (known : Connective word p) {s : List Lexeme}
    {fuel depth : Nat} (left : Expr) (pos : Option Position)
    (unquantified : (s.headD endOfText).token.keyword ∉ ["ANY", "ALL", "SOME"])
    (fails : Fails (subexpr fuel depth p s)) :
    Fails (joined (fuel + 1) depth p left (⟨.word word, pos⟩ :: s)) := by
  rw [known.joined_eq fuel depth left pos unquantified]
  exact fails.bind

/-- Behind a condition stands the next connective, with a condition behind it, or what follows the junction. -/
theorem further_follows {word : String} {p : Nat} (known : Connective word p) {cs : List Criterion}
    {front rest : List Lexeme} (spelled : front.map (·.token) = furtherTokens word cs) (follows : Follows rest) :
    Follows (front ++ rest) := by
  cases cs with
  | nil =>
    obtain rfl : front = [] := List.map_eq_nil_iff.mp spelled
    exact follows
  | cons c cs =>
    obtain ⟨own, others, pos, spelledOwn, -, rfl⟩ := exists_furtherLexemes spelled
    refine known.follows pos ?_
    unfold conditionTokens at spelledOwn
    cases operator : c.operator <;> simp only [operator, List.cons_append] at spelledOwn
    case notEq =>
      obtain ⟨_, opening, _, _, _, _, _, _, _, -, rfl⟩ := exists_notEqLexemes spelledOwn
      exact .inr ⟨opening, _, rfl, fun left read => by cases read⟩
    all_goals
      obtain ⟨⟨_, column⟩, _, rfl, rfl, -⟩ := List.map_eq_cons_iff.mp spelledOwn
      exact .inl ⟨_, rfl⟩

/-- Conditions of which each is read, or refused. -/
theorem infixes_further_fails {word : String} {p : Nat} (known : Connective word p) {cs : List Criterion}
    (each : ∀ c ∈ cs, Settled levels tree c) (refused : ∃ c ∈ cs, IsRefused levels c) {front rest : List Lexeme}
    (spelled : front.map (·.token) = furtherTokens word cs) (follows : Follows rest)
    (weak : ∀ t u, precedenceOf (rest.headD endOfText).token t u ≤ p) {fuel depth floor : Nat}
    (enough : 4 * front.length + 14 ≤ fuel) (deep : levels + 4 ≤ depth) (below : floor < p) (left : Expr) :
    Fails (infixes fuel depth floor left (front ++ rest)) := by
  induction cs generalizing front fuel left with
  | nil => simp at refused
  | cons c cs ih =>
    obtain ⟨own, others, pos, spelledOwn, spelledOthers, rfl⟩ := exists_furtherLexemes spelled
    simp only [List.length_cons, List.length_append] at enough
    obtain ⟨fuel, rfl⟩ := Nat.exists_eq_add_of_le' (by omega : 2 ≤ fuel)
    rw [List.cons_append, List.append_assoc]
    by_cases own' : IsRefused levels c
    case pos =>
      obtain ⟨t, more, first, unmarked⟩ := own'.begins
      have head := headD_spelled (others ++ rest) (spelledOwn.trans first)
      refine infixes_fails known.precedence below (known.joined_fails left pos ?_ ?_)
      · rw [head]
        exact unmarked.unquantified
      · exact own'.fails spelledOwn (further_follows known spelledOthers follows) (by omega) deep known.le
    case neg =>
      obtain ⟨closes, weaker⟩ := further_closes known spelledOthers follows.closes weak
      have reads := (each c (by simp)).resolve_right own'
      rw [infixes_connective known reads spelledOwn closes weaker (by omega) deep below left pos]
      exact ih (fun d member => each d (List.mem_cons_of_mem c member))
        ((List.exists_mem_cons_iff ..).mp refused |>.resolve_left own') spelledOthers (by omega) _

theorem subexpr_junction_fails {word : String} {p : Nat} (known : Connective word p) {c : Criterion}
    {cs : List Criterion} (each : ∀ d ∈ c :: cs, Settled levels tree d)
    (refused : ∃ d ∈ c :: cs, IsRefused levels d) {front rest : List Lexeme}
    (spelled : front.map (·.token) = junctionTokens word (c :: cs)) (follows : Follows rest)
    (weak : ∀ t u, precedenceOf (rest.headD endOfText).token t u ≤ p) {fuel depth : Nat}
    (enough : 4 * front.length + 16 ≤ fuel) (deep : levels + 5 ≤ depth) :
    Fails (subexpr fuel depth 0 (front ++ rest)) := by
  obtain ⟨own, others, rfl, spelledOwn, spelledOthers⟩ := List.map_eq_append_iff.mp spelled
  rw [List.length_append] at enough
  rw [List.append_assoc]
  by_cases own' : IsRefused levels c
  case pos =>
    exact own'.fails spelledOwn (further_follows known spelledOthers follows) (by omega) (by omega) (Nat.zero_le 10)
  case neg =>
    obtain ⟨closes, -⟩ := further_closes known spelledOthers follows.closes weak
    obtain ⟨n, spent, first⟩ := ((each c (by simp)).resolve_right own').read spelledOwn closes
      (by omega : 4 * own.length + 10 ≤ fuel) (by omega : levels + 4 ≤ depth) (Nat.zero_le 10)
    have positive : 0 < p := by cases known <;> decide
    rw [first]
    exact infixes_further_fails known (fun d member => each d (List.mem_cons_of_mem c member))
      ((List.exists_mem_cons_iff ..).mp refused |>.resolve_left own') spelledOthers follows weak (by omega) (by omega)
      positive _

theorem subexpr_closed_junction_fails {word : String} {p : Nat} (known : Connective word p) {c : Criterion}
    {cs : List Criterion} (each : ∀ d ∈ c :: cs, Settled levels tree d)
    (refused : ∃ d ∈ c :: cs, IsRefused levels d) {lexemes : List Lexeme}
    (spelled : lexemes.map (·.token) = junctionTokens word (c :: cs)) {fuel depth : Nat}
    (enough : 4 * lexemes.length + 16 ≤ fuel) (deep : levels + 5 ≤ depth) : Fails (subexpr fuel depth 0 lexemes) := by
  rw [← List.append_nil lexemes]
  exact subexpr_junction_fails known each refused spelled .nil (fun t u => Nat.zero_le p) enough deep

theorem subexpr_group_fails {c : Criterion} {cs : List Criterion}
    (each : ∀ d ∈ c :: cs, Settled levels tree d) (refused : ∃ d ∈ c :: cs, IsRefused levels d)
    {front : List Lexeme} (opening closing : Option Position)
    (spelled : front.map (·.token) = junctionTokens "OR" (c :: cs)) {fuel depth : Nat}
    (enough : 4 * front.length + 22 ≤ fuel) (deep : levels + 6 ≤ depth) :
    Fails (subexpr fuel depth 10 (⟨.symbol "(", opening⟩ :: (front ++ [⟨.symbol ")", closing⟩]))) := by
  obtain ⟨fuel, rfl⟩ := Nat.exists_eq_add_of_le' (by omega : 6 ≤ fuel)
  obtain ⟨depth, rfl⟩ := Nat.exists_eq_add_of_le' (by omega : 1 ≤ depth)
  obtain ⟨t, more, first, unmarked⟩ := (each c (by simp)).begins
  have begins : front.map (·.token) = t :: (more ++ furtherTokens "OR" cs) := by
    rw [spelled, junctionTokens, first, List.cons_append]
  have head := headD_spelled [⟨.symbol ")", closing⟩] begins
  refine subexpr_fails (primary_opening_fails opening (parenthesized_fails ?_ (commaSeparated_fails ?_)))
  · rw [head]
    exact unmarked.noQuery
  · exact subexpr_junction_fails .or each refused spelled (.closing closing []) (fun t u => Nat.zero_le 5) (by omega)
      (by omega)

theorem subexpr_groups_fails {c d : Criterion} {cs ds : List Criterion}
    (eachAll : ∀ e ∈ c :: cs, Settled levels tree e)
    (eachAny : ∀ e ∈ d :: ds, Settled levels tree e)
    (refused : (∃ e ∈ c :: cs, IsRefused levels e) ∨ ∃ e ∈ d :: ds, IsRefused levels e) {lexemes : List Lexeme}
    (spelled : lexemes.map (·.token) = junctionTokens "AND" (c :: cs) ++
      .word "AND" :: .symbol "(" :: (junctionTokens "OR" (d :: ds) ++ [.symbol ")"]))
    {fuel depth : Nat} (enough : 4 * lexemes.length + 30 ≤ fuel) (deep : levels + 7 ≤ depth) :
    Fails (subexpr fuel depth 0 lexemes) := by
  obtain ⟨all, _, rfl, spelledAll, behind⟩ := List.map_eq_append_iff.mp spelled
  obtain ⟨⟨_, and⟩, _, rfl, rfl, inside⟩ := List.map_eq_cons_iff.mp behind
  obtain ⟨⟨_, opening⟩, grouped, rfl, rfl, spelledGroup⟩ := List.map_eq_cons_iff.mp inside
  simp only [List.length_append, List.length_cons] at enough
  have follows : Follows (⟨.word "AND", and⟩ :: ⟨.symbol "(", opening⟩ :: grouped) :=
    Connective.and.follows and (.inr ⟨opening, grouped, rfl, fun left read => modifiers_group spelledGroup le_rfl read⟩)
  by_cases first : ∃ e ∈ c :: cs, IsRefused levels e
  case pos =>
    exact subexpr_junction_fails .and eachAll first spelledAll follows (fun t u => (Connective.and.precedence t u).le)
      (by omega) (by omega)
  case neg =>
    have readsAll : ∀ e ∈ c :: cs, ReadsAs levels e (tree e) :=
      fun e member => (eachAll e member).resolve_right fun refused => first ⟨e, member, refused⟩
    obtain ⟨any, _, rfl, spelledAny, last⟩ := List.map_eq_append_iff.mp spelledGroup
    obtain ⟨⟨_, closing⟩, rfl, rfl⟩ := List.map_eq_singleton_iff.mp last
    simp only [List.length_append, List.length_cons, List.length_nil] at enough
    obtain ⟨n, spent, conjunction⟩ := subexpr_junction .and readsAll spelledAll follows.closes
      (fun t u => (Connective.and.precedence t u).le) (by omega : 4 * all.length + 16 ≤ fuel)
      (by omega : levels + 5 ≤ depth)
    obtain ⟨n, rfl⟩ := Nat.exists_eq_add_of_le' (by omega : 3 ≤ n)
    rw [conjunction]
    refine infixes_fails Connective.and.precedence (by decide) (Connective.and.joined_fails _ and ?_ ?_)
    · exact (by decide : (Token.symbol "(").keyword ∉ ["ANY", "ALL", "SOME"])
    · exact subexpr_group_fails eachAny (refused.resolve_left first) opening closing spelledAny (by omega) (by omega)

/-- A clause is refused for one of its conditions, in either group. -/
theorem subexpr_clause_fails {c : Criteria} (eachAll : ∀ d ∈ c.all, Settled levels tree d)
    (eachAny : ∀ d ∈ c.any, Settled levels tree d)
    (refused : (∃ d ∈ c.all, IsRefused levels d) ∨ ∃ d ∈ c.any, IsRefused levels d) {lexemes : List Lexeme}
    (spelled : lexemes.map (·.token) = clauseTokens c) {fuel depth : Nat} (enough : 4 * lexemes.length + 30 ≤ fuel)
    (deep : levels + 7 ≤ depth) : Fails (subexpr fuel depth 0 lexemes) := by
  unfold clauseTokens at spelled
  cases declaredAll : c.all with
  | nil =>
    rw [declaredAll] at refused
    have refusedAny := refused.resolve_left (by simp)
    cases declaredAny : c.any with
    | nil => simp [declaredAny] at refusedAny
    | cons d ds =>
      rw [declaredAll, declaredAny] at spelled
      rw [declaredAny] at eachAny refusedAny
      exact subexpr_closed_junction_fails .or eachAny refusedAny spelled (by omega) (by omega)
  | cons e es =>
    rw [declaredAll] at eachAll refused
    cases declaredAny : c.any with
    | nil =>
      rw [declaredAll, declaredAny] at spelled
      rw [declaredAny] at refused
      exact subexpr_closed_junction_fails .and eachAll (refused.resolve_right (by simp)) spelled (by omega) (by omega)
    | cons d ds =>
      rw [declaredAll, declaredAny] at spelled
      rw [declaredAny] at eachAny refused
      exact subexpr_groups_fails eachAll eachAny refused spelled enough deep

end Grammar

end AttributeStore.Sql
