import AttributeStore.Proofs.Sql.RowExpression
import AttributeStore.Proofs.Sql.Refusals

/-! Cases and casts. A case is read part by part: a condition up to `THEN`, a result up to `ELSE` and another up to
`END`. Where a part fails, the word `CASE` is taken for a column, and the rest of the text is left over. -/
namespace AttributeStore.Sql

namespace Grammar

open Reader

variable {rest : List Lexeme}

/-- The words that go on with a case or a cast. -/
def continuingWords : List String := ["WHEN", "THEN", "ELSE", "END", "AS"]

theorem keyword_continuing {w : String} (known : w ∈ continuingWords) : w ≠ "" ∧ (Token.word w).keyword = w := by
  have own : ∀ w ∈ continuingWords, w ≠ "" ∧ (Token.word w).keyword = w := by decide
  exact own w known

theorem sawKeyword_own {w : String} (known : w ∈ continuingWords) (pos : Option Position) (s : List Lexeme) :
    sawKeyword w (⟨.word w, pos⟩ :: s) = .ok (true, s) := by
  obtain ⟨named, own⟩ := keyword_continuing known
  rw [run_sawKeyword w named, List.headD_cons, if_pos own, List.drop_succ_cons, List.drop_zero]

theorem sawKeyword_other {w v : String} (known : w ∈ continuingWords) (known' : v ∈ continuingWords) (other : v ≠ w)
    (pos : Option Position) (s : List Lexeme) :
    sawKeyword w (⟨.word v, pos⟩ :: s) = .ok (false, ⟨.word v, pos⟩ :: s) := by
  have differs : (Token.word v).keyword ≠ w := by rwa [(keyword_continuing known').2]
  rw [run_sawKeyword w (keyword_continuing known).1, List.headD_cons, if_neg differs]

theorem expectKeyword_own {w : String} (known : w ∈ continuingWords) (pos : Option Position) (s : List Lexeme) :
    expectKeyword w (⟨.word w, pos⟩ :: s) = .ok ((), s) := by
  rw [expectKeyword, run_bind, sawKeyword_own known]
  rfl

/-- A case of one condition, as far as its result is read. -/
theorem caseArms_eq {fuel depth : Nat} {s behind : List Lexeme} {condition : Expr} {pos : Option Position}
    (first : subexpr fuel depth 0 s = .ok (condition, ⟨.word "THEN", pos⟩ :: behind)) :
    caseArms (fuel + 1) depth s = (do
      let result ← subexpr fuel depth 0
      if ← sawKeyword "WHEN" then
        let more ← caseArms fuel depth
        return condition :: result :: more
      else return [condition, result] : Reader (List Expr)) behind := by
  rw [caseArms.eq_def]
  dsimp only
  rw [run_bind, first]
  dsimp only
  rw [run_bind, expectKeyword_own (by decide)]

theorem caseExpr_eq {fuel depth : Nat} {s : List Lexeme} (pos : Option Position) :
    caseExpr (fuel + 1) depth (⟨.word "WHEN", pos⟩ :: s) = (do
      let arms ← caseArms fuel depth
      let other ← (do
        if ← sawKeyword "ELSE" then
          let e ← subexpr fuel depth 0
          return [e]
        else return [])
      expectKeyword "END"
      return .form "CASE" ([] ++ arms ++ other) : Reader Expr) s := by
  rw [caseExpr.eq_def]
  dsimp only
  rw [run_bind, run_bind, sawKeyword_own (by decide)]
  rfl

/-- The three parts of a case. -/
theorem caseExpr_run {fuel depth : Nat} {s behind last : List Lexeme} {condition result other : Expr}
    {opening after between closing : Option Position}
    (first : subexpr fuel depth 0 s = .ok (condition, ⟨.word "THEN", after⟩ :: behind))
    (second : subexpr fuel depth 0 behind = .ok (result, ⟨.word "ELSE", between⟩ :: last))
    (third : subexpr (fuel + 1) depth 0 last = .ok (other, ⟨.word "END", closing⟩ :: rest)) :
    caseExpr (fuel + 2) depth (⟨.word "WHEN", opening⟩ :: s) = .ok (.form "CASE" [condition, result, other], rest) := by
  have arms : caseArms (fuel + 1) depth s = .ok ([condition, result], ⟨.word "ELSE", between⟩ :: last) := by
    rw [caseArms_eq first, run_bind, second]
    dsimp only
    rw [run_bind, sawKeyword_other (by decide) (by decide) (by decide)]
    rfl
  rw [caseExpr_eq, run_bind, arms]
  dsimp only
  rw [run_bind, run_bind, sawKeyword_own (by decide)]
  simp only [if_true, run_bind, third, run_pure, expectKeyword_own (by decide : "END" ∈ continuingWords)]
  rfl

/-- A result that cannot be read, or behind which a case does not go on. -/
def Strays (fuel depth : Nat) (s : List Lexeme) : Prop :=
  Fails (subexpr fuel depth 0 s) ∨ ∃ e left, subexpr fuel depth 0 s = .ok (e, left) ∧
    ∀ w ∈ continuingWords, (left.headD endOfText).token.keyword ≠ w

/-- A case fails at a result that strays. -/
theorem caseExpr_fails {fuel depth : Nat} {s behind : List Lexeme} {condition : Expr} {opening after : Option Position}
    (first : subexpr fuel depth 0 s = .ok (condition, ⟨.word "THEN", after⟩ :: behind))
    (second : Strays fuel depth behind) : Fails (caseExpr (fuel + 2) depth (⟨.word "WHEN", opening⟩ :: s)) := by
  rw [caseExpr_eq]
  rcases second with fails | ⟨e, left, read, stray⟩
  · refine Fails.bind ?_
    rw [caseArms_eq first]
    exact fails.bind
  · have unseen {w : String} (known : w ∈ continuingWords) : sawKeyword w left = .ok (false, left) := by
      rw [run_sawKeyword w (keyword_continuing known).1, if_neg (stray w known)]
    have arms : caseArms (fuel + 1) depth s = .ok ([condition, e], left) := by
      rw [caseArms_eq first, run_bind, read]
      dsimp only
      rw [run_bind, unseen (by decide)]
      rfl
    rw [run_bind, arms]
    dsimp only
    rw [run_bind, run_bind, unseen (by decide)]
    refine Fails.bind ?_
    rw [expectKeyword, run_bind, unseen (by decide)]
    exact ⟨_, rfl⟩

/-- A word that is no type is not read as one, with or without modifiers. -/
theorem typed_typeless {w : String} (unknown : (Token.word w).keyword ∈ typelessWords) (pos : Option Position)
    {s left : List Lexeme} (fuel depth : Nat) (plain : (s.headD endOfText).token ≠ .symbol ".")
    (modified : (do
      if ← sawSymbol "(" then modifiers (← get).length
      return (none, false) : Reader (Option String × Bool)) s = .ok ((none, false), left))
    (flat : (left.headD endOfText).token ≠ .symbol "[") : Refuses (typed (fuel + 3) depth (⟨.word w, pos⟩ :: s)) := by
  have form : typeForm (fuel + 2) (⟨.word w, pos⟩ :: s) = .ok ((none, false), left) := by
    rw [typeForm.eq_def]
    dsimp only
    rw [run_bind, run_peek]
    dsimp only [List.headD_cons]
    rw [run_bind, namedType_unknown unknown pos plain, modified]
    simp only [run_bind, run_get, dimensions_none flat, if_true, run_pure]
  refine ⟨.expected "dummy" (left.headD endOfText), ?_, by simp⟩
  rw [typed.eq_def]
  dsimp only
  rw [run_bind, dataType, run_bind, form]
  rfl

/-- A word that begins an expression of its own is read as that. -/
theorem primary_special {w : String} (pos : Option Position) {s : List Lexeme} {fuel depth : Nat} {e : Expr}
    (untyped : Refuses (typed (fuel + 2) depth (⟨.word w, pos⟩ :: s)))
    (meant : special (fuel + 1) depth (⟨.word w, pos⟩ :: s) = .ok (some e, rest)) (ends : Stops rest) :
    primary (fuel + 3) depth (⟨.word w, pos⟩ :: s) = .ok (e, rest) := by
  have read : wordExpr (fuel + 2) depth (⟨.word w, pos⟩ :: s) = .ok (e, rest) := by
    rw [wordExpr.eq_def]
    dsimp only
    rw [meant]
  rw [primary.eq_def]
  dsimp only
  rw [run_bind, untyped.attempt]
  dsimp only
  simp (disch := decide) only [run_bind, run_peek, List.headD_cons, read, ends.sawKeyword, Bool.false_eq_true,
    if_false, run_pure]

theorem typed_case (fuel depth : Nat) (pos opening : Option Position) (s : List Lexeme) :
    Refuses (typed (fuel + 3) depth (⟨.word "CASE", pos⟩ :: ⟨.word "WHEN", opening⟩ :: s)) :=
  typed_typeless (by decide) pos fuel depth (by simp) rfl (by simp)

theorem special_case {fuel depth : Nat} (pos : Option Position) (s : List Lexeme) :
    special (fuel + 1) depth (⟨.word "CASE", pos⟩ :: s) = (caseExpr fuel depth >>= fun e => pure (some e)) s := by
  rw [special.eq_def]
  rfl

theorem primary_case {fuel depth : Nat} {pos opening : Option Position} {s : List Lexeme} {e : Expr}
    (read : caseExpr (fuel + 1) depth (⟨.word "WHEN", opening⟩ :: s) = .ok (e, rest)) (ends : Stops rest) :
    primary (fuel + 4) depth (⟨.word "CASE", pos⟩ :: ⟨.word "WHEN", opening⟩ :: s) = .ok (e, rest) := by
  refine primary_special pos (typed_case fuel depth pos opening s) ?_ ends
  rw [special_case, run_bind, read]
  rfl

/-- Where a case cannot be read, its first word is a column. -/
theorem primary_case_fails {fuel depth : Nat} {pos opening : Option Position} {s : List Lexeme}
    (fails : Fails (caseExpr (fuel + 1) depth (⟨.word "WHEN", opening⟩ :: s))) :
    primary (fuel + 4) depth (⟨.word "CASE", pos⟩ :: ⟨.word "WHEN", opening⟩ :: s) =
      .ok (.column ["CASE"], ⟨.word "WHEN", opening⟩ :: s) := by
  obtain ⟨fault, failed⟩ := fails
  have sometimes : ¬neverNames.contains (Token.word "CASE").keyword := by decide
  have uncollated : (Token.word "WHEN").keyword ≠ "COLLATE" := by decide
  have read : wordExpr (fuel + 3) depth (⟨.word "CASE", pos⟩ :: ⟨.word "WHEN", opening⟩ :: s) =
      .ok (.column ["CASE"], ⟨.word "WHEN", opening⟩ :: s) := by
    rw [wordExpr.eq_def]
    dsimp only
    rw [special_case, run_bind, failed]
    dsimp only
    rw [List.headD_cons, if_neg sometimes, named.eq_def]
    rfl
  rw [primary.eq_def]
  dsimp only
  rw [run_bind, (typed_case fuel depth pos opening s).attempt]
  dsimp only
  rw [run_bind, run_peek]
  dsimp only [List.headD_cons]
  rw [run_bind, read]
  dsimp only
  rw [run_bind, run_sawKeyword "COLLATE" (by decide), List.headD_cons, if_neg uncollated]
  rfl

/-- The tokens of a column that is cast to a number. -/
def castTokens (column : List Token) : List Token :=
  .word "CAST" :: .symbol "(" :: (column ++ [.word "AS", .word "FLOAT", .symbol ")"])

theorem exists_castLexemes {column : List Token} {front : List Lexeme}
    (spelled : front.map (·.token) = castTokens column) : ∃ own cast opening as type closing,
      own.map (·.token) = column ∧ front = ⟨.word "CAST", cast⟩ :: ⟨.symbol "(", opening⟩ ::
        (own ++ [⟨.word "AS", as⟩, ⟨.word "FLOAT", type⟩, ⟨.symbol ")", closing⟩]) := by
  obtain ⟨⟨_, cast⟩, _, rfl, rfl, spelled'⟩ := List.map_eq_cons_iff.mp spelled
  obtain ⟨⟨_, opening⟩, _, rfl, rfl, inside⟩ := List.map_eq_cons_iff.mp spelled'
  obtain ⟨own, _, rfl, spelledOwn, as'⟩ := List.map_eq_append_iff.mp inside
  obtain ⟨⟨_, as⟩, _, rfl, rfl, type'⟩ := List.map_eq_cons_iff.mp as'
  obtain ⟨⟨_, type⟩, _, rfl, rfl, closing'⟩ := List.map_eq_cons_iff.mp type'
  obtain ⟨⟨_, closing⟩, rfl, rfl⟩ := List.map_eq_singleton_iff.mp closing'
  exact ⟨own, cast, opening, as, type, closing, spelledOwn, rfl⟩

theorem dataType_float (fuel : Nat) (pos closing : Option Position) (rest : List Lexeme) :
    dataType (fuel + 2) (⟨.word "FLOAT", pos⟩ :: ⟨.symbol ")", closing⟩ :: rest) =
      .ok (some "FLOAT", ⟨.symbol ")", closing⟩ :: rest) := by
  have ends : Stops (⟨.symbol ")", closing⟩ :: rest) := (by decide : Token.symbol ")" ∈ stops)
  have named : namedType (fuel + 1) "FLOAT" (⟨.word "FLOAT", pos⟩ :: ⟨.symbol ")", closing⟩ :: rest) =
      .ok ((some "FLOAT", false), ⟨.symbol ")", closing⟩ :: rest) := by
    rw [namedType.eq_def]
    dsimp only
    rw [if_neg (by decide), if_pos (by decide), run_bind, run_next]
    simp (disch := decide) only [List.drop_succ_cons, List.drop_zero, if_neg, run_bind, ends.size, ends.sawKeyword,
      run_pure]
  have keyword : (Token.word "FLOAT").keyword = "FLOAT" := by decide
  rw [dataType, run_bind, typeForm.eq_def]
  dsimp only
  rw [run_bind, run_peek]
  dsimp only [List.headD_cons]
  rw [keyword, run_bind, named]
  simp only [run_bind, run_get, dimensions_none (ends.symbol (by decide)), if_true, run_pure, Bool.false_eq_true,
    if_false]

theorem special_cast {fuel depth : Nat} (cast opening : Option Position) (s : List Lexeme) :
    special (fuel + 1) depth (⟨.word "CAST", cast⟩ :: ⟨.symbol "(", opening⟩ :: s) = (do
      let e ← subexpr fuel depth 0
      expectKeyword "AS"
      let _ ← dataType fuel
      if ← sawKeyword "FORMAT" then
        let _ ← value
      expectSymbol ")"
      return some (.form "CAST" [e]) : Reader (Option Expr)) s := by
  rw [special.eq_def]
  rfl

theorem primary_cast {p : String} {e : Expr} (operand : IsOperand p e) {front : List Lexeme}
    (spelled : front.map (·.token) = castTokens [.word p]) (ends : Stops rest) {fuel depth : Nat} (enough : 8 ≤ fuel)
    (deep : 1 ≤ depth) : primary fuel depth (front ++ rest) = .ok (.form "CAST" [e], rest) := by
  obtain ⟨_, cast, opening, as, type, closing, spelledColumn, rfl⟩ := exists_castLexemes spelled
  obtain ⟨⟨_, column⟩, rfl, rfl⟩ := List.map_eq_singleton_iff.mp spelledColumn
  obtain ⟨fuel, rfl⟩ := Nat.exists_eq_add_of_le' enough
  obtain ⟨depth, rfl⟩ := Nat.exists_eq_add_of_le' deep
  have separate (s : List Lexeme) : Stops (⟨.word "AS", as⟩ :: s) := (by decide : Token.word "AS" ∈ stops)
  have closes : Stops (⟨.symbol ")", closing⟩ :: rest) := (by decide : Token.symbol ")" ∈ stops)
  have column' (s : List Lexeme) : subexpr (fuel + 5) (depth + 1) 0 (⟨.word p, column⟩ :: ⟨.word "AS", as⟩ :: s) =
      .ok (e, ⟨.word "AS", as⟩ :: s) := by
    rw [subexpr_word operand (separate s) column (by omega)]
    exact infixes_stop (fuel + 3) depth e fun t u => Nat.zero_le 0
  simp only [List.cons_append, List.nil_append]
  refine primary_special cast ?typed ?_ ends
  case typed => exact typed_typeless (by decide) cast (fuel + 4) (depth + 1) (by simp) rfl (ends.symbol (by decide))
  rw [special_cast, run_bind, column']
  dsimp only
  rw [run_bind, expectKeyword_own (by decide)]
  dsimp only
  rw [run_bind, dataType_float]
  simp (disch := decide) only [run_bind, closes.sawKeyword, Bool.false_eq_true, if_false, run_expectSymbol,
    List.headD_cons, if_true, run_pure, List.drop_succ_cons, List.drop_zero]

theorem wordExpr_fails {fuel depth : Nat} {s : List Lexeme} (meant : Fails (special fuel depth s))
    (alone : Fails (named fuel depth s)) : Fails (wordExpr (fuel + 1) depth s) := by
  obtain ⟨fault, failed⟩ := meant
  refine ⟨fault, ?_⟩
  rw [wordExpr.eq_def]
  dsimp only
  rw [failed]
  dsimp only
  split
  · rfl
  · rcases alone.attempt with none | ⟨deeper, failed'⟩
    · rw [none]
    · rw [failed']

/-- What stands first in parentheses and cannot be read there, or has the name of a type left behind it. -/
def Mistaken (x : Except Fault (α × List Lexeme)) : Prop :=
  Fails x ∨ ∃ a pos left, x = .ok (a, ⟨.word "FLOAT", pos⟩ :: left)

theorem argumentList_mistaken {p w : String} (pos pos' : Option Position) {s : List Lexeme} {fuel depth : Nat}
    (mistaken : Mistaken (subexpr fuel depth 0 (⟨.word p, pos⟩ :: ⟨.word w, pos'⟩ :: s))) :
    Mistaken (argumentList (fuel + 2) depth (⟨.word p, pos⟩ :: ⟨.word w, pos'⟩ :: s)) := by
  let inside : List Lexeme := ⟨.word p, pos⟩ :: ⟨.word w, pos'⟩ :: s
  have unqualified : Fails (qualifiedStar fuel inside) := by
    cases fuel with
    | zero => exact ⟨_, rfl⟩
    | succ fuel =>
      rw [qualifiedStar.eq_def]
      exact ⟨_, rfl⟩
  have star : Mistaken (star (fuel + 1) depth inside) := by
    rw [star.eq_def]
    dsimp only
    rw [run_bind, run_sawSymbol, List.headD_cons, if_neg (by simp)]
    simp only [Bool.false_eq_true, if_false]
    rcases unqualified.attempt with plain | deeper
    · rw [run_bind, plain]
      exact mistaken
    · exact .inl deeper.bind
  have first : argumentList (fuel + 2) depth inside = (do
      let e ← Grammar.star (fuel + 1) depth
      if ← sawSymbol "," then
        let more ← argumentList (fuel + 1) depth
        return e :: more
      else return [e] : Reader (List Expr)) inside := by
    rw [argumentList.eq_def]
    rfl
  rw [first]
  rcases star with fails | ⟨e, type, left, read⟩
  · exact .inl fails.bind
  · refine .inr ⟨[e], type, left, ?_⟩
    rw [run_bind, read]
    rfl

/-- What is mistaken for an argument is no call, either. -/
theorem call_mistaken {p w : String} (unquantified : (Token.word p).keyword ∉ ["ALL", "DISTINCT"])
    (opening pos pos' : Option Position) {s : List Lexeme} {fuel depth : Nat} (name : List String)
    (mistaken : Mistaken (subexpr fuel depth 0 (⟨.word p, pos⟩ :: ⟨.word w, pos'⟩ :: s))) :
    Fails (call (fuel + 4) depth name (⟨.symbol "(", opening⟩ :: ⟨.word p, pos⟩ :: ⟨.word w, pos'⟩ :: s)) := by
  have quantified : ["ALL", "DISTINCT"].contains (Token.word p).keyword = false := by simpa using unquantified
  have arguments : Fails (arguments (fuel + 3) depth (⟨.word p, pos⟩ :: ⟨.word w, pos'⟩ :: s)) := by
    rw [arguments.eq_def]
    dsimp only
    rw [run_bind, run_sawSymbol, List.headD_cons, if_neg (by simp)]
    simp only [Bool.false_eq_true, if_false]
    rw [run_bind, run_oneKeyword, List.headD_cons, quantified]
    rcases argumentList_mistaken pos pos' mistaken with fails | ⟨es, type, left, read⟩
    · exact fails.bind
    · simp only [Bool.false_eq_true, if_false]
      rw [run_bind, read]
      exact ⟨_, rfl⟩
  rw [call.eq_def]
  dsimp only
  rw [run_bind, run_expectSymbol, List.headD_cons, if_pos rfl, List.drop_succ_cons, List.drop_zero]
  exact arguments.bind

/-- A cast of what is mistaken for a column can be read neither as a cast nor as a call. -/
theorem primary_cast_mistaken {p w : String} (unquantified : (Token.word p).keyword ∉ ["ALL", "DISTINCT"])
    {cast opening pos pos' : Option Position} {s : List Lexeme} {fuel depth : Nat}
    (untyped : Refuses (typed (fuel + 11) depth
      (⟨.word "CAST", cast⟩ :: ⟨.symbol "(", opening⟩ :: ⟨.word p, pos⟩ :: ⟨.word w, pos'⟩ :: s)))
    (mistaken : ∀ n, Mistaken (subexpr (n + 5) depth 0 (⟨.word p, pos⟩ :: ⟨.word w, pos'⟩ :: s))) :
    Fails (primary (fuel + 12) depth
      (⟨.word "CAST", cast⟩ :: ⟨.symbol "(", opening⟩ :: ⟨.word p, pos⟩ :: ⟨.word w, pos'⟩ :: s)) := by
  have meant : Fails (special (fuel + 10) depth
      (⟨.word "CAST", cast⟩ :: ⟨.symbol "(", opening⟩ :: ⟨.word p, pos⟩ :: ⟨.word w, pos'⟩ :: s)) := by
    rw [special_cast]
    rcases mistaken (fuel + 4) with fails | ⟨e, type, left, read⟩
    · exact fails.bind
    · rw [run_bind, read]
      exact ⟨_, rfl⟩
  rw [primary.eq_def]
  dsimp only
  rw [run_bind, untyped.attempt]
  dsimp only
  rw [run_bind, run_peek]
  refine Fails.bind (wordExpr_fails meant ?_)
  rw [named.eq_def]
  exact call_mistaken unquantified opening pos pos' _ (mistaken fuel)

theorem primary_cast_unlisted {p : String} (unlisted : (Token.word p).keyword ∈ unlistedWords) {front : List Lexeme}
    (spelled : front.map (·.token) = castTokens [.word p]) (ends : Stops rest) (fuel depth : Nat) :
    Fails (primary (fuel + 12) (depth + 1) (front ++ rest)) := by
  obtain ⟨_, cast, opening, as, type, closing, spelledColumn, rfl⟩ := exists_castLexemes spelled
  obtain ⟨⟨_, column⟩, rfl, rfl⟩ := List.map_eq_singleton_iff.mp spelledColumn
  have separate (s : List Lexeme) : Stops (⟨.word "AS", as⟩ :: s) := (by decide : Token.word "AS" ∈ stops)
  have unquantified : ∀ w ∈ unlistedWords, w ∉ ["ALL", "DISTINCT"] := by decide
  refine primary_cast_mistaken (unquantified _ unlisted) ?untyped fun n => .inl ?_
  case untyped => exact typed_typeless (by decide) cast _ _ (by simp) rfl (ends.symbol (by decide))
  exact subexpr_unlisted unlisted (separate _) (.of_ne (by simp)) column (by omega) (by omega)

/-- A cast of nothing takes the word behind it for the column. -/
theorem primary_cast_nothing {front : List Lexeme} (spelled : front.map (·.token) = castTokens []) (ends : Stops rest)
    (fuel depth : Nat) : Fails (primary (fuel + 12) (depth + 1) (front ++ rest)) := by
  obtain ⟨_, cast, opening, as, type, closing, spelledNothing, rfl⟩ := exists_castLexemes spelled
  obtain rfl := List.map_eq_nil_iff.mp spelledNothing
  have stops (s : List Lexeme) : Stops (⟨.word "FLOAT", type⟩ :: s) := (by decide : Token.word "FLOAT" ∈ stops)
  have operand : IsOperand "AS" (.column ["AS"]) := IsColumn.isOperand (by decide)
  simp only [List.cons_append, List.nil_append]
  refine primary_cast_mistaken (by decide) ?untyped fun n =>
    .inr ⟨.column ["AS"], type, ⟨.symbol ")", closing⟩ :: rest, ?_⟩
  case untyped => exact typed_typeless (by decide) cast _ _ (by simp) rfl (ends.symbol (by decide))
  rw [subexpr_word operand (stops _) as (by omega)]
  exact infixes_stop (n + 3) depth _ fun t u => Nat.le_refl 0

end Grammar

end AttributeStore.Sql
