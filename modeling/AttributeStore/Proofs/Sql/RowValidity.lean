import AttributeStore.Proofs.Sql.Cases
import AttributeStore.Proofs.Sql.Validity

/-! Row expressions that are valid. Only the filter is checked before it becomes a case; whether the case is an
expression, too, is up to the column in it, of which nothing may be left. -/
namespace AttributeStore.Sql

/-- The tokens of what a row adds that passes the filter. -/
def countedTokens (fold : Fold) (column : List Token) : List Token :=
  match fold with
  | .count => [unsigned 1]
  | .sum => Grammar.castTokens column
  | _ => column

/-- The tokens of what a row adds that does not pass the filter. -/
def otherwiseTokens (fold : Fold) : List Token :=
  match fold with
  | .count | .sum => [unsigned 0]
  | _ => [.word "NULL"]

def caseTokens (c : Criteria) (fold : Fold) (column : List Token) : List Token :=
  .word "CASE" :: .word "WHEN" :: (clauseTokens c ++ .word "THEN" ::
    (countedTokens fold column ++ .word "ELSE" :: (otherwiseTokens fold ++ [.word "END"])))

theorem toList_caseWhen (clause result other : String) : (caseWhen clause result other).toList =
    "CASE".toList ++ ' ' :: ("WHEN".toList ++ ' ' :: (clause.toList ++ ' ' :: ("THEN".toList ++ ' ' ::
      (result.toList ++ ' ' :: ("ELSE".toList ++ ' ' :: (other.toList ++ ' ' :: "END".toList)))))) := by
  delta caseWhen
  simp

/-- A text that is cut into some tokens, whatever ends it. -/
def CutsInto (s : String) (own : List Token) : Prop :=
  ∀ {rest : List Char} {tokens : List Token}, Ends rest → Cuts rest tokens → Cuts (s.toList ++ rest) (own ++ tokens)

theorem cutsInto_word {p : String} (word : IsWord p) : CutsInto p [.word p] := fun ends more => Cuts.word word ends more

theorem cutsInto_nothing : CutsInto "" [] := fun _ more => more

namespace Cuts

variable {rest : List Char} {tokens column : List Token}

theorem cast {p : String} (own : CutsInto p column) (more : Cuts rest tokens) :
    Cuts (("CAST(" ++ p ++ " AS FLOAT)").toList ++ rest) (Grammar.castTokens column ++ tokens) := by
  have type := Cuts.word (by decide : IsWord "FLOAT") (Ends.cons (by decide)) (Cuts.closing more)
  have as := Cuts.word (by decide : IsWord "AS") (blank _) (Cuts.space type)
  have inside := own (blank _) (Cuts.space as)
  have whole := Cuts.word (by decide : IsWord "CAST") (Ends.cons (by decide)) (Cuts.opening inside)
  simpa [Grammar.castTokens] using whole

theorem counted {fold : Fold} {property : Option String} {p result : String}
    (folded : Sql.counted fold property = some result) (known : fold = .count ∨ property = some p ∧ CutsInto p column)
    (ends : Ends rest) (more : Cuts rest tokens) :
    Cuts (result.toList ++ rest) (countedTokens fold column ++ tokens) := by
  rcases known with rfl | ⟨rfl, own⟩
  · cases folded
    exact unsigned (n := 1) ends more
  · cases fold with
    | count =>
      cases folded
      exact unsigned (n := 1) ends more
    | sum =>
      cases folded
      exact cast own more
    | _ =>
      cases folded
      exact own ends more

theorem otherwise (fold : Fold) (ends : Ends rest) (more : Cuts rest tokens) :
    Cuts ((Sql.otherwise fold).toList ++ rest) (otherwiseTokens fold ++ tokens) := by
  have null := Cuts.word (by decide : IsWord "NULL") ends more
  have zero := unsigned (n := 0) ends more
  cases fold <;> assumption

/-- A case is cut into its parts. -/
theorem case {subject clause result p : String} {c : Criteria} {fold : Fold} {property : Option String}
    (wordsAll : ∀ d ∈ c.all, IsWord d.property) (wordsAny : ∀ d ∈ c.any, IsWord d.property)
    (written : Sql.clause subject c = .ok clause) (folded : Sql.counted fold property = some result)
    (known : fold = .count ∨ property = some p ∧ CutsInto p column) :
    Cuts (caseWhen clause result (Sql.otherwise fold)).toList (caseTokens c fold column) := by
  have ending := Cuts.space (Cuts.word (by decide : IsWord "END") Ends.nil Cuts.nil)
  have last := Cuts.space (otherwise fold (blank _) ending)
  have between := Cuts.space (Cuts.word (by decide : IsWord "ELSE") (blank _) last)
  have second := Cuts.space (counted folded known (blank _) between)
  have after := Cuts.space (Cuts.word (by decide : IsWord "THEN") (blank _) second)
  have first := Cuts.space (clauseBefore wordsAll wordsAny written (blank _) after)
  have opening := Cuts.space (Cuts.word (by decide : IsWord "WHEN") (blank _) first)
  have whole := Cuts.word (by decide : IsWord "CASE") (blank _) opening
  rw [toList_caseWhen]
  simpa [caseTokens] using whole

end Cuts

namespace Grammar

open Reader

/-- Tokens that are read as one expression, up to what stops behind them. -/
def Stands (tokens : List Token) (e : Expr) : Prop :=
  ∀ {front rest : List Lexeme}, front.map (·.token) = tokens → Stops rest →
    ∀ fuel depth, primary (fuel + 14) (depth + 1) (front ++ rest) = .ok (e, rest)

/-- Tokens that are read as nothing, unless a type follows them. -/
def Falls (tokens : List Token) : Prop :=
  ∀ {front rest : List Lexeme}, front.map (·.token) = tokens → Stops rest → Untyped rest →
    ∀ fuel depth, Fails (primary (fuel + 14) (depth + 1) (front ++ rest))

/-- Tokens that a case does not get past on its way to others. -/
def Halts (tokens others : List Token) : Prop :=
  ∀ {front last : List Lexeme} (between : Option Position), front.map (·.token) = tokens →
    (∃ more, last.map (·.token) = others ++ more) →
      ∀ fuel depth, Strays (fuel + 15) (depth + 2) (front ++ ⟨.word "ELSE", between⟩ :: last)

variable {p : String} {e : Expr}

theorem stands_number (n : Nat) : Stands [unsigned n] (.number (toString n)) := by
  intro front rest spelled ends fuel depth
  obtain ⟨⟨_, pos⟩, rfl, rfl⟩ := List.map_eq_singleton_iff.mp spelled
  exact primary_number (fuel + 11) (depth + 1) pos ends

theorem stands_null : Stands [.word "NULL"] .null := by
  intro front rest spelled ends fuel depth
  obtain ⟨⟨_, pos⟩, rfl, rfl⟩ := List.map_eq_singleton_iff.mp spelled
  refine primary_special pos (typed_word (fuel + 10) (depth + 1) pos (by decide) ends) ?_ ends
  rw [special.eq_def]
  rfl

theorem IsOperand.stands (operand : IsOperand p e) : Stands [.word p] e := by
  intro front rest spelled ends fuel depth
  obtain ⟨⟨_, pos⟩, rfl, rfl⟩ := List.map_eq_singleton_iff.mp spelled
  exact operand.read (fuel + 10) (depth + 1) pos ends

theorem falls_unlisted (unlisted : (Token.word p).keyword ∈ unlistedWords) : Falls [.word p] := by
  intro front rest spelled ends untyped fuel depth
  obtain ⟨⟨_, pos⟩, rfl, rfl⟩ := List.map_eq_singleton_iff.mp spelled
  exact primary_unlisted (fuel + 10) (depth + 1) pos unlisted ends untyped

theorem stands_otherwise (fold : Fold) : ∃ e, Stands (otherwiseTokens fold) e := by
  cases fold <;> first | exact ⟨_, stands_number 0⟩ | exact ⟨_, stands_null⟩

theorem IsOperand.stands_counted (operand : IsOperand p e) (fold : Fold) :
    ∃ e, Stands (countedTokens fold [.word p]) e := by
  cases fold
  case count => exact ⟨_, stands_number 1⟩
  case sum => exact ⟨_, fun spelled ends fuel depth => primary_cast operand spelled ends (by omega) (by omega)⟩
  all_goals exact ⟨e, operand.stands⟩

theorem Falls.halts {tokens others : List Token} (falls : Falls tokens) : Halts tokens others := by
  intro front last between spelled _ fuel depth
  have ends : Stops (⟨.word "ELSE", between⟩ :: last) := (by decide : Token.word "ELSE" ∈ stops)
  exact .inl (subexpr_fails (falls spelled ends (.of_ne (by simp)) fuel depth))

theorem halts_unlisted {fold : Fold} (folds : fold ≠ .count) (unlisted : (Token.word p).keyword ∈ unlistedWords) :
    Halts (countedTokens fold [.word p]) (otherwiseTokens fold) := by
  cases fold
  case count => exact absurd rfl folds
  case sum => exact Falls.halts fun spelled ends _ fuel depth => primary_cast_unlisted unlisted spelled ends (fuel + 2) _
  all_goals exact Falls.halts (falls_unlisted unlisted)

/-- Where nothing is left of a column, the word behind it is taken for one. -/
theorem halts_nothing {fold : Fold} (folds : fold ≠ .count) :
    Halts (countedTokens fold []) (otherwiseTokens fold) := by
  cases fold
  case count => exact absurd rfl folds
  case sum => exact Falls.halts fun spelled ends _ fuel depth => primary_cast_nothing spelled ends (fuel + 2) depth
  all_goals
    intro front last between spelled others fuel depth
    obtain rfl := List.map_eq_nil_iff.mp spelled
    obtain ⟨more, others⟩ := others
    obtain ⟨⟨_, null⟩, left, rfl, rfl, -⟩ := List.map_eq_cons_iff.mp others
    have ends : Stops (⟨.word "NULL", null⟩ :: left) := (by decide : Token.word "NULL" ∈ stops)
    have operand : IsOperand "ELSE" (.column ["ELSE"]) := IsColumn.isOperand (by decide)
    have stray : ∀ w ∈ continuingWords, (Token.word "NULL").keyword ≠ w := by decide
    refine .inr ⟨.column ["ELSE"], ⟨.word "NULL", null⟩ :: left, ?_, stray⟩
    rw [List.nil_append, subexpr_word operand ends between (by omega)]
    exact infixes_stop (fuel + 13) (depth + 1) _ fun t u => Nat.le_refl 0

theorem Stands.subexpr {tokens : List Token} (stands : Stands tokens e) {front rest : List Lexeme}
    (spelled : front.map (·.token) = tokens) (ends : Stops rest)
    (last : ∀ t u, precedenceOf (rest.headD endOfText).token t u = 0) (fuel depth : Nat) :
    subexpr (fuel + 15) (depth + 2) 0 (front ++ rest) = .ok (e, rest) :=
  subexpr_operand (stands spelled ends fuel depth) fun t u => (last t u).le

variable {tree : Criterion → Expr} {levels : Nat} {c : Criteria} {fold : Fold} {column : List Token}

/-- The tokens of a case, one part behind the other. -/
theorem exists_caseLexemes {lexemes : List Lexeme} (spelled : lexemes.map (·.token) = caseTokens c fold column) :
    ∃ (first second last : List Lexeme) (pos opening after between closing : Option Position),
      first.map (·.token) = clauseTokens c ∧ second.map (·.token) = countedTokens fold column ∧
      last.map (·.token) = otherwiseTokens fold ∧
      lexemes = ⟨.word "CASE", pos⟩ :: ⟨.word "WHEN", opening⟩ :: (first ++ ⟨.word "THEN", after⟩ ::
        (second ++ ⟨.word "ELSE", between⟩ :: (last ++ [⟨.word "END", closing⟩]))) := by
  obtain ⟨⟨_, pos⟩, _, rfl, rfl, spelled'⟩ := List.map_eq_cons_iff.mp spelled
  obtain ⟨⟨_, opening⟩, _, rfl, rfl, parts⟩ := List.map_eq_cons_iff.mp spelled'
  obtain ⟨first, _, rfl, spelledFirst, behind⟩ := List.map_eq_append_iff.mp parts
  obtain ⟨⟨_, after⟩, _, rfl, rfl, behind'⟩ := List.map_eq_cons_iff.mp behind
  obtain ⟨second, _, rfl, spelledSecond, rest⟩ := List.map_eq_append_iff.mp behind'
  obtain ⟨⟨_, between⟩, _, rfl, rfl, rest'⟩ := List.map_eq_cons_iff.mp rest
  obtain ⟨last, _, rfl, spelledLast, ending⟩ := List.map_eq_append_iff.mp rest'
  obtain ⟨⟨_, closing⟩, rfl, rfl⟩ := List.map_eq_singleton_iff.mp ending
  exact ⟨first, second, last, pos, opening, after, between, closing, spelledFirst, spelledSecond, spelledLast, rfl⟩

/-- A case whose filter is read is read exactly if the column in it stands. -/
theorem subexpr_case_iff (filters : c.all ≠ []) (readsAll : ∀ d ∈ c.all, ReadsAs levels d (tree d))
    (readsAny : ∀ d ∈ c.any, ReadsAs levels d (tree d)) {lexemes : List Lexeme}
    (spelled : lexemes.map (·.token) = caseTokens c fold column) {stands : Prop}
    (reads : stands → ∃ e, Stands (countedTokens fold column) e)
    (halts : ¬stands → Halts (countedTokens fold column) (otherwiseTokens fold))
    {fuel depth : Nat} (enough : 4 * lexemes.length + 30 ≤ fuel) (deep : levels + 8 ≤ depth) :
    (∃ e, subexpr fuel depth 0 lexemes = .ok (e, [])) ↔ stands := by
  obtain ⟨first, second, last, pos, opening, after, between, closing, spelledFirst, spelledSecond, spelledLast,
    rfl⟩ := exists_caseLexemes spelled
  simp only [List.length_cons, List.length_append, List.length_nil] at enough
  obtain ⟨fuel, rfl⟩ := Nat.exists_eq_add_of_le' (by omega : 21 ≤ fuel)
  obtain ⟨depth, rfl⟩ := Nat.exists_eq_add_of_le' (by omega : 3 ≤ depth)
  let behind : List Lexeme := second ++ ⟨.word "ELSE", between⟩ :: (last ++ [⟨.word "END", closing⟩])
  obtain ⟨condition, known⟩ := exists_treeBy? tree (.inl filters)
  have closes : Closes (⟨.word "THEN", after⟩ :: behind) := (by decide : Token.word "THEN" ∈ Grammar.closes)
  have filter : subexpr (fuel + 15) (depth + 2) 0 (first ++ ⟨.word "THEN", after⟩ :: behind) =
      .ok (condition, ⟨.word "THEN", after⟩ :: behind) :=
    subexpr_treeBy readsAll readsAny spelledFirst known closes (fun t u => rfl) (by omega) (by omega)
  have elseStops (s : List Lexeme) : Stops (⟨.word "ELSE", between⟩ :: s) :=
    (by decide : Token.word "ELSE" ∈ stops)
  have endStops : Stops [⟨.word "END", closing⟩] := (by decide : Token.word "END" ∈ stops)
  constructor
  · rintro ⟨e, read⟩
    by_contra falling
    have strays : Strays (fuel + 15) (depth + 2) behind :=
      halts falling between spelledSecond ⟨[.word "END"], by simp [spelledLast]⟩ fuel depth
    have left : primary (fuel + 20) (depth + 2)
        (⟨.word "CASE", pos⟩ :: ⟨.word "WHEN", opening⟩ :: (first ++ ⟨.word "THEN", after⟩ :: behind)) =
          .ok (.column ["CASE"], ⟨.word "WHEN", opening⟩ :: (first ++ ⟨.word "THEN", after⟩ :: behind)) :=
      primary_case_fails (caseExpr_fails filter strays)
    rw [subexpr_primary left, infixes_stop _ _ _ fun t u => Nat.zero_le 0] at read
    cases read
  · intro standing
    obtain ⟨result, second'⟩ := reads standing
    obtain ⟨other, third⟩ := stands_otherwise fold
    refine ⟨.form "CASE" [condition, result, other], ?_⟩
    have otherwise := third.subexpr spelledLast endStops (fun t u => rfl) (fuel + 1) depth
    refine subexpr_operand (primary_case ?_ closes_nil.stops) fun t u => Nat.le_refl 0
    exact caseExpr_run filter (second'.subexpr spelledSecond (elseStops _) (fun t u => rfl) fuel depth) otherwise

/-- A column that is bare, if anything is left of it, stands or halts a case. -/
theorem exists_columnTokens {property : Option String} {result : String} (folded : counted fold property = some result)
    (named : ∀ p ∈ property, p ≠ "" → Column.IsBare p) :
    let usable := fold = .count ∨ ∀ p ∈ property, p ≠ "" ∧ (Token.word p).keyword ∉ unlistedWords
    ∃ p column, (fold = .count ∨ property = some p ∧ CutsInto p column) ∧
      (usable → ∃ e, Stands (countedTokens fold column) e) ∧
      (¬usable → Halts (countedTokens fold column) (otherwiseTokens fold)) := by
  intro usable
  by_cases counts : fold = .count
  · subst counts
    exact ⟨"", [], .inl rfl, fun _ => ⟨_, stands_number 1⟩, fun unusable => absurd (.inl rfl) unusable⟩
  cases property with
  | none => cases fold <;> first | exact absurd rfl counts | cases folded
  | some p =>
    by_cases nothing : p = ""
    · refine ⟨p, [], .inr ⟨rfl, nothing ▸ cutsInto_nothing⟩, fun stands => ?_, fun _ => halts_nothing counts⟩
      exact absurd nothing (stands.resolve_left counts p rfl).1
    · refine ⟨p, [.word p], .inr ⟨rfl, cutsInto_word (named p rfl nothing).isWord⟩, fun stands => ?_, fun falling => ?_⟩
      · obtain ⟨e, operand⟩ := exists_isOperand (named p rfl nothing) (stands.resolve_left counts p rfl).2
        exact operand.stands_counted fold
      · refine halts_unlisted counts ?_
        simpa [usable, counts, nothing] using falling

end Grammar

theorem caseWhen_ne_empty (clause result other : String) : caseWhen clause result other ≠ "" := by
  intro empty
  have characters := congrArg String.toList empty
  rw [toList_caseWhen] at characters
  simp at characters

/-- A bare column alone is valid, unless it is one of the two words. -/
theorem validate_column_iff {subject p : String} (bare : Column.IsBare p) :
    validate subject p = .ok () ↔ (Token.word p).keyword ∉ Grammar.unlistedWords := by
  have cuts : Cuts p.toList [.word p] := by simpa using Cuts.word bare.isWord Ends.nil Cuts.nil
  obtain ⟨lexemes, lexed, spelled⟩ := cuts.lex
  have bound : 15 ≤ Grammar.fuelFor lexemes := by
    unfold Grammar.fuelFor
    omega
  obtain ⟨fuel, enough⟩ := Nat.exists_eq_add_of_le' bound
  have ends : Grammar.Stops [] := Grammar.closes_nil.stops
  rw [validate_eq_ok_iff bare.nonempty lexed, enough, ← List.append_nil lexemes]
  constructor
  · rintro ⟨e, read⟩ unlisted
    have untyped : Grammar.Untyped [] := .of_ne nofun
    have fails : Grammar.Fails (Grammar.subexpr (fuel + 15) Grammar.maxNesting 0 (lexemes ++ [])) :=
      Grammar.subexpr_fails (Grammar.falls_unlisted unlisted spelled ends untyped fuel 48)
    obtain ⟨fault, failed⟩ := fails
    rw [failed] at read
    cases read
  · intro other
    obtain ⟨e, operand⟩ := Grammar.exists_isOperand bare other
    have stands : Grammar.Stands [.word p] e := operand.stands
    exact ⟨e, stands.subexpr spelled ends (fun t u => rfl) fuel 48⟩

/-- A filter that is valid makes a case that is valid, too, unless nothing is left of the column in it, or it is one of
the two words. The case takes one of the levels that lists may stand inside each other. -/
theorem validate_case_iff {subject subject' clause result : String} {c : Criteria} {levels : Nat} {fold : Fold}
    {property : Option String} (bare : ∀ d ∈ c.all ++ c.any, Column.IsBare d.property)
    (shallow : ∀ d ∈ c.all ++ c.any, d.value.nesting ≤ levels) (room : levels + 8 ≤ Grammar.maxNesting)
    (filters : c.all ≠ []) (written : Sql.clause subject c = .ok clause) (valid : validate subject clause = .ok ())
    (folded : counted fold property = some result) (named : ∀ p ∈ property, p ≠ "" → Column.IsBare p) :
    validate subject' (caseWhen clause result (otherwise fold)) = .ok () ↔
      fold = .count ∨ ∀ p ∈ property, p ≠ "" ∧ (Token.word p).keyword ∉ Grammar.unlistedWords := by
  have inAll {d : Criterion} (member : d ∈ c.all) : d ∈ c.all ++ c.any := List.mem_append_left _ member
  have inAny {d : Criterion} (member : d ∈ c.any) : d ∈ c.all ++ c.any := List.mem_append_right _ member
  have usable := (validate_written_iff bare shallow (by omega) filters written).mp valid
  obtain ⟨tree, settled⟩ := Grammar.exists_settled bare shallow (condition_written written)
  have reads : ∀ d ∈ c.all ++ c.any, Grammar.ReadsAs levels d (tree d) :=
    fun d member => (settled d member).1 (usable d member)
  obtain ⟨p, column, known, stands, halts⟩ := Grammar.exists_columnTokens folded named
  obtain ⟨lexemes, lexed, spelled⟩ := (Cuts.case (fun d member => (bare d (inAll member)).isWord)
    (fun d member => (bare d (inAny member)).isWord) written folded known).lex
  rw [validate_eq_ok_iff (caseWhen_ne_empty clause result _) lexed]
  exact Grammar.subexpr_case_iff filters (fun d member => reads d (inAll member))
    (fun d member => reads d (inAny member)) spelled stands halts (by unfold Grammar.fuelFor; omega) room

end AttributeStore.Sql
