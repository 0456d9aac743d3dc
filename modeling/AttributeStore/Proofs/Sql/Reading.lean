import AttributeStore.Proofs.Sql.Lexing

/-! Expressions read from tokens. -/
namespace AttributeStore.Sql.Grammar

namespace Reader

theorem run_bind (x : Reader α) (f : α → Reader β) (s : List Lexeme) :
    (x >>= f) s = match x s with
      | .ok (a, s') => f a s'
      | .error fault => .error fault := by
  show (x s >>= fun (a, s') => f a s') = _
  rcases x s with fault | ⟨a, s'⟩ <;> rfl

theorem run_pure (a : α) (s : List Lexeme) : (pure a : Reader α) s = .ok (a, s) := rfl

theorem run_refuse (what : String) (found : Lexeme) (s : List Lexeme) :
    (refuse what found : Reader α) s = .error (.expected what found) := rfl

theorem run_get (s : List Lexeme) : (get : Reader (List Lexeme)) s = .ok (s, s) := rfl

theorem run_peek (s : List Lexeme) : peek s = .ok (s.headD endOfText, s) := rfl

theorem run_peekAt (n : Nat) (s : List Lexeme) : peekAt n s = .ok ((s[n]?.getD endOfText).token, s) := rfl

theorem run_next (s : List Lexeme) : next s = .ok (s.headD endOfText, s.drop 1) := rfl

theorem run_sawSymbol (t : String) (s : List Lexeme) : sawSymbol t s =
    if (s.headD endOfText).token = .symbol t then .ok (true, s.drop 1) else .ok (false, s) := by
  simp only [sawSymbol, run_bind, run_peek]
  split <;> rfl

theorem run_expectSymbol (t : String) (s : List Lexeme) : expectSymbol t s =
    if (s.headD endOfText).token = .symbol t then .ok ((), s.drop 1)
    else .error (.expected t (s.headD endOfText)) := by
  simp only [expectSymbol, run_bind, run_next]
  split <;> rfl

theorem run_sawKeywords (words : List String) (s : List Lexeme) : sawKeywords words s =
    if (s.take words.length).map (·.token.keyword) = words then .ok (true, s.drop words.length)
    else .ok (false, s) := by
  simp only [sawKeywords, run_bind, run_get]
  split <;> rfl

theorem run_oneKeyword (words : List String) (s : List Lexeme) : oneKeyword words s =
    if words.contains (s.headD endOfText).token.keyword then .ok (some (s.headD endOfText).token.keyword, s.drop 1)
    else .ok (none, s) := by
  simp only [oneKeyword, run_bind, run_peek]
  split <;> rfl

theorem run_sawKeyword (w : String) (named : w ≠ "") (s : List Lexeme) : sawKeyword w s =
    if (s.headD endOfText).token.keyword = w then .ok (true, s.drop 1) else .ok (false, s) := by
  rw [sawKeyword, run_sawKeywords]
  cases s with
  | nil => simp [endOfText, Token.keyword, named.symm]
  | cons l s => simp

end Reader

open Reader

/-- What may stand behind an operand: the end, a separator, a connective, a comparison, what goes on with a case or a
cast, or the value or the type there if the operand is the word before it. -/
def stops : List Token := [
  .ended, .symbol ")", .symbol ",", .word "AND", .word "OR", .symbol "=", .symbol "<>", .symbol "<", .symbol ">",
  .symbol "<=", .symbol ">=", .word "LIKE", .word "IN", .word "IS", .word "THEN", .word "ELSE", .word "END", .word "AS",
  .word "NULL", .word "FLOAT"]

/-- The keywords among them. -/
def stopWords : List String := ["", "AND", "OR", "LIKE", "IN", "IS", "THEN", "ELSE", "END", "AS", "NULL", "FLOAT"]

def Stops (rest : List Lexeme) : Prop := (rest.headD endOfText).token ∈ stops

/-- A failure that `attempt` takes back. -/
def Refuses (x : Except Fault α) : Prop := ∃ fault, x = .error fault ∧ fault ≠ .tooDeep

theorem Refuses.attempt {p : Reader α} {s : List Lexeme} (refuses : Refuses (p s)) : attempt p s = .ok (none, s) := by
  obtain ⟨fault, failed, shallow⟩ := refuses
  cases fault <;> simp_all [Reader.attempt]

theorem Stops.symbol {rest : List Lexeme} (ends : Stops rest) (other : Token.symbol t ∉ stops) :
    (rest.headD endOfText).token ≠ .symbol t := fun same => other (same ▸ ends)

theorem Stops.keyword {rest : List Lexeme} (ends : Stops rest) (other : w ∉ stopWords) :
    (rest.headD endOfText).token.keyword ≠ w := by
  have known : ∀ t ∈ stops, t.keyword ∈ stopWords := by decide
  exact fun same => other (same ▸ known _ ends)

theorem Stops.sawSymbol {rest : List Lexeme} (ends : Stops rest) (other : Token.symbol t ∉ stops) :
    Reader.sawSymbol t rest = .ok (false, rest) := by
  rw [run_sawSymbol, if_neg (ends.symbol other)]

theorem Stops.expectSymbol {rest : List Lexeme} (ends : Stops rest) (other : Token.symbol t ∉ stops) :
    Reader.expectSymbol t rest = .error (.expected t (rest.headD endOfText)) := by
  rw [run_expectSymbol, if_neg (ends.symbol other)]

theorem Stops.sawKeyword {rest : List Lexeme} (ends : Stops rest) (other : w ∉ stopWords) :
    Reader.sawKeyword w rest = .ok (false, rest) := by
  rw [run_sawKeyword w (by rintro rfl; simp [stopWords] at other), if_neg (ends.keyword other)]

/-- Whether a token may pass for the text behind a type. -/
def passesForText : Token → Bool
  | .text _ | .marked .. | .name .. => true
  | .word s => !isKnown (Token.word s).keyword
  | _ => false

theorem Stops.typedText {rest : List Lexeme} (ends : Stops rest) : Refuses (Grammar.typedText rest) := by
  have texts : ∀ t ∈ stops, passesForText t = false := by decide +kernel
  have other := texts _ ends
  unfold Refuses Grammar.typedText
  simp only [run_bind, run_next]
  generalize rest.headD endOfText = l at other
  obtain ⟨token, pos⟩ := l
  cases token <;> simp_all [passesForText, run_refuse]

theorem Stops.size {rest : List Lexeme} (ends : Stops rest) : Grammar.size rest = .ok ((), rest) := by
  simp (disch := decide) only [Grammar.size, run_bind, ends.sawSymbol]
  rfl

theorem Stops.timeZone {rest : List Lexeme} (ends : Stops rest) : Grammar.timeZone rest = .ok ((), rest) := by
  simp (disch := decide) only [Grammar.timeZone, run_bind, ends.size, ends.sawKeyword, Bool.false_eq_true, if_false]
  rfl

theorem dimensions_none {s : List Lexeme} (plain : (s.headD endOfText).token ≠ .symbol "[") (fuel : Nat) :
    dimensions fuel s = .ok ((), s) := by
  cases fuel with
  | zero => rfl
  | succ fuel =>
    simp only [dimensions, run_bind, run_sawSymbol, if_neg plain]
    rfl

theorem objectName_word (p : String) (pos : Option Position) {s : List Lexeme}
    (plain : (s.headD endOfText).token ≠ .symbol ".") : objectName (⟨.word p, pos⟩ :: s) = .ok ([p], s) := by
  simp only [objectName, run_bind, identifier, run_next, List.headD_cons, run_pure, List.drop_succ_cons,
    List.drop_zero, run_get]
  cases s with
  | nil => rfl
  | cons l s =>
    simp only [List.length_cons, objectNameRest, run_bind, run_sawSymbol, if_neg plain]
    rfl

/-- A word by itself is a type, or none that is known; only `INTERVAL` is one that no text has to follow. -/
theorem namedType_word {p : String} {rest : List Lexeme} (fuel : Nat) (pos : Option Position)
    (plain : (Token.word p).keyword ∉ ["ARRAY", "INTERVAL", "STRUCT"]) (ends : Stops rest) :
    Refuses (namedType (fuel + 1) (Token.word p).keyword (⟨.word p, pos⟩ :: rest)) ∨
      ∃ known, namedType (fuel + 1) (Token.word p).keyword (⟨.word p, pos⟩ :: rest) = .ok ((known, false), rest) ∧
        known ≠ some "INTERVAL" := by
  generalize (Token.word p).keyword = w at plain
  have other : some w ≠ some "INTERVAL" := by
    rintro ⟨⟩
    simp at plain
  rw [namedType.eq_def]
  dsimp only
  split
  case isTrue bare => exact .inr ⟨some w, rfl, other⟩
  split
  case isTrue sized =>
    refine .inr ⟨some w, ?_, other⟩
    simp only [run_bind, run_next, List.drop_succ_cons, List.drop_zero]
    split <;> split <;> simp (disch := decide) only [run_bind, ends.sawKeyword, ends.size, run_pure]
  split
  case h_1 | h_2 =>
    refine .inr ⟨_, ?_, other⟩
    simp only [run_bind, run_next, List.drop_succ_cons, List.drop_zero, ends.timeZone, run_pure]
  case h_3 | h_4 | h_5 => simp at plain
  case h_18 =>
    have name := objectName_word p pos (ends.symbol (by decide))
    refine .inr ⟨none, ?_, by rintro ⟨⟩⟩
    simp (disch := decide) only [run_bind, name, ends.sawSymbol]
    rfl
  all_goals exact .inl ⟨_, rfl, by rintro ⟨⟩⟩

/-- A word that no text follows is not read as a type. -/
theorem typed_word {p : String} {rest : List Lexeme} (fuel depth : Nat) (pos : Option Position)
    (plain : (Token.word p).keyword ∉ ["ARRAY", "INTERVAL", "STRUCT"]) (ends : Stops rest) :
    Refuses (typed (fuel + 3) depth (⟨.word p, pos⟩ :: rest)) := by
  rw [typed.eq_def]
  dsimp only
  rw [run_bind, dataType, run_bind, typeForm.eq_def]
  simp only [run_bind, run_peek, List.headD_cons]
  rcases namedType_word fuel pos plain ends with ⟨fault, failed, shallow⟩ | ⟨known, run, other⟩
  · simp only [failed]
    exact ⟨fault, rfl, shallow⟩
  · simp only [run, run_get, dimensions_none (ends.symbol (by decide)), if_true, run_pure, Bool.false_eq_true, if_false]
    split
    case h_1 => exact absurd rfl other
    case h_2 =>
      obtain ⟨fault, failed, shallow⟩ := ends.typedText
      exact ⟨fault, by simp only [run_bind, failed], shallow⟩
    case h_3 => exact ⟨_, rfl, by rintro ⟨⟩⟩

/-- Words that begin more than a name, or that are read as something else behind a connective or a parenthesis. -/
def meaningful : List String := [
  "TRUE", "FALSE", "NULL", "CURRENT_CATALOG", "CURRENT_USER", "SESSION_USER", "USER", "CURRENT_TIMESTAMP",
  "CURRENT_TIME", "CURRENT_DATE", "LOCALTIME", "LOCALTIMESTAMP", "CASE", "EXISTS", "TRIM", "INTERVAL", "NOT", "STRUCT",
  "ARRAY", "ANY", "ALL", "SOME", "SELECT", "WITH"]

/-- A word that stands for a column wherever an operand may stand. -/
structure IsColumn (p : String) : Prop where
  word : IsWord p
  plain : (Token.word p).keyword ∉ meaningful

instance (p : String) : Decidable (IsColumn p) :=
  decidable_of_iff (IsWord p ∧ (Token.word p).keyword ∉ meaningful)
    ⟨fun ⟨word, plain⟩ => ⟨word, plain⟩, fun ⟨word, plain⟩ => ⟨word, plain⟩⟩

theorem IsColumn.other {p : String} (column : IsColumn p) {words : List String}
    (meant : ∀ w ∈ words, w ∈ meaningful) : (Token.word p).keyword ∉ words :=
  fun member => column.plain (meant _ member)

theorem special_column {p : String} {rest : List Lexeme} (fuel depth : Nat) (pos : Option Position)
    (plain : (Token.word p).keyword ∉ meaningful) (ends : Stops rest) (e : Expr) (left : List Lexeme) :
    special (fuel + 1) depth (⟨.word p, pos⟩ :: rest) ≠ .ok (some e, left) := by
  intro read
  rw [special.eq_def] at read
  simp only [run_bind, run_next, List.headD_cons, List.drop_succ_cons, List.drop_zero] at read
  generalize (Token.word p).keyword = w at plain read
  split at read
  case h_23 =>
    rw [run_bind, run_peek] at read
    simp only [if_neg (ends.symbol (by decide : Token.symbol "(" ∉ stops))] at read
    cases read
  all_goals first
    | exact plain (by decide)
    | rw [run_bind, ends.expectSymbol (by decide)] at read
      cases read
    | rw [run_bind, ends.sawSymbol (by decide)] at read
      cases read
    | cases read

theorem named_column {p : String} {rest : List Lexeme} (fuel depth : Nat) (pos : Option Position)
    (ends : Stops rest) : named (fuel + 1) depth (⟨.word p, pos⟩ :: rest) = .ok (.column [p], rest) := by
  rw [named.eq_def]
  simp only [run_bind, run_next, List.headD_cons, List.drop_succ_cons, List.drop_zero, run_peek]
  unfold Stops at ends
  have silent : ∀ t ∈ stops, t ≠ .symbol "(" ∧ t ≠ .symbol "." ∧ (∀ s, t ≠ .text s) ∧
      ∀ opening s closing, t ≠ .marked opening s closing := by
    simp [stops]
  have other := silent _ ends
  generalize (rest.headD endOfText).token = t at other
  split <;> simp_all [run_pure]

theorem wordExpr_column {p : String} {rest : List Lexeme} (fuel depth : Nat) (pos : Option Position)
    (plain : (Token.word p).keyword ∉ meaningful) (ends : Stops rest) :
    wordExpr (fuel + 2) depth (⟨.word p, pos⟩ :: rest) = .ok (.column [p], rest) := by
  rw [wordExpr.eq_def]
  dsimp only
  have name := named_column fuel depth pos (p := p) ends
  cases read : special (fuel + 1) depth (⟨.word p, pos⟩ :: rest) with
  | ok result =>
    obtain ⟨⟨⟩ | e, left⟩ := result
    · exact name
    · exact absurd read (special_column fuel depth pos plain ends e left)
  | error fault =>
    have fallsBack : neverNames.contains (Token.word p).keyword = false := by
      rw [List.contains_eq_mem, decide_eq_false_iff_not]
      intro never
      have meant : ∀ w ∈ neverNames, w ∈ meaningful := by decide
      exact plain (meant _ never)
    simp only [List.headD_cons, fallsBack, Bool.false_eq_true, if_false, attempt, name]

theorem primary_word {p : String} {rest : List Lexeme} (fuel depth : Nat) (pos : Option Position) {e : Expr}
    (plain : (Token.word p).keyword ∉ ["ARRAY", "INTERVAL", "STRUCT"]) (ends : Stops rest)
    (read : wordExpr (fuel + 3) depth (⟨.word p, pos⟩ :: rest) = .ok (e, rest)) :
    primary (fuel + 4) depth (⟨.word p, pos⟩ :: rest) = .ok (e, rest) := by
  rw [primary.eq_def]
  dsimp only
  rw [run_bind, (typed_word fuel depth pos plain ends).attempt]
  dsimp only
  simp (disch := decide) only [run_bind, run_peek, List.headD_cons, read, ends.sawKeyword, Bool.false_eq_true,
    if_false, run_pure]

/-- Words that are read as something else behind an operator or a parenthesis. -/
def marks : List String := ["ANY", "ALL", "SOME", "SELECT", "WITH"]

def Unmarked (t : Token) : Prop := t.keyword ∉ marks

theorem Unmarked.unquantified {t : Token} (unmarked : Unmarked t) : t.keyword ∉ ["ANY", "ALL", "SOME"] :=
  fun quantifier => unmarked (List.mem_append_left ["SELECT", "WITH"] quantifier)

theorem Unmarked.noQuery {t : Token} (unmarked : Unmarked t) : t.keyword ≠ "SELECT" ∧ t.keyword ≠ "WITH" := by
  have other : t.keyword ∉ ["SELECT", "WITH"] :=
    fun query => unmarked (List.mem_append_right ["ANY", "ALL", "SOME"] query)
  simpa using other

/-- A word that is read as one expression wherever an operand may stand. -/
structure IsOperand (p : String) (e : Expr) : Prop where
  word : IsWord p
  unmarked : Unmarked (.word p)
  read : ∀ {rest : List Lexeme} (fuel depth : Nat) (pos : Option Position), Stops rest →
    primary (fuel + 4) depth (⟨.word p, pos⟩ :: rest) = .ok (e, rest)

theorem IsColumn.isOperand {p : String} (column : IsColumn p) : IsOperand p (.column [p]) where
  word := column.word
  unmarked := column.other (by decide)
  read fuel depth pos ends := primary_word fuel depth pos (column.other (by decide)) ends
    (wordExpr_column (fuel + 1) depth pos column.plain ends)

/-- What is not a name is not read as a type. -/
theorem typed_other {t : Token} {rest : List Lexeme} (fuel depth : Nat) (pos : Option Position)
    (other : ∀ q s, t ≠ .word s ∧ t ≠ .name q s) : Refuses (typed (fuel + 2) depth (⟨t, pos⟩ :: rest)) := by
  rw [typed.eq_def]
  dsimp only
  rw [run_bind, dataType, run_bind, typeForm.eq_def]
  dsimp only
  rw [run_bind, run_peek]
  cases t with
  | word s => exact absurd rfl (other ' ' s).1
  | name q s => exact absurd rfl (other q s).2
  | _ => exact ⟨_, rfl, nofun⟩

theorem primary_bool {b : Bool} {rest : List Lexeme} (fuel depth : Nat) (pos : Option Position) (ends : Stops rest) :
    primary (fuel + 4) depth (⟨.word (if b then "TRUE" else "FALSE"), pos⟩ :: rest) = .ok (.bool b, rest) := by
  have keyword : (Token.word (if b then "TRUE" else "FALSE")).keyword = if b then "TRUE" else "FALSE" := by
    cases b <;> decide
  refine primary_word fuel depth pos (by rw [keyword]; cases b <;> decide) ends ?_
  have meant : special (fuel + 2) depth (⟨.word (if b then "TRUE" else "FALSE"), pos⟩ :: rest) =
      .ok (some (.bool b), rest) := by
    rw [special.eq_def]
    cases b <;> rfl
  rw [wordExpr.eq_def]
  dsimp only
  rw [meant]

theorem primary_number {s : String} {rest : List Lexeme} (fuel depth : Nat) (pos : Option Position)
    (ends : Stops rest) : primary (fuel + 3) depth (⟨.number s false, pos⟩ :: rest) = .ok (.number s, rest) := by
  rw [primary.eq_def]
  dsimp only
  rw [run_bind, (typed_other fuel depth pos (by simp)).attempt]
  simp (disch := decide) only [run_bind, run_peek, List.headD_cons, value, run_next, run_pure, List.drop_succ_cons,
    List.drop_zero, ends.sawKeyword, Bool.false_eq_true, if_false]

theorem primary_text {s : String} {rest : List Lexeme} (fuel depth : Nat) (pos : Option Position) (ends : Stops rest) :
    primary (fuel + 3) depth (⟨.text s, pos⟩ :: rest) = .ok (.text s, rest) := by
  rw [primary.eq_def]
  dsimp only
  rw [run_bind, (typed_other fuel depth pos (by simp)).attempt]
  simp (disch := decide) only [run_bind, run_peek, List.headD_cons, value, run_next, run_pure, List.drop_succ_cons,
    List.drop_zero, ends.sawKeyword, Bool.false_eq_true, if_false]

theorem primary_minus {rest left : List Lexeme} {e : Expr} (fuel depth : Nat) (pos : Option Position)
    (ends : Stops rest) (read : subexpr (fuel + 2) depth 40 left = .ok (e, rest)) :
    primary (fuel + 3) depth (⟨.symbol "-", pos⟩ :: left) = .ok (.unary "-" e, rest) := by
  rw [primary.eq_def]
  dsimp only
  rw [run_bind, (typed_other fuel depth pos (by simp)).attempt]
  simp (disch := decide) only [run_bind, run_peek, List.headD_cons, read, run_next, run_pure, List.drop_succ_cons,
    List.drop_zero, ends.sawKeyword, Bool.false_eq_true, if_false]
  rfl

theorem primary_opening {rest left : List Lexeme} {e : Expr} (fuel depth : Nat) (pos : Option Position)
    (ends : Stops rest) (read : parenthesized (fuel + 2) depth left = .ok (e, rest)) :
    primary (fuel + 3) depth (⟨.symbol "(", pos⟩ :: left) = .ok (e, rest) := by
  rw [primary.eq_def]
  dsimp only
  rw [run_bind, (typed_other fuel depth pos (by simp)).attempt]
  simp (disch := decide) only [run_bind, run_peek, List.headD_cons, read, run_next, run_pure, List.drop_succ_cons,
    List.drop_zero, ends.sawKeyword, Bool.false_eq_true, if_false]

end AttributeStore.Sql.Grammar
