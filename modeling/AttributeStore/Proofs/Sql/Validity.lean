import AttributeStore.Proofs.Sql.Refusals

/-! Clauses that are valid. Over bare columns a clause is one expression, unless one of its columns is a word that cannot
stand alone, or one of its conditions lacks values. -/
namespace AttributeStore.Sql

theorem validate_eq_ok_iff {subject text : String} {lexemes : List Lexeme} (filters : text ≠ "")
    (lexed : lex text = .ok lexemes) : validate subject text = .ok () ↔
      ∃ e, Grammar.subexpr (Grammar.fuelFor lexemes) Grammar.maxNesting 0 lexemes = .ok (e, []) := by
  have nonempty : text.isEmpty = false := by simpa using filters
  rw [validate, nonempty]
  simp only [Bool.false_eq_true, if_false, Expr.parse, lexed, bind, Except.bind, StateT.run]
  cases read : Grammar.subexpr (Grammar.fuelFor lexemes) Grammar.maxNesting 0 lexemes with
  | error fault => simp
  | ok result =>
    obtain ⟨e, rest⟩ := result
    cases rest with
    | nil => exact iff_of_true rfl ⟨e, rfl⟩
    | cons l rest => simp

namespace Grammar

/-- Over bare columns a condition is read, unless its column is one of the two words or it lacks values. -/
theorem exists_readsAs {d : Criterion} (bare : Column.IsBare d.property)
    (other : (Token.word d.property).keyword ∉ unlistedWords) (filled : d.isFilled) {levels : Nat}
    (shallow : d.value.nesting ≤ levels) : ∃ e, ReadsAs levels d e := by
  obtain ⟨p, operand⟩ := exists_isOperand bare other
  exact ⟨_, operand.readsAs filled shallow⟩

/-- A condition over a bare column that is read: its column is none of the two words, and it does not lack values. -/
def IsUsable (d : Criterion) : Prop := (Token.word d.property).keyword ∉ unlistedWords ∧ d.isFilled

/-- Of conditions over bare columns that could be written it is known which are read and which are refused. -/
theorem exists_settled {ds : List Criterion} {levels : Nat} (bare : ∀ d ∈ ds, Column.IsBare d.property)
    (shallow : ∀ d ∈ ds, d.value.nesting ≤ levels) {subject : String}
    (written : ∀ d ∈ ds, ∃ text, condition subject d = .ok text) : ∃ tree : Criterion → Expr, ∀ d ∈ ds,
      (IsUsable d → ReadsAs levels d (tree d)) ∧ (¬IsUsable d → IsRefused levels d) := by
  have exists_reads : ∀ d ∈ ds, IsUsable d → ∃ e, ReadsAs levels d e :=
    fun d member usable => exists_readsAs (bare d member) usable.1 usable.2 (shallow d member)
  choose! tree reads using exists_reads
  refine ⟨tree, fun d member => ⟨reads d member, fun unusable => ?_⟩⟩
  by_cases unlisted : (Token.word d.property).keyword ∈ unlistedWords
  case pos =>
    obtain ⟨text, written⟩ := written d member
    exact isRefused_of_unlisted unlisted written
  case neg =>
    obtain ⟨p, operand⟩ := exists_isOperand (bare d member) unlisted
    exact isRefused_of_unfilled operand (by simpa [IsUsable, unlisted] using unusable) (shallow d member)

end Grammar

/-- The conditions of a clause that could be written. -/
theorem condition_written {subject text : String} {c : Criteria} (written : clause subject c = .ok text) :
    ∀ d ∈ c.all ++ c.any, ∃ text, condition subject d = .ok text := by
  simp only [clause, conditions_eq_mapM, bind_eq_ok_iff] at written
  obtain ⟨all, writtenAll, any, writtenAny, -⟩ := written
  intro d member
  rcases List.mem_append.mp member with member | member
  · obtain ⟨text, -, written⟩ := (exists_of_mapM_eq_ok writtenAll).1 d member
    exact ⟨text, written⟩
  · obtain ⟨text, -, written⟩ := (exists_of_mapM_eq_ok writtenAny).1 d member
    exact ⟨text, written⟩

/-- A clause over bare columns is read as its conditions put together, and it is refused for any of them. -/
theorem Grammar.subexpr_clause {c : Criteria} {tree : Criterion → Expr} {levels : Nat}
    (settled : ∀ d ∈ c.all ++ c.any,
      (IsUsable d → ReadsAs levels d (tree d)) ∧ (¬IsUsable d → IsRefused levels d))
    {lexemes : List Lexeme} (spelled : lexemes.map (·.token) = clauseTokens c) {fuel depth : Nat}
    (enough : 4 * lexemes.length + 30 ≤ fuel) (deep : levels + 7 ≤ depth) :
    ((∀ d ∈ c.all ++ c.any, IsUsable d) →
      ∀ e, treeBy? tree c = some e → subexpr fuel depth 0 lexemes = .ok (e, [])) ∧
    ((∃ d ∈ c.all ++ c.any, ¬IsUsable d) → Fails (subexpr fuel depth 0 lexemes)) := by
  have inAll {d : Criterion} (member : d ∈ c.all) : d ∈ c.all ++ c.any := List.mem_append_left _ member
  have inAny {d : Criterion} (member : d ∈ c.any) : d ∈ c.all ++ c.any := List.mem_append_right _ member
  constructor
  · intro usable e known
    have reads : ∀ d ∈ c.all ++ c.any, ReadsAs levels d (tree d) :=
      fun d member => (settled d member).1 (usable d member)
    exact subexpr_whole (fun d member => reads d (inAll member)) (fun d member => reads d (inAny member)) spelled known
      enough deep
  · rintro ⟨d, member, unusable⟩
    have each : ∀ d ∈ c.all ++ c.any, Settled levels tree d := by
      intro d member
      by_cases usable : IsUsable d
      case pos => exact .inl ((settled d member).1 usable)
      case neg => exact .inr ((settled d member).2 usable)
    have refused := (settled d member).2 unusable
    exact subexpr_clause_fails (fun d member => each d (inAll member)) (fun d member => each d (inAny member))
      ((List.mem_append.mp member).imp (fun all => ⟨d, all, refused⟩) fun any => ⟨d, any, refused⟩) spelled enough deep

/-- A clause over bare columns is valid exactly if no column is one of the two words and no condition lacks values. -/
theorem validate_written_iff {subject text : String} {c : Criteria} {levels : Nat}
    (bare : ∀ d ∈ c.all ++ c.any, Column.IsBare d.property) (shallow : ∀ d ∈ c.all ++ c.any, d.value.nesting ≤ levels)
    (room : levels + 7 ≤ Grammar.maxNesting) (filters : c.all ≠ []) (written : clause subject c = .ok text) :
    validate subject text = .ok () ↔
      ∀ d ∈ c.all ++ c.any, (Token.word d.property).keyword ∉ Grammar.unlistedWords ∧ d.isFilled := by
  obtain ⟨tree, settled⟩ := Grammar.exists_settled bare shallow (condition_written written)
  obtain ⟨lexemes, lexed, spelled⟩ := (Cuts.clause
    (fun d member => (bare d (List.mem_append_left _ member)).isWord)
    (fun d member => (bare d (List.mem_append_right _ member)).isWord) written).lex
  have enough : 4 * lexemes.length + 30 ≤ Grammar.fuelFor lexemes := by
    unfold Grammar.fuelFor
    omega
  obtain ⟨whole, fails⟩ := Grammar.subexpr_clause settled spelled enough room
  rw [validate_eq_ok_iff (clause_nonempty written filters) lexed]
  constructor
  · rintro ⟨e, read⟩ d member
    by_contra unusable
    obtain ⟨fault, failed⟩ := fails ⟨d, member, unusable⟩
    rw [failed] at read
    cases read
  · intro usable
    obtain ⟨e, known⟩ := exists_treeBy? tree (.inl filters)
    exact ⟨e, whole usable e known⟩

/-- A clause over bare columns and fitting values is valid exactly if no column is one of the two words. -/
theorem validate_clause_iff {subject text : String} {c : Criteria}
    (bare : ∀ d ∈ c.all ++ c.any, Column.IsBare d.property) (fits : ∀ d ∈ c.all ++ c.any, d.Fits)
    (filters : c.all ≠ []) (written : clause subject c = .ok text) :
    validate subject text = .ok () ↔
      ∀ d ∈ c.all ++ c.any, (Token.word d.property).keyword ∉ Grammar.unlistedWords := by
  rw [validate_written_iff bare (fun d member => (fits d member).isPlain.facts.2) (by decide) filters written]
  exact forall₂_congr fun d member => and_iff_left (fits d member).isFilled

end AttributeStore.Sql
