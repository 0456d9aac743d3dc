import AttributeStore.Proofs.Sql.Spelling

/-! Clauses written out and read again. -/
namespace AttributeStore.Sql

/-- Conditions joined to an expression, from the left, each of them as it is read. -/
def joinBy (tree : Criterion → Expr) (word : String) (first : Expr) (cs : List Criterion) : Expr :=
  cs.foldl (fun e c => .binary word e (tree c)) first

/-- The expression that a filter is, if it filters at all, where `tree` says what its conditions are. -/
def treeBy? (tree : Criterion → Expr) (c : Criteria) : Option Expr :=
  match c.all, c.any with
  | [], [] => none
  | d :: ds, [] => some (joinBy tree "AND" (tree d) ds)
  | [], d :: ds => some (joinBy tree "OR" (tree d) ds)
  | d :: ds, e :: es => some (.binary "AND" (joinBy tree "AND" (tree d) ds) (.nested (joinBy tree "OR" (tree e) es)))

/-- The expression that a filter on plain columns is. -/
def clauseTree? (c : Criteria) : Option Expr := treeBy? conditionTree c

theorem exists_treeBy? (tree : Criterion → Expr) {c : Criteria} (filters : c.all ≠ [] ∨ c.any ≠ []) :
    ∃ e, treeBy? tree c = some e := by
  unfold treeBy?
  cases declaredAll : c.all <;> cases declaredAny : c.any <;> simp_all

theorem clause_nonempty {subject text : String} {c : Criteria} (written : Sql.clause subject c = .ok text)
    (filters : c.all ≠ []) : text ≠ "" := by
  simp only [Sql.clause, conditions_eq_mapM, bind_eq_ok_iff] at written
  obtain ⟨all, writtenAll, any, -, joined⟩ := written
  have nonempty : (" AND ".intercalate all).isEmpty = false := by
    rw [intercalate_isEmpty (mapM_eq_ok_iff.mp writtenAll)]
    simpa using filters
  rw [nonempty] at joined
  have written : " AND ".intercalate all ≠ "" := by simpa using nonempty
  split at joined <;> cases joined
  · simp
  · exact written
  · cases ‹false = true›
  · cases ‹false = true›

namespace Grammar

open Reader

/-- The connectives and how tightly they bind. -/
inductive Connective : String → Nat → Prop
  | and : Connective "AND" 10
  | or : Connective "OR" 5

theorem Connective.precedence {word : String} {p : Nat} (known : Connective word p) (t u : Token) :
    precedenceOf (.word word) t u = p := by
  cases known <;> rfl

theorem Connective.le {word : String} {p : Nat} (known : Connective word p) : p ≤ 10 := by cases known <;> decide

theorem Connective.closes {word : String} {p : Nat} (known : Connective word p) (pos : Option Position)
    (s : List Lexeme) : Closes (⟨.word word, pos⟩ :: s) := by
  cases known
  · exact (by decide : Token.word "AND" ∈ Grammar.closes)
  · exact (by decide : Token.word "OR" ∈ Grammar.closes)

theorem Connective.joined_eq {word : String} {p : Nat} (known : Connective word p) {s : List Lexeme}
    (fuel depth : Nat) (left : Expr) (pos : Option Position)
    (unquantified : (s.headD endOfText).token.keyword ∉ ["ANY", "ALL", "SOME"]) :
    Grammar.joined (fuel + 1) depth p left (⟨.word word, pos⟩ :: s) =
      (subexpr fuel depth p >>= fun right => pure (.binary word left right)) s := by
  cases known
  · exact joined_binary_eq fuel depth 10 "AND" pos (by decide) (by decide) (by decide) unquantified
  · exact joined_binary_eq fuel depth 5 "OR" pos (by decide) (by decide) (by decide) unquantified

/-- How further conditions are spelled. -/
theorem exists_furtherLexemes {word : String} {c : Criterion} {cs : List Criterion} {front : List Lexeme}
    (spelled : front.map (·.token) = furtherTokens word (c :: cs)) : ∃ own others pos,
      own.map (·.token) = conditionTokens c ∧ others.map (·.token) = furtherTokens word cs ∧
      front = ⟨.word word, pos⟩ :: (own ++ others) := by
  rw [furtherTokens, List.flatMap_cons, List.cons_append] at spelled
  obtain ⟨⟨_, pos⟩, _, rfl, rfl, behind⟩ := List.map_eq_cons_iff.mp spelled
  obtain ⟨own, others, rfl, spelledOwn, spelledOthers⟩ := List.map_eq_append_iff.mp behind
  exact ⟨own, others, pos, spelledOwn, spelledOthers, rfl⟩

/-- Behind a condition stands the next connective or what follows the junction. -/
theorem further_closes {word : String} {p : Nat} (known : Connective word p) {cs : List Criterion}
    {front rest : List Lexeme} (spelled : front.map (·.token) = furtherTokens word cs) (ends : Closes rest)
    (weak : ∀ t u, precedenceOf (rest.headD endOfText).token t u ≤ p) :
    Closes (front ++ rest) ∧ ∀ t u, precedenceOf ((front ++ rest).headD endOfText).token t u ≤ p := by
  cases cs with
  | nil =>
    obtain rfl : front = [] := List.map_eq_nil_iff.mp spelled
    exact ⟨ends, weak⟩
  | cons c cs =>
    obtain ⟨_, _, pos, -, -, rfl⟩ := exists_furtherLexemes spelled
    exact ⟨known.closes pos _, fun t u => (known.precedence t u).le⟩

variable {tree : Criterion → Expr} {levels : Nat}

/-- One more condition behind a connective. -/
theorem infixes_connective {word : String} {p : Nat} (known : Connective word p) {c : Criterion} {e : Expr}
    (reads : ReadsAs levels c e) {own s : List Lexeme} (spelled : own.map (·.token) = conditionTokens c)
    (closes : Closes s) (weak : ∀ t u, precedenceOf (s.headD endOfText).token t u ≤ p) {fuel depth floor : Nat}
    (enough : 4 * own.length + 10 ≤ fuel) (deep : levels + 4 ≤ depth) (below : floor < p) (left : Expr)
    (pos : Option Position) :
    infixes (fuel + 2) depth floor left (⟨.word word, pos⟩ :: (own ++ s)) =
      infixes (fuel + 1) depth floor (.binary word left e) s := by
  have right : subexpr fuel depth p (own ++ s) = .ok (e, s) := by
    obtain ⟨n, spent, read⟩ := reads.read spelled closes enough deep known.le
    obtain ⟨n, rfl⟩ := Nat.exists_eq_add_of_le' (by omega : 1 ≤ n)
    rw [read]
    exact infixes_stop n (depth - 1) e weak
  obtain ⟨t, more, first, unmarked⟩ := reads.begins
  have head := headD_spelled s (spelled.trans first)
  have joint := known.joined_eq fuel depth left pos (s := own ++ s)
    (by rw [head]; exact unmarked.unquantified)
  rw [run_bind, right] at joint
  exact infixes_step (fuel + 1) depth known.precedence below joint

/-- The conditions behind a first one are joined to it one after another, as long as what follows binds less tightly. -/
theorem infixes_further {word : String} {p : Nat} (known : Connective word p) {cs : List Criterion}
    (reads : ∀ c ∈ cs, ReadsAs levels c (tree c)) {front rest : List Lexeme}
    (spelled : front.map (·.token) = furtherTokens word cs) (ends : Closes rest)
    (weak : ∀ t u, precedenceOf (rest.headD endOfText).token t u ≤ p) {fuel depth floor : Nat}
    (enough : 4 * front.length + 14 ≤ fuel) (deep : levels + 4 ≤ depth) (below : floor < p) (left : Expr) :
    ∃ n, fuel ≤ n + cs.length ∧
      infixes fuel depth floor left (front ++ rest) = infixes n depth floor (joinBy tree word left cs) rest := by
  induction cs generalizing front fuel left with
  | nil =>
    obtain rfl : front = [] := List.map_eq_nil_iff.mp spelled
    exact ⟨fuel, le_rfl, rfl⟩
  | cons c cs ih =>
    obtain ⟨own, others, pos, spelledOwn, spelledOthers, rfl⟩ := exists_furtherLexemes spelled
    simp only [List.length_cons, List.length_append] at enough
    obtain ⟨fuel, rfl⟩ := Nat.exists_eq_add_of_le' (by omega : 2 ≤ fuel)
    obtain ⟨closes, weaker⟩ := further_closes known spelledOthers ends weak
    obtain ⟨n, spent, further⟩ := ih (fun d member => reads d (List.mem_cons_of_mem c member)) spelledOthers
      (by omega : 4 * others.length + 14 ≤ fuel + 1) (.binary word left (tree c))
    refine ⟨n, by simp only [List.length_cons]; omega, ?_⟩
    rw [List.cons_append, List.append_assoc, infixes_connective known (reads c (by simp)) spelledOwn closes weaker
      (by omega) deep below, further]
    rfl

theorem length_furtherTokens (word : String) (cs : List Criterion) : cs.length ≤ (furtherTokens word cs).length := by
  induction cs with
  | nil => exact Nat.le_refl 0
  | cons c cs ih =>
    simp only [furtherTokens, List.flatMap_cons, List.length_append, List.length_cons] at ih ⊢
    omega

theorem subexpr_junction {word : String} {p : Nat} (known : Connective word p) {c : Criterion} {cs : List Criterion}
    (reads : ∀ d ∈ c :: cs, ReadsAs levels d (tree d)) {front rest : List Lexeme}
    (spelled : front.map (·.token) = junctionTokens word (c :: cs)) (ends : Closes rest)
    (weak : ∀ t u, precedenceOf (rest.headD endOfText).token t u ≤ p) {fuel depth : Nat}
    (enough : 4 * front.length + 16 ≤ fuel) (deep : levels + 5 ≤ depth) :
    ∃ n, fuel ≤ n + front.length + 2 ∧ subexpr fuel depth 0 (front ++ rest) =
      infixes n (depth - 1) 0 (joinBy tree word (tree c) cs) rest := by
  obtain ⟨own, others, rfl, spelledOwn, spelledOthers⟩ := List.map_eq_append_iff.mp spelled
  rw [List.length_append] at enough ⊢
  obtain ⟨closes, _⟩ := further_closes known spelledOthers ends weak
  obtain ⟨n, spent, first⟩ := (reads c (by simp)).read spelledOwn closes
    (by omega : 4 * own.length + 10 ≤ fuel) (by omega : levels + 4 ≤ depth) (Nat.zero_le 10)
  have positive : 0 < p := by cases known <;> decide
  obtain ⟨m, spent', further⟩ := infixes_further known (fun d member => reads d (List.mem_cons_of_mem c member))
    spelledOthers ends weak (by omega : 4 * others.length + 14 ≤ n) (by omega : levels + 4 ≤ depth - 1) positive
    (tree c)
  have count := length_furtherTokens word cs
  rw [← spelledOthers, List.length_map] at count
  refine ⟨m, by omega, ?_⟩
  rw [List.append_assoc, first, further]

/-- A junction up to the end of the text or of its parentheses. -/
theorem subexpr_closed_junction {word : String} {p : Nat} (known : Connective word p) {c : Criterion}
    {cs : List Criterion} (reads : ∀ d ∈ c :: cs, ReadsAs levels d (tree d)) {front rest : List Lexeme}
    (spelled : front.map (·.token) = junctionTokens word (c :: cs)) (ends : Closes rest)
    (last : ∀ t u, precedenceOf (rest.headD endOfText).token t u = 0) {fuel depth : Nat}
    (enough : 4 * front.length + 16 ≤ fuel) (deep : levels + 5 ≤ depth) :
    subexpr fuel depth 0 (front ++ rest) = .ok (joinBy tree word (tree c) cs, rest) := by
  obtain ⟨n, spent, read⟩ := subexpr_junction known reads spelled ends (fun t u => (last t u).le.trans (Nat.zero_le p))
    enough deep
  obtain ⟨n, rfl⟩ := Nat.exists_eq_add_of_le' (by omega : 1 ≤ n)
  rw [read]
  exact infixes_stop n (depth - 1) _ fun t u => (last t u).le

theorem closes_nil : Closes [] := (by decide : Token.ended ∈ closes)

/-- The `any` group in its parentheses. -/
theorem subexpr_group {c : Criterion} {cs : List Criterion} (reads : ∀ d ∈ c :: cs, ReadsAs levels d (tree d))
    {front rest : List Lexeme} (opening closing : Option Position)
    (spelled : front.map (·.token) = junctionTokens "OR" (c :: cs)) (ends : Closes rest) {fuel depth : Nat}
    (enough : 4 * front.length + 22 ≤ fuel) (deep : levels + 6 ≤ depth) :
    subexpr fuel depth 10 (⟨.symbol "(", opening⟩ :: (front ++ ⟨.symbol ")", closing⟩ :: rest)) =
      .ok (.nested (joinBy tree "OR" (tree c) cs), rest) := by
  obtain ⟨fuel, rfl⟩ := Nat.exists_eq_add_of_le' (by omega : 6 ≤ fuel)
  obtain ⟨depth, rfl⟩ := Nat.exists_eq_add_of_le' (by omega : 1 ≤ depth)
  have closes : Closes (⟨.symbol ")", closing⟩ :: rest) := (by decide : Token.symbol ")" ∈ Grammar.closes)
  have inside : subexpr (fuel + 2) depth 0 (front ++ ⟨.symbol ")", closing⟩ :: rest) =
      .ok (joinBy tree "OR" (tree c) cs, ⟨.symbol ")", closing⟩ :: rest) :=
    subexpr_closed_junction .or reads spelled closes (fun t u => rfl) (by omega) (by omega)
  obtain ⟨t, more, first, unmarked⟩ := (reads c (by simp)).begins
  have begins : front.map (·.token) = t :: (more ++ furtherTokens "OR" cs) := by
    rw [spelled, junctionTokens, first, List.cons_append]
  have head := headD_spelled (⟨.symbol ")", closing⟩ :: rest) begins
  have nested : parenthesized (fuel + 4) depth (front ++ ⟨.symbol ")", closing⟩ :: rest) =
      .ok (.nested (joinBy tree "OR" (tree c) cs), rest) :=
    parenthesized_run (by rw [head]; exact unmarked.noQuery) (commaSeparated_last inside (by simp)) ends.stops
  exact subexpr_operand (primary_opening (fuel + 2) depth opening ends.stops nested) ends.precedence

/-- Both groups of a clause, the second in its parentheses. -/
theorem subexpr_groups {c d : Criterion} {cs ds : List Criterion} (readsAll : ∀ e ∈ c :: cs, ReadsAs levels e (tree e))
    (readsAny : ∀ e ∈ d :: ds, ReadsAs levels e (tree e)) {front rest : List Lexeme}
    (spelled : front.map (·.token) = junctionTokens "AND" (c :: cs) ++
      .word "AND" :: .symbol "(" :: (junctionTokens "OR" (d :: ds) ++ [.symbol ")"])) (ends : Closes rest)
    (last : ∀ t u, precedenceOf (rest.headD endOfText).token t u = 0) {fuel depth : Nat}
    (enough : 4 * front.length + 30 ≤ fuel) (deep : levels + 7 ≤ depth) :
    subexpr fuel depth 0 (front ++ rest) = .ok (.binary "AND" (joinBy tree "AND" (tree c) cs)
      (.nested (joinBy tree "OR" (tree d) ds)), rest) := by
  obtain ⟨all, _, rfl, spelledAll, behind⟩ := List.map_eq_append_iff.mp spelled
  obtain ⟨⟨_, and⟩, _, rfl, rfl, inside⟩ := List.map_eq_cons_iff.mp behind
  obtain ⟨⟨_, opening⟩, _, rfl, rfl, inside'⟩ := List.map_eq_cons_iff.mp inside
  obtain ⟨any, _, rfl, spelledAny, closed⟩ := List.map_eq_append_iff.mp inside'
  obtain ⟨⟨_, closing⟩, rfl, rfl⟩ := List.map_eq_singleton_iff.mp closed
  simp only [List.length_append, List.length_cons, List.length_nil] at enough
  let grouped : List Lexeme := ⟨.symbol "(", opening⟩ :: (any ++ ⟨.symbol ")", closing⟩ :: rest)
  obtain ⟨n, spent, conjunction⟩ := subexpr_junction .and readsAll spelledAll (Connective.and.closes and grouped)
    (fun t u => (Connective.and.precedence t u).le) (by omega : 4 * all.length + 16 ≤ fuel)
    (by omega : levels + 5 ≤ depth)
  obtain ⟨n, rfl⟩ := Nat.exists_eq_add_of_le' (by omega : 3 ≤ n)
  have group := subexpr_group readsAny opening closing spelledAny ends (by omega : 4 * any.length + 22 ≤ n + 1)
    (by omega : levels + 6 ≤ depth - 1)
  have joint := Connective.and.joined_eq (n + 1) (depth - 1) (joinBy tree "AND" (tree c) cs) and (s := grouped)
    (show (Token.symbol "(").keyword ∉ _ by decide)
  rw [run_bind, group] at joint
  have shape : all ++ (⟨.word "AND", and⟩ :: ⟨.symbol "(", opening⟩ :: (any ++ [⟨.symbol ")", closing⟩])) ++ rest =
      all ++ ⟨.word "AND", and⟩ :: grouped := by
    simp [grouped]
  rw [shape, conjunction, infixes_step (n + 2) (depth - 1) (s := ⟨.word "AND", and⟩ :: grouped)
    Connective.and.precedence (by decide) joint]
  exact infixes_stop (n + 1) (depth - 1) _ fun t u => (last t u).le

/-- A clause is read as the expression that its conditions make together, and what follows it is left. -/
theorem subexpr_treeBy {c : Criteria} (readsAll : ∀ d ∈ c.all, ReadsAs levels d (tree d))
    (readsAny : ∀ d ∈ c.any, ReadsAs levels d (tree d)) {front rest : List Lexeme}
    (spelled : front.map (·.token) = clauseTokens c) {e : Expr} (known : treeBy? tree c = some e) (ends : Closes rest)
    (last : ∀ t u, precedenceOf (rest.headD endOfText).token t u = 0) {fuel depth : Nat}
    (enough : 4 * front.length + 30 ≤ fuel) (deep : levels + 7 ≤ depth) :
    subexpr fuel depth 0 (front ++ rest) = .ok (e, rest) := by
  unfold clauseTokens at spelled
  unfold treeBy? at known
  cases declaredAll : c.all with
  | nil =>
    cases declaredAny : c.any with
    | nil =>
      rw [declaredAll, declaredAny] at known
      cases known
    | cons d ds =>
      rw [declaredAll, declaredAny] at spelled known
      rw [declaredAny] at readsAny
      cases known
      exact subexpr_closed_junction .or readsAny spelled ends last (by omega) (by omega)
  | cons e es =>
    rw [declaredAll] at readsAll
    cases declaredAny : c.any with
    | nil =>
      rw [declaredAll, declaredAny] at spelled known
      cases known
      exact subexpr_closed_junction .and readsAll spelled ends last (by omega) (by omega)
    | cons d ds =>
      rw [declaredAll, declaredAny] at spelled known
      rw [declaredAny] at readsAny
      cases known
      exact subexpr_groups readsAll readsAny spelled ends last enough deep

/-- A clause by itself. -/
theorem subexpr_whole {c : Criteria} (readsAll : ∀ d ∈ c.all, ReadsAs levels d (tree d))
    (readsAny : ∀ d ∈ c.any, ReadsAs levels d (tree d)) {lexemes : List Lexeme}
    (spelled : lexemes.map (·.token) = clauseTokens c) {e : Expr} (known : treeBy? tree c = some e) {fuel depth : Nat}
    (enough : 4 * lexemes.length + 30 ≤ fuel) (deep : levels + 7 ≤ depth) :
    subexpr fuel depth 0 lexemes = .ok (e, []) := by
  rw [← List.append_nil lexemes]
  exact subexpr_treeBy readsAll readsAny spelled known closes_nil (fun t u => rfl) enough deep

end Grammar

theorem clauseTree?_eq_none {c : Criteria} : clauseTree? c = none ↔ c.all = [] ∧ c.any = [] := by
  unfold clauseTree? treeBy?
  cases c.all <;> cases c.any <;> simp

/-- What is written for criteria on plain columns is one expression, put together from their groups and conditions;
nothing is written only if there is no condition. -/
theorem parse_clause {subject : String} {c : Criteria} (plainAll : ∀ d ∈ c.all, d.IsPlain)
    (plainAny : ∀ d ∈ c.any, d.IsPlain) {text : String} (written : clause subject c = .ok text) :
    match clauseTree? c with
    | none => text = ""
    | some tree => Expr.parse text = .ok tree := by
  cases known : clauseTree? c with
  | none =>
    simp only [clause, clauseTree?_eq_none.mp known, conditions, bind_eq_ok_iff] at written
    obtain ⟨_, all, _, any, same⟩ := written
    cases all
    cases any
    cases same
    rfl
  | some tree =>
    obtain ⟨lexemes, lexed, spelled⟩ := (Cuts.clause (fun d member => (plainAll d member).column.word)
      (fun d member => (plainAny d member).column.word) written).lex
    rw [clauseTree?] at known
    have read := Grammar.subexpr_whole (fun d member => .of_isPlain (plainAll d member))
      (fun d member => .of_isPlain (plainAny d member)) spelled known
      (by unfold Grammar.fuelFor; omega : 4 * lexemes.length + 30 ≤ Grammar.fuelFor lexemes)
      (by decide : 8 ≤ Grammar.maxNesting)
    simp only [Expr.parse, lexed, bind, Except.bind, StateT.run, read]
    rfl

theorem parse_column {p : String} (column : Grammar.IsColumn p) : Expr.parse p = .ok (.column [p]) := by
  have cuts : Cuts p.toList [.word p] := by simpa using Cuts.word column.word Ends.nil Cuts.nil
  obtain ⟨lexemes, lexed, spelled⟩ := cuts.lex
  obtain ⟨⟨token, pos⟩, rfl, rfl⟩ := List.map_eq_singleton_iff.mp spelled
  have alone (fuel depth : Nat) (enough : 6 ≤ fuel) (deep : 1 ≤ depth) :
      Grammar.subexpr fuel depth 0 [⟨.word p, pos⟩] = .ok (.column [p], []) := by
    obtain ⟨fuel, rfl⟩ := Nat.exists_eq_add_of_le' enough
    obtain ⟨depth, rfl⟩ := Nat.exists_eq_add_of_le' deep
    rw [Grammar.subexpr_word column.isOperand Grammar.closes_nil.stops pos (by omega)]
    exact Grammar.infixes_stop _ _ _ fun t u => le_rfl
  have read := alone (Grammar.fuelFor [⟨.word p, pos⟩]) Grammar.maxNesting (by unfold Grammar.fuelFor; omega)
    (by decide)
  simp only [Expr.parse, lexed, bind, Except.bind, StateT.run, read]
  rfl

end AttributeStore.Sql
