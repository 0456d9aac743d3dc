import AttributeStore.Proofs.Sql.Clauses

/-! Types of structures. Behind the word `STRUCT` an angle may open a list of types. In a clause the angle compares, and
what stands behind it never ends in another angle: a truth value may pass for a name, a connective for a type and a
group in parentheses for its modifiers, but then the clause is over. -/
namespace AttributeStore.Sql.Grammar

open Reader

variable {rest : List Lexeme}

/-- A structure whose type is left unsaid: what follows begins none that could be read. -/
def Untyped (rest : List Lexeme) : Prop :=
  ∀ fuel closed left, structTypes fuel rest = .ok (closed, left) → closed = false ∧ left = rest

theorem Untyped.of_ne (other : (rest.headD endOfText).token ≠ .symbol "<") : Untyped rest := by
  intro fuel closed left read
  cases fuel with
  | zero => cases read
  | succ fuel =>
    rw [structTypes.eq_def] at read
    dsimp only at read
    rw [run_bind, run_sawSymbol, if_neg other] at read
    cases read
    exact ⟨rfl, rfl⟩

/-- A condition passes for modifiers of a type only as a whole. -/
theorem modifiers_condition {c : Criterion} {front s : List Lexeme} (spelled : front.map (·.token) = conditionTokens c)
    {n : Nat} (enough : (front ++ s).length ≤ n) {left : List Lexeme}
    (read : modifiers n (front ++ s) = .ok ((), left)) :
    ∃ m, s.length ≤ m ∧ modifiers m s = .ok ((), left) := by
  unfold conditionTokens at spelled
  cases operator : c.operator <;> simp only [operator, List.cons_append] at spelled
  case notEq =>
    obtain ⟨⟨_, opening⟩, _, rfl, rfl, -⟩ := List.map_eq_cons_iff.mp spelled
    obtain ⟨n, rfl⟩ := Nat.exists_eq_add_of_le' (Nat.le_trans (by simp) enough : 1 ≤ n)
    cases read
  case like =>
    obtain ⟨⟨_, pos⟩, _, rfl, rfl, behind⟩ := List.map_eq_cons_iff.mp spelled
    obtain ⟨⟨_, pos'⟩, _, rfl, rfl, last⟩ := List.map_eq_cons_iff.mp behind
    obtain ⟨⟨_, pos''⟩, rfl, rfl⟩ := List.map_eq_singleton_iff.mp last
    simp only [List.cons_append, List.nil_append, List.length_cons] at enough
    obtain ⟨n, rfl⟩ := Nat.exists_eq_add_of_le' (by omega : 3 ≤ n)
    exact ⟨n, by omega, read⟩
  case isIn =>
    obtain ⟨⟨_, pos⟩, _, rfl, rfl, behind⟩ := List.map_eq_cons_iff.mp spelled
    obtain ⟨⟨_, pos'⟩, _, rfl, rfl, inside⟩ := List.map_eq_cons_iff.mp behind
    obtain ⟨⟨_, opening⟩, _, rfl, rfl, -⟩ := List.map_eq_cons_iff.mp inside
    simp only [List.cons_append, List.length_cons] at enough
    obtain ⟨n, rfl⟩ := Nat.exists_eq_add_of_le' (by omega : 3 ≤ n)
    cases read
  all_goals
    obtain ⟨⟨_, pos⟩, _, rfl, rfl, behind⟩ := List.map_eq_cons_iff.mp spelled
    obtain ⟨⟨_, pos'⟩, _, rfl, rfl, -⟩ := List.map_eq_cons_iff.mp behind
    simp only [List.cons_append, List.length_cons] at enough
    obtain ⟨n, rfl⟩ := Nat.exists_eq_add_of_le' (by omega : 2 ≤ n)
    cases read

/-- Of a group of conditions in parentheses nothing is left, if it passes for modifiers of a type at all. -/
theorem modifiers_group {c : Criterion} {cs : List Criterion} {s : List Lexeme}
    (spelled : s.map (·.token) = junctionTokens "OR" (c :: cs) ++ [.symbol ")"]) {n : Nat} (enough : s.length ≤ n)
    {left : List Lexeme} (read : modifiers n s = .ok ((), left)) : left = [] := by
  induction cs generalizing c s n with
  | nil =>
    rw [junctionTokens, furtherTokens, List.flatMap_nil, List.append_nil] at spelled
    obtain ⟨own, _, rfl, spelledOwn, last⟩ := List.map_eq_append_iff.mp spelled
    obtain ⟨⟨_, closing⟩, rfl, rfl⟩ := List.map_eq_singleton_iff.mp last
    obtain ⟨m, enough, read⟩ := modifiers_condition spelledOwn enough read
    obtain ⟨m, rfl⟩ := Nat.exists_eq_add_of_le' (show 1 ≤ m from enough)
    cases read
    rfl
  | cons d ds ih =>
    rw [junctionTokens, furtherTokens, List.flatMap_cons, List.append_assoc] at spelled
    obtain ⟨own, _, rfl, spelledOwn, behind⟩ := List.map_eq_append_iff.mp spelled
    obtain ⟨⟨_, or⟩, others, rfl, rfl, spelledOthers⟩ := List.map_eq_cons_iff.mp behind
    obtain ⟨m, enough, read⟩ := modifiers_condition spelledOwn enough read
    simp only [List.length_cons] at enough
    obtain ⟨m, rfl⟩ := Nat.exists_eq_add_of_le' (by omega : 1 ≤ m)
    exact ih spelledOthers (by omega) read

/-- Words of clauses that are no types. -/
def typelessWords : List String := ["AND", "OR", "TRUE", "FALSE", "NAN", "INF", "CASE", "CAST"]

theorem namedType_unknown {w : String} (unknown : (Token.word w).keyword ∈ typelessWords)
    (pos : Option Position) {s : List Lexeme} (plain : (s.headD endOfText).token ≠ .symbol ".") (fuel : Nat) :
    namedType (fuel + 1) (Token.word w).keyword (⟨.word w, pos⟩ :: s) = (do
      if ← sawSymbol "(" then modifiers (← get).length
      return (none, false) : Reader (Option String × Bool)) s := by
  rw [namedType.eq_def]
  dsimp only
  generalize (Token.word w).keyword = k at unknown
  simp only [typelessWords, List.mem_cons, List.not_mem_nil, or_false] at unknown
  rcases unknown with rfl | rfl | rfl | rfl | rfl | rfl | rfl | rfl
  all_goals
    rw [if_neg (by decide), if_neg (by decide)]
    show (objectName >>= fun _ => do
      if ← sawSymbol "(" then modifiers (← get).length
      return (none, false) : Reader (Option String × Bool)) _ = _
    rw [run_bind, objectName_word w pos plain]

/-- No angle has been closed, and none of some symbols is ahead. -/
def Unclosed (symbols : List String) (closed : Bool) (left : List Lexeme) : Prop :=
  closed = false ∧ ∀ t ∈ symbols, (left.headD endOfText).token ≠ .symbol t

theorem typeForm_alone {w : String} (unknown : (Token.word w).keyword ∈ typelessWords)
    (pos : Option Position) {s : List Lexeme}
    (plain : ∀ t ∈ [".", "(", "[", ",", ">", ">>"], (s.headD endOfText).token ≠ .symbol t) {fuel : Nat}
    {known : Option String} {closed : Bool} {left : List Lexeme}
    (read : typeForm fuel (⟨.word w, pos⟩ :: s) = .ok ((known, closed), left)) :
    Unclosed [",", ">", ">>"] closed left := by
  match fuel with
  | 0 | 1 => cases read
  | fuel + 2 =>
    rw [typeForm.eq_def] at read
    dsimp only at read
    rw [run_bind, run_peek] at read
    dsimp only [List.headD_cons] at read
    rw [run_bind, namedType_unknown unknown pos (plain "." (by simp))] at read
    simp only [run_bind, run_sawSymbol, if_neg (plain "(" (by simp)), Bool.false_eq_true, if_false, run_pure, run_get,
      dimensions_none (plain "[" (by simp)), if_true] at read
    cases read
    exact ⟨rfl, fun t member => plain t (List.mem_append_right [".", "(", "["] member)⟩

/-- In parentheses behind the name are the modifiers of the type. -/
theorem typeForm_modified {w : String} (unknown : (Token.word w).keyword ∈ typelessWords)
    (pos opening : Option Position) {s : List Lexeme}
    (spent : ∀ left, modifiers s.length s = .ok ((), left) → left = []) {fuel : Nat} {known : Option String}
    {closed : Bool} {left : List Lexeme}
    (read : typeForm fuel (⟨.word w, pos⟩ :: ⟨.symbol "(", opening⟩ :: s) = .ok ((known, closed), left)) :
    Unclosed [",", ">", ">>"] closed left := by
  match fuel with
  | 0 | 1 => cases read
  | fuel + 2 =>
    rw [typeForm.eq_def] at read
    dsimp only at read
    rw [run_bind, run_peek] at read
    dsimp only [List.headD_cons] at read
    rw [run_bind, namedType_unknown unknown pos (by simp)] at read
    simp only [run_bind, run_sawSymbol, List.headD_cons, if_true, List.drop_succ_cons, List.drop_zero, run_get] at read
    cases modified : modifiers s.length s with
    | error fault =>
      rw [modified] at read
      cases read
    | ok result =>
      obtain ⟨⟨⟩, left'⟩ := result
      obtain rfl := spent left' modified
      rw [modified] at read
      cases read
      exact ⟨rfl, fun t _ same => by cases same⟩

/-- What may stand behind a condition: it closes, and a type that could be read there is no field of another. -/
structure Follows (rest : List Lexeme) : Prop where
  closes : Closes rest
  separate : (rest.headD endOfText).token ≠ .symbol ","
  typed : ∀ {fuel : Nat} {known : Option String} {closed : Bool} {left : List Lexeme},
    typeForm fuel rest = .ok ((known, closed), left) → Unclosed [",", ">", ">>"] closed left

theorem Follows.nil : Follows [] where
  closes := closes_nil
  separate := nofun
  typed {fuel} _ _ _ read := by cases fuel <;> cases read

theorem Follows.closing (pos : Option Position) (s : List Lexeme) : Follows (⟨.symbol ")", pos⟩ :: s) where
  closes := (by decide : Token.symbol ")" ∈ Grammar.closes)
  separate := by simp
  typed {fuel} _ _ _ read := by cases fuel <;> cases read

theorem Connective.follows {word : String} {p : Nat} (known : Connective word p) (pos : Option Position)
    {s : List Lexeme} (begins : (∃ w, (s.headD endOfText).token = .word w) ∨ ∃ opening inside,
      s = ⟨.symbol "(", opening⟩ :: inside ∧ ∀ left, modifiers inside.length inside = .ok ((), left) → left = []) :
    Follows (⟨.word word, pos⟩ :: s) where
  closes := known.closes pos s
  separate := nofun
  typed := by
    intro fuel _ _ _ read
    have unknown : (Token.word word).keyword ∈ typelessWords := by cases known <;> decide
    rcases begins with ⟨w, head⟩ | ⟨opening, inside, rfl, spent⟩
    · refine typeForm_alone unknown pos (fun t _ => ?_) read
      rw [head]
      nofun
    · exact typeForm_modified unknown pos opening spent read

/-- Behind a type that does not end before a comma there is no other field. -/
theorem field_last {fuel : Nat} {s : List Lexeme} {more : Option String × Bool → Reader Bool} {closed : Bool}
    {left : List Lexeme} (typed : ∀ {known closed left}, typeForm fuel s = .ok ((known, closed), left) →
      Unclosed [",", ">", ">>"] closed left)
    (read : (do
      let type ← typeForm fuel
      if ← sawSymbol "," then more type else return type.2 : Reader Bool) s = .ok (closed, left)) :
    Unclosed [">", ">>"] closed left := by
  rw [run_bind] at read
  cases form : typeForm fuel s with
  | error fault =>
    rw [form] at read
    cases read
  | ok result =>
    obtain ⟨⟨known, _⟩, left'⟩ := result
    obtain ⟨rfl, other⟩ := typed form
    rw [form] at read
    dsimp only at read
    rw [run_bind, run_sawSymbol, if_neg (other "," (by simp))] at read
    cases read
    exact ⟨rfl, fun t member => other t (List.mem_cons_of_mem "," member)⟩

/-- A value that is a word may pass for the name or the type of a field; no angle closes behind it. -/
theorem fieldTypes_word {w : String} (unknown : (Token.word w).keyword ∈ typelessWords) (pos : Option Position)
    (follows : Follows rest) {fuel : Nat} {closed : Bool} {left : List Lexeme}
    (read : fieldTypes fuel (⟨.word w, pos⟩ :: rest) = .ok (closed, left)) : Unclosed [">", ">>"] closed left := by
  cases fuel with
  | zero => cases read
  | succ fuel =>
    rw [fieldTypes.eq_def] at read
    dsimp only at read
    rw [run_bind, run_peek] at read
    dsimp only [List.headD_cons] at read
    rw [run_bind, run_peekAt] at read
    dsimp only [List.getElem?_cons_succ] at read
    rw [peekAt_zero] at read
    obtain ⟨closes, separate, typed⟩ := follows
    unfold Closes at closes
    have alone := @typeForm_alone _ unknown pos rest
    generalize (rest.headD endOfText).token = t at closes separate read alone
    simp only [Grammar.closes, List.mem_cons, List.not_mem_nil, or_false] at closes
    -- before another word the value is taken for a name, and the word for its type
    rcases closes with rfl | rfl | rfl | rfl | rfl | rfl
    · rw [if_neg (by decide)] at read
      exact field_last (alone (by decide)) read
    · rw [if_neg (by decide)] at read
      exact field_last (alone (by decide)) read
    · exact absurd rfl separate
    all_goals
      rw [if_pos (by decide), run_bind] at read
      exact field_last typed read

/-- Where no angle closes behind the fields, there is no type of a structure. -/
theorem untyped_fields (pos : Option Position)
    (unclosed : ∀ {fuel closed left}, fieldTypes fuel rest = .ok (closed, left) → Unclosed [">", ">>"] closed left) :
    Untyped (⟨.symbol "<", pos⟩ :: rest) := by
  intro fuel closed left read
  cases fuel with
  | zero => cases read
  | succ fuel =>
    rw [structTypes.eq_def] at read
    dsimp only at read
    rw [run_bind, run_sawSymbol, List.headD_cons, if_pos rfl, List.drop_succ_cons, List.drop_zero] at read
    dsimp only at read
    rw [if_pos rfl, run_bind] at read
    cases fields : fieldTypes fuel rest with
    | error fault =>
      rw [fields] at read
      cases read
    | ok result =>
      obtain ⟨closed', left'⟩ := result
      obtain ⟨rfl, other⟩ := unclosed fields
      rw [fields] at read
      simp only [closeAngle, Bool.false_eq_true, if_false, run_bind, run_sawSymbol, if_neg (other ">" (by simp)),
        if_neg (other ">>" (by simp)), run_peek] at read
      cases read

theorem fieldTypes_other {t : Token} (other : ∀ q s, t ≠ .word s ∧ t ≠ .name q s) (pos : Option Position)
    {s : List Lexeme} {fuel : Nat} {closed : Bool} {left : List Lexeme} :
    fieldTypes fuel (⟨t, pos⟩ :: s) ≠ .ok (closed, left) := by
  intro read
  match fuel with
  | 0 => cases read
  | 1 => cases t <;> first | cases read | exact absurd rfl (other ' ' _).1 | exact absurd rfl (other _ _).2
  | fuel + 2 => cases t <;> first | cases read | exact absurd rfl (other ' ' _).1 | exact absurd rfl (other _ _).2

/-- Nothing that a structure could be less than is a type in angles. -/
theorem untyped_ordered {value : Operand} (noText : ∀ s, value ≠ .str s) (noList : ∀ items, value ≠ .list items)
    {front : List Lexeme} (spelled : front.map (·.token) = literalTokens value) (pos : Option Position)
    (follows : Follows rest) : Untyped (⟨.symbol "<", pos⟩ :: (front ++ rest)) := by
  refine untyped_fields pos fun {fuel closed left} read => ?_
  have signed {t : Token} {more : List Token} (other : ∀ q s, t ≠ .word s ∧ t ≠ .name q s)
      (first : front.map (·.token) = t :: more) : False := by
    obtain ⟨⟨_, pos'⟩, _, rfl, rfl, -⟩ := List.map_eq_cons_iff.mp first
    exact fieldTypes_other other pos' read
  have worded {w : String} (unknown : (Token.word w).keyword ∈ typelessWords)
      (alone : front.map (·.token) = [.word w]) : Unclosed [">", ">>"] closed left := by
    obtain ⟨⟨_, pos'⟩, rfl, rfl⟩ := List.map_eq_singleton_iff.mp alone
    exact fieldTypes_word unknown pos' follows read
  cases value with
  | str s => exact absurd rfl (noText s)
  | list items => exact absurd rfl (noList items)
  | bool b => exact worded (by cases b <;> decide) spelled
  | int n =>
    rw [literalTokens] at spelled
    split at spelled
    · exact (signed (by simp) spelled).elim
    · exact (signed (by simp [unsigned]) spelled).elim
  | float x =>
    rw [literalTokens] at spelled
    unfold floatTokens at spelled
    dsimp only at spelled
    split at spelled
    · exact worded (by decide) spelled
    · split at spelled <;> split at spelled
      · exact (signed (by simp) spelled).elim
      · exact worded (by decide) spelled
      · exact (signed (by simp) spelled).elim
      · exact (signed (by simp) spelled).elim

end AttributeStore.Sql.Grammar
