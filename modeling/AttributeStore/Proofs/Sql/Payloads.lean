import AttributeStore.Proofs.Sql.Spelling

/-! Texts inside criteria and the clauses written from them. A text fills string tokens and decides nothing else:
neither whether the clause can be written nor any other token of it. -/
namespace AttributeStore

namespace Operand

mutual

/-- The operand with every text in it emptied. -/
def masked : Operand → Operand
  | .str _ => .str ""
  | .list items => .list (maskedItems items)
  | value => value

def maskedItems : List Operand → List Operand
  | [] => []
  | item :: rest => item.masked :: maskedItems rest

end

mutual

/-- The texts in an operand, from left to right. -/
def strings : Operand → List String
  | .str s => [s]
  | .list items => stringsOfItems items
  | _ => []

def stringsOfItems : List Operand → List String
  | [] => []
  | item :: rest => item.strings ++ stringsOfItems rest

end

theorem maskedItems_eq_map (items : List Operand) : maskedItems items = items.map masked := by
  induction items with
  | nil => rfl
  | cons item rest ih => rw [maskedItems, List.map_cons, ih]

theorem stringsOfItems_eq_flatMap (items : List Operand) : stringsOfItems items = items.flatMap strings := by
  induction items with
  | nil => rfl
  | cons item rest ih => rw [stringsOfItems, List.flatMap_cons, ih]

theorem items_masked (value : Operand) : value.masked.items = value.items.map masked := by
  cases value with
  | list items => exact maskedItems_eq_map items
  | bool | int | float | str => rfl

theorem flatMap_items (value : Operand) : value.items.flatMap strings = value.strings := by
  cases value with
  | list items => exact (stringsOfItems_eq_flatMap items).symm
  | bool | int | float | str => exact List.flatMap_singleton _ _

end Operand

namespace Criterion

def masked (c : Criterion) : Criterion := { c with value := c.value.masked }

/-- What the string tokens of the condition hold. -/
def payloads (c : Criterion) : List String :=
  match c.operator with
  | .like => [Sql.containing c.value.text]
  | _ => c.value.strings

end Criterion

namespace Criteria

/-- Criteria with every text among their values emptied. -/
def masked (c : Criteria) : Criteria := ⟨c.all.map Criterion.masked, c.any.map Criterion.masked⟩

def payloads (c : Criteria) : List String := (c.all ++ c.any).flatMap Criterion.payloads

theorem properties_masked (c : Criteria) :
    (c.masked.all ++ c.masked.any).map Criterion.property = (c.all ++ c.any).map Criterion.property := by
  simp [masked, Function.comp_def, Criterion.masked]

end Criteria

namespace Sql

namespace Token

/-- The token, if it is a string then without its payload. -/
def masked : Token → Token
  | .text _ => .text ""
  | t => t

def payload? : Token → Option String
  | .text s => some s
  | _ => none

end Token

/-- The tokens but for the payloads of strings. -/
def shape (tokens : List Token) : List Token := tokens.map Token.masked

/-- The payloads of strings alone. -/
def payloads (tokens : List Token) : List String := tokens.filterMap Token.payload?

@[simp] theorem shape_append (s t : List Token) : shape (s ++ t) = shape s ++ shape t := List.map_append

@[simp] theorem shape_cons (t : Token) (tokens : List Token) : shape (t :: tokens) = t.masked :: shape tokens := rfl

@[simp] theorem shape_nil : shape [] = [] := rfl

@[simp] theorem payloads_append (s t : List Token) : payloads (s ++ t) = payloads s ++ payloads t :=
  List.filterMap_append

@[simp] theorem payloads_cons (t : Token) (tokens : List Token) :
    payloads (t :: tokens) = t.payload?.toList ++ payloads tokens := by
  cases payload : t.payload? <;> simp [payloads, payload]

@[simp] theorem payloads_nil : payloads [] = [] := rfl

@[simp] theorem payload?_word (s : String) : (Token.word s).payload? = none := rfl

@[simp] theorem payload?_symbol (s : String) : (Token.symbol s).payload? = none := rfl

@[simp] theorem payload?_number (s : String) (long : Bool) : (Token.number s long).payload? = none := rfl

@[simp] theorem payload?_text (s : String) : (Token.text s).payload? = some s := rfl

@[simp] theorem masked_word (s : String) : (Token.word s).masked = .word s := rfl

@[simp] theorem masked_symbol (s : String) : (Token.symbol s).masked = .symbol s := rfl

@[simp] theorem masked_number (s : String) (long : Bool) : (Token.number s long).masked = .number s long := rfl

@[simp] theorem masked_text (s : String) : (Token.text s).masked = .text "" := rfl

theorem shape_commas (items : List (List Token)) : shape (commas items) = commas (items.map shape) := by
  induction items with
  | nil => rfl
  | cons item rest ih =>
    cases rest with
    | nil => rfl
    | cons next rest => simpa [commas] using ih

theorem payloads_commas (items : List (List Token)) : payloads (commas items) = items.flatMap payloads := by
  induction items with
  | nil => rfl
  | cons item rest ih =>
    cases rest with
    | nil => simp [commas]
    | cons next rest => simpa [commas] using ih

/-! Literals. -/

theorem shape_floatTokens (x : Float) : shape (floatTokens x) = floatTokens x := by
  unfold floatTokens
  repeat' split
  all_goals rfl

theorem payloads_floatTokens (x : Float) : payloads (floatTokens x) = [] := by
  unfold floatTokens
  repeat' split
  all_goals rfl

mutual

theorem shape_literalTokens (value : Operand) : shape (literalTokens value) = literalTokens value.masked :=
  match value with
  | .bool _ => rfl
  | .int n => by
    simp only [literalTokens, Operand.masked]
    split <;> rfl
  | .float x => shape_floatTokens x
  | .str _ => rfl
  | .list items => by
    simp only [literalTokens, Operand.masked, List.cons_append, shape_cons, masked_symbol, shape_append, shape_nil,
      shape_commas, shape_itemTokens items]

theorem shape_itemTokens (items : List Operand) :
    (itemTokens items).map shape = itemTokens (Operand.maskedItems items) :=
  match items with
  | [] => rfl
  | item :: rest => by
    rw [itemTokens, List.map_cons, shape_literalTokens item, shape_itemTokens rest, Operand.maskedItems, itemTokens]

end

mutual

theorem payloads_literalTokens (value : Operand) : payloads (literalTokens value) = value.strings :=
  match value with
  | .bool _ => rfl
  | .int n => by
    simp only [literalTokens, Operand.strings]
    split <;> rfl
  | .float x => payloads_floatTokens x
  | .str _ => rfl
  | .list items => by
    simp [literalTokens, Operand.strings, payloads_commas, payloads_itemTokens items]

theorem payloads_itemTokens (items : List Operand) :
    (itemTokens items).flatMap payloads = Operand.stringsOfItems items :=
  match items with
  | [] => rfl
  | item :: rest => by
    rw [itemTokens, List.flatMap_cons, payloads_literalTokens item, payloads_itemTokens rest, Operand.stringsOfItems]

end

/-! Conditions and clauses. -/

/-- Conditions that differ in texts at most. -/
def Alike (c d : Criterion) : Prop := c.masked = d.masked

namespace Alike

variable {c d : Criterion}

theorem parts (alike : Alike c d) :
    c.property = d.property ∧ c.operator = d.operator ∧ c.value.masked = d.value.masked :=
  Criterion.mk.inj alike

theorem property (alike : Alike c d) : c.property = d.property := alike.parts.1

theorem operator (alike : Alike c d) : c.operator = d.operator := alike.parts.2.1

theorem value (alike : Alike c d) : c.value.masked = d.value.masked := alike.parts.2.2

theorem literal (alike : Alike c d) : shape (literalTokens c.value) = shape (literalTokens d.value) := by
  rw [shape_literalTokens, shape_literalTokens, alike.value]

theorem items (alike : Alike c d) :
    shape (commas (c.value.items.map literalTokens)) = shape (commas (d.value.items.map literalTokens)) := by
  have written (v : Operand) : (v.items.map literalTokens).map shape = v.masked.items.map literalTokens := by
    rw [Operand.items_masked, List.map_map, List.map_map]
    exact List.map_congr_left fun item _ => shape_literalTokens item
  rw [shape_commas, shape_commas, written, written, alike.value]

theorem shape (alike : Alike c d) : shape (conditionTokens c) = Sql.shape (conditionTokens d) := by
  unfold conditionTokens
  rw [alike.property, alike.operator]
  cases d.operator <;> simp [alike.literal, alike.items]

/-- Whether a condition can be written depends on its operator and on what kind of value it has. -/
theorem isOk (alike : Alike c d) (subject : String) : (condition subject c).isOk = (condition subject d).isOk := by
  have value := alike.value
  unfold condition
  rw [alike.operator]
  cases d.operator
  case lt | gt | ltEq | gtEq =>
    cases left : c.value <;> cases right : d.value <;> simp_all [Operand.masked, Except.isOk, Except.toBool]
  all_goals simp [Except.isOk, Except.toBool]

/-- The lists that differ in texts at most. -/
theorem forall₂ {cs ds : List Criterion} (same : cs.map Criterion.masked = ds.map Criterion.masked) :
    List.Forall₂ Alike cs ds := by
  rw [← List.forall₂_eq_eq_eq, List.forall₂_map_left_iff, List.forall₂_map_right_iff] at same
  exact same

end Alike

theorem shape_furtherTokens (word : String) {cs ds : List Criterion} (alike : List.Forall₂ Alike cs ds) :
    shape (furtherTokens word cs) = shape (furtherTokens word ds) := by
  induction alike with
  | nil => rfl
  | cons first _ ih =>
    simp only [furtherTokens] at ih
    simp [furtherTokens, first.shape, ih]

theorem shape_junctionTokens (word : String) {cs ds : List Criterion} (alike : List.Forall₂ Alike cs ds) :
    shape (junctionTokens word cs) = shape (junctionTokens word ds) := by
  cases alike with
  | nil => rfl
  | cons first others => simp [junctionTokens, first.shape, shape_furtherTokens word others]

theorem shape_clauseTokens {c d : Criteria} (all : List.Forall₂ Alike c.all d.all)
    (any : List.Forall₂ Alike c.any d.any) : shape (clauseTokens c) = shape (clauseTokens d) := by
  have conjunction := shape_junctionTokens "AND" all
  have disjunction := shape_junctionTokens "OR" any
  unfold clauseTokens
  generalize c.all = cs, d.all = ds at all conjunction
  generalize c.any = es, d.any = fs at any disjunction
  cases all <;> cases any <;> simp [conjunction, disjunction]

theorem payloads_conditionTokens (c : Criterion) :
    payloads (conditionTokens c) = c.payloads := by
  have items : payloads (commas (c.value.items.map literalTokens)) = c.value.strings := by
    rw [payloads_commas, List.flatMap_map, ← Operand.flatMap_items]
    exact congrArg (c.value.items.flatMap ·) (funext payloads_literalTokens)
  unfold conditionTokens Criterion.payloads
  cases c.operator <;> simp [payloads_literalTokens, items]

theorem payloads_junctionTokens (word : String) (cs : List Criterion) :
    payloads (junctionTokens word cs) = cs.flatMap Criterion.payloads := by
  have further (cs : List Criterion) : payloads (furtherTokens word cs) = cs.flatMap Criterion.payloads := by
    induction cs with
    | nil => rfl
    | cons c cs ih =>
      simp only [furtherTokens] at ih
      simp [furtherTokens, payloads_conditionTokens, ih]
  cases cs with
  | nil => rfl
  | cons c cs => simp [junctionTokens, payloads_conditionTokens, further]

theorem payloads_clauseTokens (c : Criteria) : payloads (clauseTokens c) = c.payloads := by
  have conjunction := payloads_junctionTokens "AND" c.all
  have disjunction := payloads_junctionTokens "OR" c.any
  unfold clauseTokens Criteria.payloads
  cases all : c.all <;> cases any : c.any <;> simp_all

theorem conditions_isOk (subject : String) (cs : List Criterion) :
    (conditions subject cs).isOk = cs.all fun c => (condition subject c).isOk := by
  induction cs with
  | nil => rfl
  | cons c cs ih =>
    rw [conditions, List.all_cons, ← ih]
    cases condition subject c <;> cases conditions subject cs <;> rfl

theorem clause_isOk (subject : String) (c : Criteria) :
    (clause subject c).isOk = (c.all ++ c.any).all fun d => (condition subject d).isOk := by
  rw [List.all_append, ← conditions_isOk, ← conditions_isOk]
  unfold clause
  cases conditions subject c.all <;> cases conditions subject c.any <;> rfl

theorem all_isOk_eq {cs ds : List Criterion} (alike : List.Forall₂ Alike cs ds) (subject : String) :
    (cs.all fun c => (condition subject c).isOk) = ds.all fun d => (condition subject d).isOk := by
  induction alike with
  | nil => rfl
  | cons first _ ih => rw [List.all_cons, List.all_cons, first.isOk subject, ih]

/-- A clause that is written is read as its tokens, and its strings are the texts of the criteria. -/
theorem lex_clause {subject : String} {c : Criteria} (words : ∀ d ∈ c.all ++ c.any, IsWord d.property) {text : String}
    (written : clause subject c = .ok text) :
    ∃ lexemes, lex text = .ok lexemes ∧ lexemes.map (·.token) = clauseTokens c :=
  (Cuts.clause (fun d member => words d (List.mem_append_left _ member))
    (fun d member => words d (List.mem_append_right _ member)) written).lex

/-- Texts cannot change the structure of a clause: of criteria over bare names that differ in texts at most, both or
neither can be written, and what is written is the same tokens but for the payloads of strings. These payloads are the
texts themselves, in their order, or the pattern around a value that is looked for inside. -/
theorem clause_structure {c d : Criteria} (words : ∀ e ∈ c.all ++ c.any, IsWord e.property)
    (same : c.masked = d.masked) (subject : String) :
    match clause subject c, clause subject d with
    | .ok text, .ok text' => ∃ lexemes lexemes', lex text = .ok lexemes ∧ lex text' = .ok lexemes' ∧
        shape (lexemes.map (·.token)) = shape (lexemes'.map (·.token)) ∧
        payloads (lexemes.map (·.token)) = c.payloads ∧ payloads (lexemes'.map (·.token)) = d.payloads
    | .error _, .error _ => True
    | _, _ => False := by
  obtain ⟨sameAll, sameAny⟩ := Criteria.mk.inj same
  have all := Alike.forall₂ sameAll
  have any := Alike.forall₂ sameAny
  have words' : ∀ e ∈ d.all ++ d.any, IsWord e.property := by
    have properties := congrArg (fun m => (m.all ++ m.any).map Criterion.property) same
    simp only [Criteria.properties_masked] at properties
    rw [← List.forall_mem_map (f := Criterion.property)] at words ⊢
    exact properties ▸ words
  have isOk : (clause subject c).isOk = (clause subject d).isOk := by
    rw [clause_isOk, clause_isOk, List.all_append, List.all_append, all_isOk_eq all, all_isOk_eq any]
  cases written : clause subject c <;> cases written' : clause subject d <;> simp only [written, written'] at isOk ⊢
  case ok.ok text text' =>
    obtain ⟨lexemes, read, tokens⟩ := lex_clause words written
    obtain ⟨lexemes', read', tokens'⟩ := lex_clause words' written'
    refine ⟨lexemes, lexemes', read, read', ?_, ?_, ?_⟩
    · rw [tokens, tokens', shape_clauseTokens all any]
    · rw [tokens, payloads_clauseTokens]
    · rw [tokens', payloads_clauseTokens]
  all_goals cases isOk

/-- Searches for a visitor by name, by nick names and outside one country. -/
def visitorsCalled (name nick country : String) : Criteria where
  all := [⟨"name", .like, .str name⟩, ⟨"country", .notEq, .str country⟩]
  any := [⟨"nicks", .isIn, .list [.str nick, .list [.int (-3), .str name], .bool true]⟩]

theorem clause_structure_of_quotes :
    ∃ text text' lexemes lexemes',
      clause "visits" (visitorsCalled "a" "b" "c") = .ok text ∧
      clause "visits" (visitorsCalled "' OR 1=1; --" "''" "'") = .ok text' ∧
      lex text = .ok lexemes ∧ lex text' = .ok lexemes' ∧
      shape (lexemes.map (·.token)) = shape (lexemes'.map (·.token)) ∧
      payloads (lexemes.map (·.token)) = ["%a%", "c", "b", "a"] ∧
      payloads (lexemes'.map (·.token)) = ["%' OR 1=1; --%", "'", "''", "' OR 1=1; --"] := by
  have words : ∀ e ∈ (visitorsCalled "a" "b" "c").all ++ (visitorsCalled "a" "b" "c").any, IsWord e.property := by
    simp only [visitorsCalled, List.cons_append, List.nil_append, List.forall_mem_cons]
    decide
  have plain : clause "visits" (visitorsCalled "a" "b" "c") = .ok
      "name LIKE '%a%' AND (country != 'c' OR country IS NULL) AND (nicks IN('b', (-3, 'a'), TRUE))" := by rfl
  have quotes : clause "visits" (visitorsCalled "' OR 1=1; --" "''" "'") = .ok ("name LIKE '%'' OR 1=1; --%' AND " ++
      "(country != '''' OR country IS NULL) AND (nicks IN('''''', (-3, ''' OR 1=1; --'), TRUE))") := by rfl
  have alike := clause_structure (d := visitorsCalled "' OR 1=1; --" "''" "'") words rfl "visits"
  rw [plain, quotes] at alike
  obtain ⟨lexemes, lexemes', read, read', same, payload, payload'⟩ := alike
  exact ⟨_, _, lexemes, lexemes', plain, quotes, read, read', same, payload, payload'⟩

end Sql

end AttributeStore
