import AttributeStore.Proofs.Sql.Clauses

/-! What expressions mean on a row, in the logic of three values, and that a clause means what its criteria say. -/
namespace AttributeStore

namespace Sql

/-- A truth value; none where it is unknown. -/
abbrev Truth := Option Bool

namespace Truth

def and : Truth → Truth → Truth
  | some false, _ => some false
  | _, some false => some false
  | some true, some true => some true
  | _, _ => none

def or : Truth → Truth → Truth
  | some true, _ => some true
  | _, some true => some true
  | some false, some false => some false
  | _, _ => none

def all (truths : List Truth) : Truth := truths.foldr and (some true)

def any (truths : List Truth) : Truth := truths.foldr or (some false)

theorem and_true (x : Truth) : and x (some true) = x := by rcases x with _ | _ | _ <;> rfl

theorem true_and (x : Truth) : and (some true) x = x := by rcases x with _ | _ | _ <;> rfl

theorem or_false (x : Truth) : or x (some false) = x := by rcases x with _ | _ | _ <;> rfl

theorem and_assoc (x y z : Truth) : and (and x y) z = and x (and y z) := by
  rcases x with _ | _ | _ <;> rcases y with _ | _ | _ <;> rcases z with _ | _ | _ <;> rfl

theorem or_assoc (x y z : Truth) : or (or x y) z = or x (or y z) := by
  rcases x with _ | _ | _ <;> rcases y with _ | _ | _ <;> rcases z with _ | _ | _ <;> rfl

theorem and_eq_true {x y : Truth} : and x y = some true ↔ x = some true ∧ y = some true := by
  rcases x with _ | _ | _ <;> rcases y with _ | _ | _ <;> simp [and]

theorem any_unknown {truths : List Truth} (unknown : ∀ t ∈ truths, t = none) : any truths ≠ some true := by
  induction truths with
  | nil => simp [any]
  | cons t rest ih =>
    obtain ⟨rfl, others⟩ := List.forall_mem_cons.mp unknown
    have nowhere := ih others
    simp only [any, List.foldr_cons] at nowhere ⊢
    intro found
    rcases rest.foldr or (some false) with _ | _ | _ <;> simp_all [or]

end Truth

/-- What a warehouse makes of the values in its rows. A missing value is none. -/
structure Warehouse where
  Value : Type
  bool : Bool → Value
  int : Int → Value
  text : String → Value
  tuple : List (Option Value) → Value
  /-- How two values are ordered, where they can be compared. -/
  compare : Value → Value → Option Ordering
  /-- Whether a value matches a pattern. -/
  like : Value → Value → Truth
  /-- A value taken as a condition. -/
  truth : Value → Truth
  /-- A number that is not whole. -/
  number : String → Option Value
  /-- Any other form over its parts. -/
  form : String → List (Option Value) → Option Value
  truth_bool : ∀ b, truth (bool b) = some b

namespace Warehouse

/-- A row: the values of its columns. -/
abbrev Row (W : Warehouse) := String → Option W.Value

def order (W : Warehouse) (x y : Option W.Value) : Option Ordering := x.bind fun a => y.bind fun b => W.compare a b

def equals (W : Warehouse) (x y : Option W.Value) : Truth := (W.order x y).map (· == .eq)

def matchesPattern (W : Warehouse) (x y : Option W.Value) : Truth := x.bind fun a => y.bind fun b => W.like a b

/-- A condition's value; a missing one is unknown. -/
def holds (W : Warehouse) (x : Option W.Value) : Truth := x.bind W.truth

def answer (W : Warehouse) (t : Truth) : Option W.Value := t.map W.bool

@[simp] theorem holds_answer (W : Warehouse) (t : Truth) : W.holds (W.answer t) = t := by
  rcases t with _ | b
  · rfl
  · exact W.truth_bool b

end Warehouse

/-- Which orders satisfy a comparison. -/
def admits (op : String) (o : Ordering) : Bool :=
  match op with
  | "=" => o == .eq
  | "<>" => o != .eq
  | "<" => o == .lt
  | ">" => o == .gt
  | "<=" => o != .gt
  | ">=" => o != .lt
  | _ => false

mutual

/-- The value of an expression on a row. -/
def Expr.eval (W : Warehouse) (row : W.Row) : Expr → Option W.Value
  | .column path => row (".".intercalate path)
  | .number s => if s.toList.all Text.isDigit then some (W.int (Text.digitsValue s.toList)) else W.number s
  | .text s => some (W.text s)
  | .bool b => some (W.bool b)
  | .null => none
  | .nested e => e.eval W row
  | .unary "-" (.number s) =>
    if s.toList.all Text.isDigit then some (W.int (-(Text.digitsValue s.toList : Int))) else W.form "-" [W.number s]
  | .unary "NOT" e => W.answer ((W.holds (e.eval W row)).map not)
  | .unary op e => W.form op [e.eval W row]
  | .binary "AND" l r => W.answer ((W.holds (l.eval W row)).and (W.holds (r.eval W row)))
  | .binary "OR" l r => W.answer ((W.holds (l.eval W row)).or (W.holds (r.eval W row)))
  | .binary op l r =>
    if op ∈ Grammar.comparisons then W.answer ((W.order (l.eval W row) (r.eval W row)).map (admits op))
    else W.form op [l.eval W row, r.eval W row]
  | .isNull e negated => W.answer (some ((e.eval W row).isNone != negated))
  | .isIn e items negated =>
    let found := Truth.any ((evals W row items).map (W.equals (e.eval W row)))
    W.answer (if negated then found.map not else found)
  | .like e pattern negated =>
    let found := W.matchesPattern (e.eval W row) (pattern.eval W row)
    W.answer (if negated then found.map not else found)
  | .form name parts =>
    if name = "()" then some (W.tuple (evals W row parts)) else W.form name (evals W row parts)

def evals (W : Warehouse) (row : W.Row) : List Expr → List (Option W.Value)
  | [] => []
  | e :: rest => e.eval W row :: evals W row rest

end

section

variable (W : Warehouse) (row : W.Row)

theorem evals_cons (e : Expr) (rest : List Expr) : evals W row (e :: rest) = e.eval W row :: evals W row rest := rfl

theorem evals_eq_map (es : List Expr) : evals W row es = es.map (·.eval W row) := by
  induction es with
  | nil => rfl
  | cons e es ih => rw [evals_cons, ih, List.map_cons]

theorem eval_column (name : String) : (Expr.column [name]).eval W row = row name := by
  show row (".".intercalate [name]) = row name
  rw [String.intercalate_singleton]

theorem eval_digits {s : String} (digits : s.toList.all Text.isDigit) :
    (Expr.number s).eval W row = some (W.int (Text.digitsValue s.toList)) := if_pos digits

theorem eval_negative {s : String} (digits : s.toList.all Text.isDigit) :
    (Expr.unary "-" (.number s)).eval W row = some (W.int (-(Text.digitsValue s.toList : Int))) := if_pos digits

theorem eval_tuple (parts : List Expr) :
    (Expr.form "()" parts).eval W row = some (W.tuple (parts.map (·.eval W row))) := by
  rw [← evals_eq_map]
  rfl

variable (e l r : Expr)

theorem eval_nested : (Expr.nested e).eval W row = e.eval W row := rfl

theorem eval_and : (Expr.binary "AND" l r).eval W row =
    W.answer ((W.holds (l.eval W row)).and (W.holds (r.eval W row))) :=
  rfl

theorem eval_or : (Expr.binary "OR" l r).eval W row = W.answer ((W.holds (l.eval W row)).or (W.holds (r.eval W row))) :=
  rfl

theorem eval_isNull : (Expr.isNull e false).eval W row = W.answer (some (e.eval W row).isNone) := by
  rw [← Bool.bne_false (e.eval W row).isNone]
  rfl

theorem eval_isIn (items : List Expr) : (Expr.isIn e items false).eval W row =
    W.answer (Truth.any ((items.map (·.eval W row)).map (W.equals (e.eval W row)))) := by
  rw [← evals_eq_map]
  rfl

theorem eval_like : (Expr.like l r false).eval W row = W.answer (W.matchesPattern (l.eval W row) (r.eval W row)) := rfl

end

end Sql

open Sql

mutual

/-- The value that a filter writes. One value in parentheses is that value. -/
def Operand.datum (W : Warehouse) : Operand → Option W.Value
  | .bool b => some (W.bool b)
  | .int n => some (W.int n.toInt)
  | .float x => W.number (Decimal.plain x)
  | .str s => some (W.text s)
  | .list items =>
    match data W items with
    | [x] => x
    | xs => some (W.tuple xs)

def Operand.data (W : Warehouse) : List Operand → List (Option W.Value)
  | [] => []
  | item :: rest => item.datum W :: data W rest

end

theorem Operand.data_cons (W : Warehouse) (item : Operand) (rest : List Operand) :
    data W (item :: rest) = item.datum W :: data W rest := rfl

theorem Operand.data_eq_map (W : Warehouse) (items : List Operand) : data W items = items.map (·.datum W) := by
  induction items with
  | nil => rfl
  | cons item rest ih => rw [data_cons, ih, List.map_cons]

theorem Operand.datum_list (W : Warehouse) (items : List Operand) : (Operand.list items).datum W =
    match items.map (·.datum W) with
    | [x] => x
    | xs => some (W.tuple xs) := by
  rw [← data_eq_map]
  rfl

/-- A single condition on a row. Only `!=` holds of a missing value. -/
def Criterion.holds (W : Warehouse) (row : W.Row) (c : Criterion) : Truth :=
  let column := row c.property
  let value := c.value.datum W
  match c.operator with
  | .eq => (W.order column value).map (· == .eq)
  | .notEq => if column = none then some true else (W.order column value).map (· != .eq)
  | .lt => (W.order column value).map (· == .lt)
  | .gt => (W.order column value).map (· == .gt)
  | .ltEq => (W.order column value).map (· != .gt)
  | .gtEq => (W.order column value).map (· != .lt)
  | .like => W.matchesPattern column (some (W.text (containing c.value.text)))
  | .isIn => Truth.any (c.value.items.map fun item => W.equals column (item.datum W))

/-- What the groups of a filter say together, given what each condition says. -/
def Criteria.judged (answer : Criterion → Truth) (c : Criteria) : Truth :=
  Truth.and (Truth.all (c.all.map answer)) (if c.any = [] then some true else Truth.any (c.any.map answer))

/-- All conditions of the one group and one condition of the other; a group without conditions asks nothing. -/
def Criteria.holds (W : Warehouse) (row : W.Row) (c : Criteria) : Truth :=
  Truth.and (Truth.all (c.all.map (·.holds W row)))
    (if c.any = [] then some true else Truth.any (c.any.map (·.holds W row)))

namespace Sql

theorem eval_unsigned (W : Warehouse) (row : W.Row) (n : Nat) :
    (Expr.number (toString n)).eval W row = some (W.int n) := by
  have digits : (toString n).toList.all Text.isDigit := List.all_eq_true.mpr (Decimal.isDigits_toString n).digits
  rw [eval_digits W row digits, Decimal.digitsValue_toString]

theorem eval_scalar (W : Warehouse) (row : W.Row) {v : Operand} (scalar : v.IsScalar) :
    (literalTree v).eval W row = v.datum W := by
  cases v with
  | bool b => rfl
  | str s => rfl
  | int n =>
    show (literalTree (.int n)).eval W row = some (W.int n.toInt)
    rw [literalTree]
    have digits : (toString n.toInt.natAbs).toList.all Text.isDigit :=
      List.all_eq_true.mpr (Decimal.isDigits_toString n.toInt.natAbs).digits
    split
    case isTrue negative =>
      rw [eval_negative W row digits, Decimal.digitsValue_toString]
      congr 2
      omega
    case isFalse natural =>
      rw [eval_unsigned]
      congr 2
      omega
  | float x => exact scalar.elim
  | list items => exact scalar.elim

theorem eval_scalars (W : Warehouse) (row : W.Row) {items : List Operand} (scalars : ∀ v ∈ items, v.IsScalar) :
    (items.map literalTree).map (·.eval W row) = items.map (·.datum W) := by
  rw [List.map_map]
  exact List.map_congr_left fun v member => eval_scalar W row (scalars v member)

theorem eval_literal (W : Warehouse) (row : W.Row) {v : Operand} (plain : v.IsPlain) :
    (literalTree v).eval W row = v.datum W := by
  rcases plain with scalar | ⟨items, rfl, nonempty, scalars⟩
  · exact eval_scalar W row scalar
  · rw [literalTree, Operand.datum_list, literalTrees_eq_map]
    rcases items with _ | ⟨v, _ | ⟨w, rest⟩⟩
    · exact absurd rfl nonempty
    · exact eval_scalar W row (scalars v (by simp))
    · simp only [List.map_cons, group]
      rw [eval_tuple]
      exact congrArg (fun values => some (W.tuple values)) (eval_scalars W row scalars)

theorem eval_comparison (W : Warehouse) (row : W.Row) {op : String} (known : op ∈ Grammar.comparisons) (l r : Expr) :
    (Expr.binary op l r).eval W row = W.answer ((W.order (l.eval W row) (r.eval W row)).map (admits op)) := by
  have other : ∀ op ∈ Grammar.comparisons, op ≠ "AND" ∧ op ≠ "OR" := by decide
  rw [Expr.eval, if_pos known]
  · exact (other op known).1
  · exact (other op known).2

/-- The expression of a condition means the condition. -/
theorem holds_conditionTree (W : Warehouse) (row : W.Row) {c : Criterion} (plain : c.IsPlain) :
    W.holds ((conditionTree c).eval W row) = c.holds W row := by
  have value := eval_literal W row plain.value
  have column := eval_column W row c.property
  have compared (op : String) (known : op ∈ Grammar.comparisons) :
      W.holds ((Expr.binary op (.column [c.property]) (literalTree c.value)).eval W row) =
        (W.order (row c.property) (c.value.datum W)).map (admits op) := by
    rw [eval_comparison W row known, W.holds_answer, column, value]
  unfold conditionTree Criterion.holds
  cases operator : c.operator <;> simp only
  case eq => exact compared "=" (by decide)
  case notEq =>
    rw [eval_nested, eval_or, W.holds_answer, compared "<>" (by decide), eval_isNull, W.holds_answer, column]
    cases row c.property with
    | none => rfl
    | some x => exact Truth.or_false _
  case lt => exact compared "<" (by decide)
  case gt => exact compared ">" (by decide)
  case ltEq => exact compared "<=" (by decide)
  case gtEq => exact compared ">=" (by decide)
  case like =>
    rw [eval_like, W.holds_answer, column]
    rfl
  case isIn =>
    rw [eval_isIn, W.holds_answer, column, eval_scalars W row plain.value.items.2, List.map_map]
    rfl

section

variable (W : Warehouse) (row : W.Row) (tree : Criterion → Expr)

theorem holds_joinBy_and (first : Expr) (cs : List Criterion) :
    W.holds ((joinBy tree "AND" first cs).eval W row) =
      Truth.and (W.holds (first.eval W row)) (Truth.all (cs.map fun c => W.holds ((tree c).eval W row))) := by
  induction cs generalizing first with
  | nil => exact (Truth.and_true _).symm
  | cons c cs ih =>
    have others := ih (.binary "AND" first (tree c))
    rw [eval_and, W.holds_answer] at others
    exact others.trans (Truth.and_assoc _ _ _)

theorem holds_joinBy_or (first : Expr) (cs : List Criterion) :
    W.holds ((joinBy tree "OR" first cs).eval W row) =
      Truth.or (W.holds (first.eval W row)) (Truth.any (cs.map fun c => W.holds ((tree c).eval W row))) := by
  induction cs generalizing first with
  | nil => exact (Truth.or_false _).symm
  | cons c cs ih =>
    have others := ih (.binary "OR" first (tree c))
    rw [eval_or, W.holds_answer] at others
    exact others.trans (Truth.or_assoc _ _ _)

/-- An expression put together from conditions says what the groups of the filter say. -/
theorem holds_treeBy? {c : Criteria} {e : Expr} (known : treeBy? tree c = some e) :
    W.holds (e.eval W row) = c.judged fun d => W.holds ((tree d).eval W row) := by
  unfold treeBy? at known
  unfold Criteria.judged
  cases all : c.all with
  | nil =>
    cases any : c.any with
    | nil => simp [all, any] at known
    | cons d ds =>
      obtain rfl : joinBy tree "OR" (tree d) ds = e := by simpa [all, any] using known
      rw [holds_joinBy_or]
      exact (Truth.true_and _).symm
  | cons d ds =>
    have conjunction := holds_joinBy_and W row tree (tree d) ds
    cases any : c.any with
    | nil =>
      obtain rfl : joinBy tree "AND" (tree d) ds = e := by simpa [all, any] using known
      rw [conjunction]
      exact (Truth.and_true _).symm
    | cons d' ds' =>
      obtain rfl : Expr.binary "AND" (joinBy tree "AND" (tree d) ds)
        (.nested (joinBy tree "OR" (tree d') ds')) = e := by simpa [all, any] using known
      rw [eval_and, W.holds_answer, conjunction, eval_nested, holds_joinBy_or]
      rfl

end

/-- The expression of a filter means the filter. -/
theorem holds_clauseTree (W : Warehouse) (row : W.Row) {c : Criteria} (plainAll : ∀ d ∈ c.all, d.IsPlain)
    (plainAny : ∀ d ∈ c.any, d.IsPlain) {tree : Expr} (known : clauseTree? c = some tree) :
    W.holds (tree.eval W row) = c.holds W row := by
  rw [clauseTree?] at known
  rw [holds_treeBy? W row conditionTree known, Criteria.judged,
    List.map_congr_left fun d member => holds_conditionTree W row (plainAll d member),
    List.map_congr_left fun d member => holds_conditionTree W row (plainAny d member)]
  rfl

/-- A clause means what its criteria say: on criteria over plain columns and values, what is written is read as one
expression, the groups and conditions put together, and it holds of a row just where the criteria do. Criteria without
a condition are written as nothing. -/
theorem clause_meaning {subject : String} {c : Criteria} (plainAll : ∀ d ∈ c.all, d.IsPlain)
    (plainAny : ∀ d ∈ c.any, d.IsPlain) {text : String} (written : clause subject c = .ok text) :
    match clauseTree? c with
    | none => c.all = [] ∧ c.any = [] ∧ text = ""
    | some tree => Expr.parse text = .ok tree ∧
      ∀ (W : Warehouse) (row : W.Row), W.holds (tree.eval W row) = c.holds W row := by
  have parsed := parse_clause plainAll plainAny written
  cases known : clauseTree? c with
  | none =>
    rw [known] at parsed
    obtain ⟨all, any⟩ := clauseTree?_eq_none.mp known
    exact ⟨all, any, parsed⟩
  | some tree =>
    rw [known] at parsed
    exact ⟨parsed, fun W row => holds_clauseTree W row plainAll plainAny known⟩

/-- Adults or members outside one country. -/
def adultsOrMembersAbroad : Criteria where
  all := [⟨"event_name", .isIn, .list [.str "visit", .str "it's"]⟩, ⟨"country", .notEq, .str "US"⟩]
  any := [⟨"age", .gtEq, .int 18⟩, ⟨"member", .eq, .bool true⟩]

theorem clause_meaning_abroad : ∃ text tree, clause "visits" adultsOrMembersAbroad = .ok text ∧
    text = "event_name IN('visit', 'it''s') AND (country != 'US' OR country IS NULL) AND (age >= 18 OR member = TRUE)" ∧
    Expr.parse text = .ok tree ∧
    ∀ (W : Warehouse) (row : W.Row), W.holds (tree.eval W row) = adultsOrMembersAbroad.holds W row := by
  have written : clause "visits" adultsOrMembersAbroad = .ok
      "event_name IN('visit', 'it''s') AND (country != 'US' OR country IS NULL) AND (age >= 18 OR member = TRUE)" := rfl
  have meaning := clause_meaning ?all ?any written
  case all =>
    intro d member
    simp only [adultsOrMembersAbroad, List.mem_cons, List.not_mem_nil, or_false] at member
    rcases member with rfl | rfl
    · exact ⟨by decide, .inr ⟨_, rfl, by simp, by simp [Operand.IsScalar]⟩⟩
    · exact ⟨by decide, .inl trivial⟩
  case any =>
    intro d member
    simp only [adultsOrMembersAbroad, List.mem_cons, List.not_mem_nil, or_false] at member
    rcases member with rfl | rfl
    · exact ⟨by decide, .inl trivial⟩
    · exact ⟨by decide, .inl trivial⟩
  exact ⟨_, _, written, rfl, meaning⟩

end Sql

end AttributeStore
