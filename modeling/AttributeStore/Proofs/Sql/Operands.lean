import AttributeStore.Proofs.Sql.Reading

/-! Literals as tokens and as expressions. -/
namespace AttributeStore

/-- A boolean, a whole number or a text. -/
def Operand.IsScalar : Operand → Prop
  | .bool _ | .int _ | .str _ => True
  | _ => False

/-- A scalar, or some scalars in a list. -/
def Operand.IsPlain (value : Operand) : Prop :=
  value.IsScalar ∨ ∃ items, value = .list items ∧ items ≠ [] ∧ ∀ item ∈ items, item.IsScalar

/-- The values that `IN` looks through; a single one is a list of one. -/
def Operand.items : Operand → List Operand
  | .list items => items
  | value => [value]

mutual

/-- How deep lists stand inside each other. -/
def Operand.nesting : Operand → Nat
  | .list items => Operand.nestings items + 1
  | _ => 0

def Operand.nestings : List Operand → Nat
  | [] => 0
  | item :: rest => max item.nesting (Operand.nestings rest)

end

mutual

/-- Whether no list is empty, nor any list inside it. -/
def Operand.isFilled : Operand → Bool
  | .list items => !items.isEmpty && Operand.areFilled items
  | _ => true

def Operand.areFilled : List Operand → Bool
  | [] => true
  | item :: rest => item.isFilled && Operand.areFilled rest

end

namespace Operand

variable {value : Operand}

theorem IsScalar.facts (scalar : value.IsScalar) : value.isFilled ∧ value.nesting = 0 := by
  cases value <;> first | exact scalar.elim | exact ⟨by simp [isFilled], by simp [nesting]⟩

theorem scalars_facts {items : List Operand} (scalars : ∀ item ∈ items, item.IsScalar) :
    areFilled items ∧ nestings items = 0 := by
  induction items with
  | nil => exact ⟨by simp [areFilled], by simp [nestings]⟩
  | cons item items ih =>
    obtain ⟨filled, flat⟩ := (scalars item (by simp)).facts
    obtain ⟨othersFilled, othersFlat⟩ := ih fun v member => scalars v (List.mem_cons_of_mem item member)
    exact ⟨by simp [areFilled, filled, othersFilled], by simp [nestings, flat, othersFlat]⟩

theorem IsPlain.items (plain : value.IsPlain) : value.items ≠ [] ∧ ∀ item ∈ value.items, item.IsScalar := by
  rcases plain with scalar | ⟨items, rfl, nonempty, scalars⟩
  · cases value <;> first | exact scalar.elim | exact ⟨by simp [Operand.items], by simpa [Operand.items] using scalar⟩
  · exact ⟨nonempty, scalars⟩

theorem IsPlain.facts (plain : value.IsPlain) : value.isFilled ∧ value.nesting ≤ 1 := by
  rcases plain with scalar | ⟨items, rfl, nonempty, scalars⟩
  · exact ⟨scalar.facts.1, by rw [scalar.facts.2]; exact Nat.zero_le 1⟩
  · obtain ⟨filled, flat⟩ := scalars_facts scalars
    exact ⟨by simp [isFilled, nonempty, filled], by simp [nesting, flat]⟩

theorem items_facts (value : Operand) : nestings value.items ≤ value.nesting ∧
    (value.isFilled → value.items ≠ [] ∧ areFilled value.items) := by
  cases value with
  | list items =>
    refine ⟨by simp [Operand.items, nesting], fun filled => ?_⟩
    simpa [isFilled, Operand.items] using filled
  | _ => exact ⟨by simp [Operand.items, nestings], fun filled => by simp [Operand.items, areFilled, filled]⟩

end Operand

namespace Sql

/-- Expressions in parentheses. -/
def group : List Expr → Expr
  | [e] => .nested e
  | es => .form "()" es

def unsigned (n : Nat) : Token := .number (toString n) false

/-- A double that is not finite is written as a word. -/
def floatTokens (x : Float) : List Token :=
  let magnitude := .number (Decimal.plainNotation.magnitude (.ofBits x.toBits)) false
  if x.isNaN then [.word "NaN"]
  else if x.isInf then (if x < 0 then [.symbol "-", .word "inf"] else [.word "inf"])
  else if x.toBits >>> 63 = 1 then [.symbol "-", magnitude] else [magnitude]

def commas : List (List Token) → List Token
  | [] => []
  | [item] => item
  | item :: rest => item ++ .symbol "," :: commas rest

mutual

def literalTree : Operand → Expr
  | .bool b => .bool b
  | .int n =>
    let magnitude := .number (toString n.toInt.natAbs)
    if n.toInt < 0 then .unary "-" magnitude else magnitude
  | .float x => .number (Decimal.plain x)
  | .str s => .text s
  | .list items => group (literalTrees items)

def literalTrees : List Operand → List Expr
  | [] => []
  | item :: rest => literalTree item :: literalTrees rest

end

/-- A double has its sign before it, and one that is not finite is taken for a column. -/
def floatRead (x : Float) : Expr :=
  let magnitude := .number (Decimal.plainNotation.magnitude (.ofBits x.toBits))
  if x.isNaN then .column ["NaN"]
  else if x.isInf then (if x < 0 then .unary "-" (.column ["inf"]) else .column ["inf"])
  else if x.toBits >>> 63 = 1 then .unary "-" magnitude else magnitude

mutual

/-- The expression that is read where a literal is written. -/
def literalRead : Operand → Expr
  | .float x => floatRead x
  | .list items => group (literalsRead items)
  | value => literalTree value

def literalsRead : List Operand → List Expr
  | [] => []
  | item :: rest => literalRead item :: literalsRead rest

end

mutual

def literalTokens : Operand → List Token
  | .bool b => [.word (if b then "TRUE" else "FALSE")]
  | .int n => if n.toInt < 0 then [.symbol "-", unsigned n.toInt.natAbs] else [unsigned n.toInt.natAbs]
  | .float x => floatTokens x
  | .str s => [.text s]
  | .list items => .symbol "(" :: commas (itemTokens items) ++ [.symbol ")"]

def itemTokens : List Operand → List (List Token)
  | [] => []
  | item :: rest => literalTokens item :: itemTokens rest

end

theorem literalTrees_eq_map (items : List Operand) : literalTrees items = items.map literalTree := by
  induction items with
  | nil => rfl
  | cons item rest ih => simp [literalTrees, ih]

theorem literalsRead_eq_map (items : List Operand) : literalsRead items = items.map literalRead := by
  induction items with
  | nil => rfl
  | cons item rest ih => simp [literalsRead, ih]

/-- A plain literal is read as what it is. -/
theorem literalRead_plain {value : Operand} (plain : value.IsPlain) : literalRead value = literalTree value := by
  have scalar {v : Operand} (scalar : v.IsScalar) : literalRead v = literalTree v := by
    cases v <;> first | exact scalar.elim | simp [literalRead]
  rcases plain with alone | ⟨items, rfl, -, scalars⟩
  · exact scalar alone
  · rw [literalRead, literalTree, literalsRead_eq_map, literalTrees_eq_map]
    exact congrArg group (List.map_congr_left fun v member => scalar (scalars v member))

theorem itemTokens_eq_map (items : List Operand) : itemTokens items = items.map literalTokens := by
  induction items with
  | nil => rfl
  | cons item rest ih => simp [itemTokens, ih]

/-- How a list is spelled. -/
theorem exists_listLexemes {items : List Operand} {front : List Lexeme}
    (spelled : front.map (·.token) = literalTokens (.list items)) : ∃ inside opening closing,
      inside.map (·.token) = commas (items.map literalTokens) ∧
      front = ⟨.symbol "(", opening⟩ :: (inside ++ [⟨.symbol ")", closing⟩]) := by
  rw [literalTokens, itemTokens_eq_map] at spelled
  obtain ⟨⟨_, opening⟩, _, rfl, rfl, behind⟩ := List.map_eq_cons_iff.mp spelled
  obtain ⟨inside, _, rfl, spelledItems, last⟩ := List.map_eq_append_iff.mp behind
  obtain ⟨⟨_, closing⟩, rfl, rfl⟩ := List.map_eq_singleton_iff.mp last
  exact ⟨inside, opening, closing, spelledItems, rfl⟩

namespace Grammar

open Reader

/-- What may stand behind a whole condition. -/
def closes : List Token := [.ended, .symbol ")", .symbol ",", .word "AND", .word "OR", .word "THEN"]

def Closes (rest : List Lexeme) : Prop := (rest.headD endOfText).token ∈ closes

theorem Closes.stops {rest : List Lexeme} (ends : Closes rest) : Stops rest := by
  have included : ∀ t ∈ closes, t ∈ Grammar.stops := by decide
  exact included _ ends

theorem peekAt_zero (s : List Lexeme) : (s[0]?.getD endOfText) = s.headD endOfText := by cases s <;> rfl

theorem infixes_stop {s : List Lexeme} (fuel depth : Nat) {floor : Nat} (e : Expr)
    (weak : ∀ t u, precedenceOf (s.headD endOfText).token t u ≤ floor) :
    infixes (fuel + 1) depth floor e s = .ok (e, s) := by
  rw [infixes.eq_def]
  simp only [run_bind, run_peekAt, peekAt_zero]
  rw [if_neg (Nat.not_lt.mpr (weak _ _))]
  rfl

theorem infixes_step {s left : List Lexeme} (fuel depth : Nat) {floor p : Nat} {e joint : Expr}
    (tight : ∀ t u, precedenceOf (s.headD endOfText).token t u = p) (binds : floor < p)
    (read : joined fuel depth p e s = .ok (joint, left)) :
    infixes (fuel + 1) depth floor e s = infixes fuel depth floor joint left := by
  rw [infixes.eq_def]
  simp only [run_bind, run_peekAt, peekAt_zero, tight]
  rw [if_pos binds, run_bind, read]

theorem precedenceOf_and (t u : Token) : precedenceOf (.word "AND") t u = 10 := rfl

theorem precedenceOf_or (t u : Token) : precedenceOf (.word "OR") t u = 5 := rfl

theorem Closes.precedence {rest : List Lexeme} (ends : Closes rest) (t u : Token) :
    precedenceOf (rest.headD endOfText).token t u ≤ 10 := by
  unfold Closes at ends
  generalize (rest.headD endOfText).token = head at ends
  simp only [closes, List.mem_cons, List.not_mem_nil, or_false] at ends
  rcases ends with rfl | rfl | rfl | rfl | rfl | rfl
  · exact Nat.zero_le 10
  · exact Nat.zero_le 10
  · exact Nat.zero_le 10
  · exact (precedenceOf_and t u).le
  · exact (precedenceOf_or t u).trans_le (by decide)
  · exact Nat.zero_le 10

theorem subexpr_primary {fuel depth floor : Nat} {s left : List Lexeme} {e : Expr}
    (read : primary fuel depth s = .ok (e, left)) :
    subexpr (fuel + 1) (depth + 1) floor s = infixes fuel depth floor e left := by
  rw [subexpr.eq_def]
  dsimp only
  rw [run_bind, read]

/-- An operand behind which no operator binds more tightly than the one before it. -/
theorem subexpr_operand {fuel depth floor : Nat} {s rest : List Lexeme} {e : Expr}
    (read : primary (fuel + 1) depth s = .ok (e, rest))
    (weak : ∀ t u, precedenceOf (rest.headD endOfText).token t u ≤ floor) :
    subexpr (fuel + 2) (depth + 1) floor s = .ok (e, rest) := by
  rw [subexpr_primary read]
  exact infixes_stop fuel depth e weak

theorem primary_negative {left rest : List Lexeme} {e : Expr} (fuel depth : Nat) (pos : Option Position)
    (ends : Closes rest) (read : primary (fuel + 4) depth left = .ok (e, rest)) :
    primary (fuel + 6) (depth + 1) (⟨.symbol "-", pos⟩ :: left) = .ok (.unary "-" e, rest) :=
  primary_minus (fuel + 3) (depth + 1) pos ends.stops
    (subexpr_operand read fun t u => (ends.precedence t u).trans (by decide))

theorem primary_float (x : Float) {front rest : List Lexeme} (spelled : front.map (·.token) = floatTokens x)
    (ends : Closes rest) (fuel depth : Nat) :
    primary (fuel + 6) (depth + 1) (front ++ rest) = .ok (floatRead x, rest) := by
  have infinite : IsOperand "inf" (.column ["inf"]) := IsColumn.isOperand (by decide)
  have unordered : IsOperand "NaN" (.column ["NaN"]) := IsColumn.isOperand (by decide)
  unfold floatTokens at spelled
  unfold floatRead
  dsimp only at spelled ⊢
  split at spelled
  case isTrue isNaN =>
    obtain ⟨⟨_, pos⟩, rfl, rfl⟩ := List.map_eq_singleton_iff.mp spelled
    rw [if_pos isNaN]
    exact unordered.read (fuel + 2) (depth + 1) pos ends.stops
  case isFalse isNumber =>
    rw [if_neg isNumber]
    split at spelled
    case isTrue isInf =>
      rw [if_pos isInf]
      split at spelled
      case isTrue negative =>
        obtain ⟨⟨_, minus⟩, _, rfl, rfl, word⟩ := List.map_eq_cons_iff.mp spelled
        obtain ⟨⟨_, pos⟩, rfl, rfl⟩ := List.map_eq_singleton_iff.mp word
        rw [if_pos negative]
        exact primary_negative fuel depth minus ends (infinite.read fuel depth pos ends.stops)
      case isFalse positive =>
        obtain ⟨⟨_, pos⟩, rfl, rfl⟩ := List.map_eq_singleton_iff.mp spelled
        rw [if_neg positive]
        exact infinite.read (fuel + 2) (depth + 1) pos ends.stops
    case isFalse finite =>
      rw [if_neg finite]
      split at spelled
      case isTrue negative =>
        obtain ⟨⟨_, minus⟩, _, rfl, rfl, digits⟩ := List.map_eq_cons_iff.mp spelled
        obtain ⟨⟨_, pos⟩, rfl, rfl⟩ := List.map_eq_singleton_iff.mp digits
        rw [if_pos negative]
        exact primary_negative fuel depth minus ends (primary_number (fuel + 1) depth pos ends.stops)
      case isFalse positive =>
        obtain ⟨⟨_, pos⟩, rfl, rfl⟩ := List.map_eq_singleton_iff.mp spelled
        rw [if_neg positive]
        exact primary_number (fuel + 3) (depth + 1) pos ends.stops

/-- A literal that is no list. -/
theorem primary_atom {value : Operand} (atom : ∀ items, value ≠ .list items) {front rest : List Lexeme}
    (spelled : front.map (·.token) = literalTokens value) (ends : Closes rest) {fuel depth : Nat}
    (enough : 6 ≤ fuel) (deep : 1 ≤ depth) : primary fuel depth (front ++ rest) = .ok (literalRead value, rest) := by
  obtain ⟨fuel, rfl⟩ := Nat.exists_eq_add_of_le' enough
  obtain ⟨depth, rfl⟩ := Nat.exists_eq_add_of_le' deep
  cases value with
  | bool b =>
    obtain ⟨⟨_, pos⟩, rfl, rfl⟩ := List.map_eq_singleton_iff.mp spelled
    exact primary_bool (fuel + 2) (depth + 1) pos ends.stops
  | str s =>
    obtain ⟨⟨_, pos⟩, rfl, rfl⟩ := List.map_eq_singleton_iff.mp spelled
    exact primary_text (fuel + 3) (depth + 1) pos ends.stops
  | int n =>
    by_cases negative : n.toInt < 0
    · simp only [literalTokens, literalRead, literalTree, if_pos negative] at spelled ⊢
      obtain ⟨⟨_, minus⟩, _, rfl, rfl, digits⟩ := List.map_eq_cons_iff.mp spelled
      obtain ⟨⟨_, pos⟩, rfl, rfl⟩ := List.map_eq_singleton_iff.mp digits
      exact primary_negative fuel depth minus ends (primary_number (fuel + 1) depth pos ends.stops)
    · simp only [literalTokens, literalRead, literalTree, if_neg negative] at spelled ⊢
      obtain ⟨⟨_, pos⟩, rfl, rfl⟩ := List.map_eq_singleton_iff.mp spelled
      exact primary_number (fuel + 3) (depth + 1) pos ends.stops
  | float x => exact primary_float x spelled ends fuel depth
  | list items => exact absurd rfl (atom items)

theorem commaSeparated_last {fuel depth : Nat} {s rest : List Lexeme} {e : Expr}
    (read : subexpr fuel depth 0 s = .ok (e, rest)) (last : (rest.headD endOfText).token ≠ .symbol ",") :
    commaSeparated (fuel + 1) depth s = .ok ([e], rest) := by
  rw [commaSeparated.eq_def]
  dsimp only
  rw [run_bind, read]
  dsimp only
  rw [run_bind, run_sawSymbol, if_neg last]
  rfl

theorem commaSeparated_more {fuel depth : Nat} {s left rest : List Lexeme} {e : Expr} {es : List Expr}
    {pos : Option Position} (read : subexpr fuel depth 0 s = .ok (e, ⟨.symbol ",", pos⟩ :: left))
    (more : commaSeparated fuel depth left = .ok (es, rest)) :
    commaSeparated (fuel + 1) depth s = .ok (e :: es, rest) := by
  rw [commaSeparated.eq_def]
  dsimp only
  rw [run_bind, read]
  dsimp only
  rw [run_bind, run_sawSymbol, List.headD_cons, if_pos rfl]
  simp only [if_true, run_bind, List.drop_succ_cons, List.drop_zero, more]
  rfl

theorem noQuery_of_notMem {w : String} (other : w ∉ ["SELECT", "WITH", "VALUES", "TABLE"]) :
    w ≠ "SELECT" ∧ w ≠ "WITH" := by
  simp only [List.mem_cons, not_or] at other
  exact ⟨other.1, other.2.1⟩

theorem parenthesized_run {fuel depth : Nat} {left rest : List Lexeme} {es : List Expr} {pos : Option Position}
    (noQuery : (left.headD endOfText).token.keyword ≠ "SELECT" ∧ (left.headD endOfText).token.keyword ≠ "WITH")
    (read : commaSeparated fuel depth left = .ok (es, ⟨.symbol ")", pos⟩ :: rest)) (ends : Stops rest) :
    parenthesized (fuel + 1) depth left = .ok (group es, rest) := by
  rw [parenthesized.eq_def]
  dsimp only
  rw [run_bind, run_peek]
  dsimp only
  rw [run_bind, if_neg (not_or.mpr noQuery), run_bind, read]
  rcases es with _ | ⟨e, _ | ⟨f, more⟩⟩
  all_goals
    simp (disch := decide) only [run_pure, run_bind, run_expectSymbol, List.headD_cons, if_true, List.drop_succ_cons,
      List.drop_zero, ends.sawSymbol, Bool.false_eq_true, if_false]
    rfl

theorem headD_spelled {front : List Lexeme} {t : Token} {more : List Token} (rest : List Lexeme)
    (spelled : front.map (·.token) = t :: more) : ((front ++ rest).headD endOfText).token = t := by
  obtain ⟨l, _, rfl, rfl, _⟩ := List.map_eq_cons_iff.mp spelled
  rfl

/-- The keywords with which literals begin. -/
def literalWords : List String := ["", "TRUE", "FALSE", "NAN", "INF"]

/-- Only a list begins with a parenthesis. -/
theorem literal_begins (value : Operand) : ∃ t more, literalTokens value = t :: more ∧ t.keyword ∈ literalWords ∧
    (t = .symbol "(" → ∃ items, value = .list items) := by
  have sign : (Token.symbol "-").keyword ∈ literalWords := by decide
  have unnamed : "" ∈ literalWords := by decide
  cases value with
  | bool b => exact ⟨_, [], rfl, by cases b <;> decide, nofun⟩
  | int n =>
    rw [literalTokens]
    split
    · exact ⟨_, _, rfl, sign, by simp⟩
    · exact ⟨_, _, rfl, unnamed, nofun⟩
  | str s => exact ⟨_, [], rfl, unnamed, nofun⟩
  | float x =>
    rw [literalTokens]
    unfold floatTokens
    dsimp only
    split
    · exact ⟨_, _, rfl, by decide, nofun⟩
    · split <;> split
      · exact ⟨_, _, rfl, sign, by simp⟩
      · exact ⟨_, _, rfl, by decide, nofun⟩
      · exact ⟨_, _, rfl, sign, by simp⟩
      · exact ⟨_, _, rfl, unnamed, nofun⟩
  | list items => exact ⟨_, _, rfl, by decide, fun _ => ⟨items, rfl⟩⟩

theorem commas_begin (v : Operand) (items : List Operand) :
    ∃ more, commas ((v :: items).map literalTokens) = literalTokens v ++ more := by
  cases items with
  | nil => exact ⟨[], by simp [commas]⟩
  | cons w items => exact ⟨_, rfl⟩

/-- Neither a literal nor the end of a list begins a query. -/
theorem items_noQuery {items : List Operand} {front : List Lexeme}
    (spelled : front.map (·.token) = commas (items.map literalTokens)) (pos : Option Position) (rest : List Lexeme) :
    ((front ++ ⟨.symbol ")", pos⟩ :: rest).headD endOfText).token.keyword ∉ ["SELECT", "WITH", "VALUES", "TABLE"] := by
  have other : ∀ w ∈ literalWords, w ∉ ["SELECT", "WITH", "VALUES", "TABLE"] := by decide
  cases items with
  | nil =>
    obtain rfl : front = [] := List.map_eq_nil_iff.mp spelled
    exact other "" (by decide)
  | cons v items =>
    obtain ⟨t, more, first, keyword, -⟩ := literal_begins v
    obtain ⟨behind, joined⟩ := commas_begin v items
    rw [joined, first, List.cons_append] at spelled
    rw [headD_spelled _ spelled]
    exact other _ keyword

mutual

/-- A literal behind an operator. Four rules are between a list and its items, and each list stands one level deeper
than the one around it. -/
theorem primary_literal (value : Operand) (filled : value.isFilled) {front rest : List Lexeme}
    (spelled : front.map (·.token) = literalTokens value) (ends : Closes rest) {fuel depth : Nat}
    (enough : 4 * front.length + 4 ≤ fuel) (deep : value.nesting + 1 ≤ depth) :
    primary fuel depth (front ++ rest) = .ok (literalRead value, rest) :=
  match value with
  | .bool _ | .int _ | .float _ | .str _ => by
    have positive : front ≠ [] := by
      rintro rfl
      obtain ⟨t, more, first, -⟩ := literal_begins _
      rw [first] at spelled
      cases spelled
    have length := List.length_pos_iff.mpr positive
    exact primary_atom (by simp) spelled ends (by omega) (by omega)
  | .list items => by
    obtain ⟨inside, opening, pos, spelledItems, rfl⟩ := exists_listLexemes spelled
    simp only [List.length_cons, List.length_append, List.length_nil] at enough
    rw [Operand.nesting] at deep
    obtain ⟨nonempty, filledItems⟩ : items ≠ [] ∧ Operand.areFilled items := by simpa [Operand.isFilled] using filled
    obtain ⟨fuel, rfl⟩ := Nat.exists_eq_add_of_le' (by omega : 3 ≤ fuel)
    have read : commaSeparated (fuel + 1) depth (inside ++ ⟨.symbol ")", pos⟩ :: rest) =
        .ok (literalsRead items, ⟨.symbol ")", pos⟩ :: rest) :=
      commaSeparated_literals items nonempty filledItems spelledItems (by omega) (by omega)
    rw [literalRead]
    simp only [List.cons_append, List.append_assoc, List.nil_append]
    refine primary_opening fuel depth opening ends.stops (parenthesized_run ?_ read ends.stops)
    exact noQuery_of_notMem (items_noQuery spelledItems pos rest)

theorem commaSeparated_literals (items : List Operand) (nonempty : items ≠ []) (filled : Operand.areFilled items)
    {front rest : List Lexeme} {pos : Option Position}
    (spelled : front.map (·.token) = commas (items.map literalTokens)) {fuel depth : Nat}
    (enough : 4 * front.length + 6 ≤ fuel) (deep : Operand.nestings items + 2 ≤ depth) :
    commaSeparated fuel depth (front ++ ⟨.symbol ")", pos⟩ :: rest) =
      .ok (literalsRead items, ⟨.symbol ")", pos⟩ :: rest) :=
  match items with
  | [] => absurd rfl nonempty
  | [v] => by
    simp only [List.map_cons, List.map_nil, commas] at spelled
    simp only [Operand.areFilled, Operand.nestings, Bool.and_true, Nat.max_zero] at filled deep
    obtain ⟨fuel, rfl⟩ := Nat.exists_eq_add_of_le' (by omega : 3 ≤ fuel)
    obtain ⟨depth, rfl⟩ := Nat.exists_eq_add_of_le' (by omega : 1 ≤ depth)
    have closing : Closes (⟨.symbol ")", pos⟩ :: rest) := (by decide : Token.symbol ")" ∈ closes)
    refine commaSeparated_last (subexpr_operand ?_ fun t u => Nat.le_refl 0) (by simp)
    exact primary_literal v filled spelled closing (by omega) (by omega)
  | v :: w :: items => by
    simp only [Operand.areFilled, Operand.nestings, Bool.and_eq_true] at filled deep
    obtain ⟨front, others, rfl, spelledOwn, behind⟩ := List.map_eq_append_iff.mp spelled
    obtain ⟨⟨_, comma⟩, others, rfl, rfl, spelledOthers⟩ := List.map_eq_cons_iff.mp behind
    simp only [List.length_append, List.length_cons] at enough
    obtain ⟨fuel, rfl⟩ := Nat.exists_eq_add_of_le' (by omega : 3 ≤ fuel)
    obtain ⟨depth, rfl⟩ := Nat.exists_eq_add_of_le' (by omega : 1 ≤ depth)
    let left := others ++ ⟨.symbol ")", pos⟩ :: rest
    have separator : Closes (⟨.symbol ",", comma⟩ :: left) := (by decide : Token.symbol "," ∈ closes)
    have own : subexpr (fuel + 2) (depth + 1) 0 (front ++ ⟨.symbol ",", comma⟩ :: left) =
        .ok (literalRead v, ⟨.symbol ",", comma⟩ :: left) :=
      subexpr_operand (primary_literal v filled.1 spelledOwn separator (by omega) (by omega)) fun t u => Nat.le_refl 0
    have more : commaSeparated (fuel + 2) (depth + 1) left =
        .ok (literalsRead (w :: items), ⟨.symbol ")", pos⟩ :: rest) :=
      commaSeparated_literals (w :: items) (by simp) (by simpa [Operand.areFilled] using filled.2) spelledOthers
        (by omega) (by simp only [Operand.nestings]; omega)
    rw [List.append_assoc]
    exact commaSeparated_more own more

end

end Grammar

end Sql

end AttributeStore
