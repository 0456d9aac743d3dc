import AttributeStore.Models.Basic
import AttributeStore.Proofs.Sql.Meaning
import AttributeStore.Proofs.Sql.RowExpression

/-! Days. The expression of a daily column has a value in every row of a day, and the warehouse makes one value of
them, or takes one of them. -/
namespace AttributeStore.Sql

namespace Warehouse

/-- The value of a text that is an expression by itself. -/
def term (W : Warehouse) (text : String) (row : W.Row) : Option W.Value :=
  match Expr.parse text with
  | .ok tree => tree.eval W row
  | .error _ => none

/-- A case has its first value where the condition is true, and its other value where that is false or unknown. -/
def choose (W : Warehouse) (condition : Expr) (result other : W.Row → Option W.Value) (row : W.Row) : Option W.Value :=
  if W.holds (condition.eval W row) = some true then result row else other row

/-- A text with nothing around an expression, neither a case nor a mark of distinct values. -/
def Simple (text : String) : Prop := ¬"CASE ".toList <+: text.toList ∧ ¬"DISTINCT ".toList <+: text.toList

/-- How the expression of a daily column reads in every row. -/
inductive Reads (W : Warehouse) : (text : String) → (read : W.Row → Option W.Value) → Prop
  | null : Reads W "NULL" fun _ => none
  | zero : Reads W "0" fun _ => some (W.int 0)
  | term {text : String} (simple : Simple text) : Reads W text (W.term text)
  | case {clause result other : String} {condition : Expr} {read readOther : W.Row → Option W.Value}
    (parsed : Expr.parse clause = .ok condition) (first : Reads W result read) (second : Reads W other readOther) :
    Reads W (caseWhen clause result other) (W.choose condition read readOther)
  | distinct {text : String} {read : W.Row → Option W.Value} (inner : Reads W text read) :
    Reads W ("DISTINCT " ++ text) read

end Warehouse

/-- How a warehouse makes one value of a day. It folds the values of all rows, or it takes the value of one row, which
the times of the rows decide. -/
structure Days (W : Warehouse) where
  fold : String → List (Option W.Value) → Option W.Value
  /-- The place of the row that is the first or the last of a day. -/
  pick : String → List Int → Option Nat
  pick_single : ∀ function time, pick function [time] = some 0

namespace Days

variable {W : Warehouse}

def value (D : Days W) (column : DailyColumn) (read : W.Row → Option W.Value) (day : List (Int × W.Row)) :
    Option W.Value :=
  let values := day.map fun event => read event.2
  if column.function = "first" ∨ column.function = "last" then
    (D.pick column.function (day.map (·.1))).bind fun place => values[place]?.join
  else D.fold column.function values

/-- Two rows that do not pass and agree but for the property. -/
structure Exchanged (passes : W.Row → Prop) (property : Option String) (r s : W.Row) : Prop where
  before : ¬passes r
  after : ¬passes s
  others : ∀ c, property ≠ some c → r c = s c

/-- No property of a row that does not pass shows in the value of a day. -/
def Honours (D : Days W) (column : DailyColumn) (read : W.Row → Option W.Value) (passes : W.Row → Prop)
    (property : Option String) : Prop :=
  ∀ day day' : List (Int × W.Row),
    List.Forall₂ (fun e e' => e.1 = e'.1 ∧ (e.2 = e'.2 ∨ Exchanged passes property e.2 e'.2)) day day' →
      D.value column read day = D.value column read day'

theorem value_congr (D : Days W) (column : DailyColumn) {read : W.Row → Option W.Value} {day day' : List (Int × W.Row)}
    (same : List.Forall₂ (fun e e' => e.1 = e'.1 ∧ read e.2 = read e'.2) day day') :
    D.value column read day = D.value column read day' := by
  have seen : day.map (·.1) = day'.map (·.1) ∧
      day.map (fun event => read event.2) = day'.map fun event => read event.2 := by
    induction same with
    | nil => exact ⟨rfl, rfl⟩
    | cons first _ ih => simp only [List.map_cons, first, ih, and_self]
  unfold value
  rw [seen.1, seen.2]

/-- A property that is not read off rows that do not pass does not show. -/
theorem honours_of_read (D : Days W) (column : DailyColumn) {read : W.Row → Option W.Value} {passes : W.Row → Prop}
    {property : Option String} (unread : ∀ r s, Exchanged passes property r s → read r = read s) :
    D.Honours column read passes property := by
  intro day day' exchanged
  refine D.value_congr column (exchanged.imp fun e e' ⟨time, rows⟩ => ⟨time, ?_⟩)
  rcases rows with same | exchanged
  · rw [same]
  · exact unread _ _ exchanged

/-- A first or last value is read in whatever row is picked, whether or not it passes. -/
theorem honours_positional_iff (D : Days W) {column : DailyColumn} {read : W.Row → Option W.Value}
    {passes : W.Row → Prop} {property : Option String}
    (positional : column.function = "first" ∨ column.function = "last") :
    D.Honours column read passes property ↔ ∀ r s, Exchanged passes property r s → read r = read s := by
  constructor
  · intro honours r s exchanged
    have alone (row : W.Row) : D.value column read [(0, row)] = read row := by
      simp [value, positional, D.pick_single]
    rw [← alone r, ← alone s]
    exact honours _ _ (.cons ⟨rfl, .inr exchanged⟩ .nil)
  · exact D.honours_of_read column

end Days

namespace Warehouse

theorem simple_of_isNameChar {text : String} (named : ∀ c ∈ text.toList, Column.isNameChar c) : Simple text := by
  have blank (mark : String) (marked : ' ' ∈ mark.toList) : ¬mark.toList <+: text.toList :=
    fun before => absurd (named ' ' (before.subset marked)) (by decide)
  exact ⟨blank "CASE " (by decide), blank "DISTINCT " (by decide)⟩

theorem simple_counted {fold : Fold} {property : Option String} {result : String}
    (named : ∀ p ∈ property, ∀ c ∈ p.toList, Column.isNameChar c) (counts : counted fold property = some result) :
    Simple result := by
  cases fold
  case count =>
    cases counts
    refine simple_of_isNameChar fun c member => ?_
    obtain rfl : c = '1' := by simpa using member
    decide
  case sum =>
    cases property with
    | none => cases counts
    | some p =>
      cases counts
      constructor <;> simp [String.toList_append]
  all_goals
    obtain rfl : property = some result := by simpa [counted] using counts
    exact simple_of_isNameChar (named result rfl)

variable (W : Warehouse)

theorem reads_otherwise (fold : Fold) : ∃ value, W.Reads (otherwise fold) fun _ => value := by
  cases fold
  case count | sum => exact ⟨_, .zero⟩
  all_goals exact ⟨_, .null⟩

/-- What is folded under a filter reads as a case of the filter, with a fixed value where it does not hold. -/
theorem reads_guarded (fold : Fold) {clause result : String} {tree : Expr} (parsed : Expr.parse clause = .ok tree)
    (simple : Simple result) :
    ∃ value, W.Reads (guarded fold clause result) (W.choose tree (W.term result) fun _ => value) := by
  obtain ⟨value, other⟩ := W.reads_otherwise fold
  have read := Reads.case parsed (.term simple) other
  refine ⟨value, ?_⟩
  unfold guarded
  split
  · exact .distinct read
  · rwa [String.empty_append]

theorem term_column {name : String} (column : Grammar.IsColumn name) (row : W.Row) : W.term name row = row name := by
  simp [term, parse_column column, Expr.eval]

end Warehouse

end AttributeStore.Sql
