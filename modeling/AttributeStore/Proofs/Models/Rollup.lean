import AttributeStore.Proofs.Models.DailyColumns
import AttributeStore.Proofs.Models.Routing
import AttributeStore.Proofs.Sql.Meaning
import AttributeStore.Proofs.Sql.RowExpression
import AttributeStore.Project.Template
import Mathlib.Algebra.Order.Group.Int
import Mathlib.Data.List.Dedup
import Mathlib.Data.Set.Basic

/-! Days rolled up. A daily column folds the rows of each date, and a final column folds the days of a window. Together
they come to what the daily column's own function makes of all rows in the window. -/
namespace AttributeStore

namespace Rollup

open Sql (Truth)

/-- What a column holds in a row: a value, which may be missing, or an array, of which only the items count. -/
inductive Cell (V : Type)
  | value (v : Option V)
  | array (items : Set V)

def Cell.value? : Cell V → Option V
  | value v => v
  | array _ => none

/-- A row of an entity: its date, its columns, and whether a clause holds in it. -/
structure Row (V : Type) where
  date : Int
  column : String → Cell V
  truth : String → Truth

/-- What is folded in each row. -/
inductive Term
  | number (n : Nat)
  | null
  | column (name : String)
  | asFloat (t : Term)
  /-- One of two terms, by a clause. -/
  | filtered (clause : String) (t other : Term)
  /-- A term, unless more days have passed. -/
  | since (days : Int) (t : Term)

def Term.text : Term → String
  | number n => toString n
  | null => "NULL"
  | column name => name
  | asFloat t => "CAST(" ++ t.text ++ " AS FLOAT)"
  | filtered clause t other => Sql.caseWhen clause t.text other.text
  | since days t =>
    "CASE WHEN event_date >= DATEADD(day, -" ++ toString days ++ ", CURRENT_DATE) THEN " ++ t.text ++ " END"

@[simp] theorem Term.text_filtered (clause : String) (t other : Term) :
    (filtered clause t other).text = Sql.caseWhen clause t.text other.text := rfl

@[simp] theorem Term.text_since (days : Int) (t : Term) : (since days t).text =
    "CASE WHEN event_date >= DATEADD(day, -" ++ toString days ++ ", CURRENT_DATE) THEN " ++ t.text ++ " END" := rfl

inductive Function
  | sum
  | min
  | max
  | arrayAgg
  | arrayUnionAgg

namespace Function

/-- Arrays are made of distinct values. -/
def opening : Function → String
  | sum => "SUM("
  | min => "MIN("
  | max => "MAX("
  | arrayAgg => "ARRAY_AGG(DISTINCT "
  | arrayUnionAgg => "ARRAY_UNION_AGG("

/-- The function of a daily column; first and last values are not folded. -/
def ofFold? : Fold → Option Function
  | .count | .sum => some sum
  | .min => some min
  | .max => some max
  | .uniqueList => some arrayAgg
  | .first | .last => none

/-- The function that folds the results of others. -/
def rollup : Function → Function
  | arrayAgg => arrayUnionAgg
  | other => other

end Function

structure Aggregate where
  function : Function
  term : Term

def Aggregate.text (a : Aggregate) : String := a.function.opening ++ a.term.text ++ ")"

/-- What a row adds that passes the filter of a fold. -/
def Term.counted (fold : Fold) (property : String) : Term :=
  match fold with
  | .count => number 1
  | .sum => asFloat (column property)
  | _ => column property

/-- What any other row adds. -/
def Term.otherwise : Fold → Term
  | .count | .sum => number 0
  | _ => null

/-- The aggregate of a day's rows. -/
def Aggregate.ofFold? (fold : Fold) (clause property : String) : Option Aggregate :=
  (Function.ofFold? fold).map (⟨·, .filtered clause (.counted fold property) (.otherwise fold)⟩)

/-- A term in a window of days; without one it counts in every row. -/
def windowed (days : Option Int) (t : Term) : Term := days.elim t (.since · t)

/-- The aggregate of a window's days. -/
def Aggregate.rollup (a : Aggregate) (days : Option Int) (name : String) : Aggregate :=
  ⟨a.function.rollup, windowed days (.column name)⟩

def inWindow (today : Int) (days : Option Int) (date : Int) : Bool := days.all (today - · ≤ date)

section

variable {V : Type}

/-- Missing values are skipped, and of nothing else there is no value. -/
def merged (op : V → V → V) (cells : List (Cell V)) : Option V :=
  (cells.map Cell.value?).foldr (Option.merge op) none

theorem merged_append (op : V → V → V) [Std.Associative op] (first second : List (Cell V)) :
    merged op (first ++ second) = Option.merge op (merged op first) (merged op second) := by
  induction first with
  | nil => simp [merged]
  | cons cell rest ih =>
    simp only [merged, List.cons_append, List.map_cons, List.foldr_cons] at ih ⊢
    rw [ih]
    exact (Std.Associative.assoc ..).symm

/-- What was merged group by group is merged. -/
theorem merged_flatMap (op : V → V → V) [Std.Associative op] (keys : List κ) (group : κ → List (Cell V)) :
    merged op (keys.map fun k => .value (merged op (group k))) = merged op (keys.flatMap group) := by
  induction keys with
  | nil => rfl
  | cons k rest ih =>
    rw [List.flatMap_cons, merged_append, ← ih]
    rfl

theorem merged_perm (op : V → V → V) [Std.Associative op] [Std.Commutative op] {first second : List (Cell V)}
    (same : first.Perm second) : merged op first = merged op second :=
  (same.map Cell.value?).foldr_eq none

/-- The rows of a date in a window are all of the date's or none. -/
theorem filter_window (today : Int) (n : Option Int) (rows : List (Row V)) (date : Int) :
    (rows.filter (inWindow today n ·.date)).filter (·.date = date) =
      if inWindow today n date then rows.filter (·.date = date) else [] := by
  rw [List.filter_filter]
  split
  case isTrue within =>
    refine List.filter_congr fun row _ => ?_
    by_cases same : row.date = date <;> simp [same, within]
  case isFalse beyond =>
    refine List.filter_eq_nil_iff.mpr fun row _ => ?_
    by_cases same : row.date = date <;> simp [same, beyond]

theorem exists_array_mem_map {rows : List (Row V)} {f : Row V → Cell V} {v : V} :
    (∃ items, Cell.array items ∈ rows.map f ∧ v ∈ items) ↔ ∃ row ∈ rows, ∃ items, f row = .array items ∧ v ∈ items := by
  simp only [List.mem_map]
  exact ⟨fun ⟨items, ⟨row, member, held⟩, has⟩ => ⟨row, member, items, held, has⟩,
    fun ⟨row, member, items, held, has⟩ => ⟨items, ⟨row, member, held⟩, has⟩⟩

variable [NatCast V]

/-- A case takes its other term where the clause is false or unknown. -/
def Term.eval (float : V → V) (today : Int) (row : Row V) : Term → Cell V
  | number n => .value (some n)
  | null => .value none
  | column name => row.column name
  | asFloat t => .value ((t.eval float today row).value?.map float)
  | filtered clause t other =>
    if row.truth clause = some true then t.eval float today row else other.eval float today row
  | since days t => if today - days ≤ row.date then t.eval float today row else .value none

theorem eval_windowed (float : V → V) (today : Int) (n : Option Int) (t : Term) (row : Row V) :
    (windowed n t).eval float today row =
      if inWindow today n row.date then t.eval float today row else .value none := by
  cases n <;> simp [windowed, inWindow, Term.eval]

variable [LinearOrder V] [AddCommSemigroup V]

def Function.fold (cells : List (Cell V)) : Function → Cell V
  | sum => .value (merged (· + ·) cells)
  | min => .value (merged Min.min cells)
  | max => .value (merged Max.max cells)
  | arrayAgg => .array {v | .value (some v) ∈ cells}
  | arrayUnionAgg => .array {v | ∃ items, .array items ∈ cells ∧ v ∈ items}

def Aggregate.eval (float : V → V) (today : Int) (a : Aggregate) (rows : List (Row V)) : Cell V :=
  a.function.fold (rows.map fun row => a.term.eval float today row)

/-- Rows grouped by their dates: one row for each date, in which a column holds an aggregate of the rows of the
date. -/
structure Grouped (float : V → V) (today : Int) (a : Aggregate) (name : String) (rows days : List (Row V)) : Prop where
  once : (days.map (·.date)).Nodup
  dates : ∀ date, date ∈ days.map (·.date) ↔ date ∈ rows.map (·.date)
  value : ∀ day ∈ days, day.column name = a.eval float today (rows.filter (·.date = day.date))

/-- Rows can always be grouped. -/
theorem exists_grouped (float : V → V) (today : Int) (a : Aggregate) (name : String) (rows : List (Row V)) :
    ∃ days, Grouped float today a name rows days := by
  let day (date : Int) : Row V := ⟨date, fun _ => a.eval float today (rows.filter (·.date = date)), fun _ => none⟩
  have dated (dates : List Int) : (dates.map day).map (·.date) = dates := by
    simp [day, Function.comp_def]
  refine ⟨(rows.map (·.date)).dedup.map day, ?_, fun date => ?_, fun row member => ?_⟩
  · rw [dated]
    exact List.nodup_dedup _
  · rw [dated, List.mem_dedup]
  · obtain ⟨date, -, rfl⟩ := List.mem_map.mp member
    rfl

variable {float : V → V} {today : Int} {a : Aggregate} {name : String} {rows days : List (Row V)}

namespace Grouped

/-- The days of a window, each with its rows, hold the rows of the window. -/
theorem window_perm (grouped : Grouped float today a name rows days) (n : Option Int) :
    (days.flatMap fun day => (rows.filter (inWindow today n ·.date)).filter (·.date = day.date)).Perm
      (rows.filter (inWindow today n ·.date)) := by
  have sorted := flatMap_filter_perm Row.date grouped.once (rows.filter (inWindow today n ·.date))
    fun row member => (grouped.dates _).mpr (List.mem_map_of_mem (List.mem_of_mem_filter member))
  rwa [List.flatMap_map] at sorted

/-- A value that is merged of the rows of each date is, rolled up, merged of all rows in the window. -/
theorem merged_window (op : V → V → V) [Std.Associative op] [Std.Commutative op]
    (grouped : Grouped float today a name rows days)
    (merges : ∀ rows, a.eval float today rows = .value (merged op (rows.map (a.term.eval float today))))
    (n : Option Int) : merged op (days.map ((windowed n (.column name)).eval float today)) =
      merged op ((rows.filter (inWindow today n ·.date)).map (a.term.eval float today)) := by
  let recent := rows.filter (inWindow today n ·.date)
  have cell : ∀ day ∈ days, (windowed n (.column name)).eval float today day =
      .value (merged op ((recent.filter (·.date = day.date)).map (a.term.eval float today))) := by
    intro day member
    rw [eval_windowed, Term.eval, grouped.value day member, merges, filter_window]
    split <;> rfl
  calc merged op (days.map ((windowed n (.column name)).eval float today))
    _ = merged op (days.flatMap fun day => (recent.filter (·.date = day.date)).map (a.term.eval float today)) := by
      rw [List.map_congr_left cell, merged_flatMap]
    _ = merged op ((days.flatMap fun day => recent.filter (·.date = day.date)).map (a.term.eval float today)) := by
      rw [List.map_flatMap]
    _ = merged op (recent.map (a.term.eval float today)) :=
      merged_perm op ((grouped.window_perm n).map _)

/-- The items of the arrays of each date are the items of all rows in the window. -/
theorem items_window (item : V → Cell V → Prop) (grouped : Grouped float today a name rows days)
    (collects : ∀ rows, a.eval float today rows = .array {v | ∃ row ∈ rows, item v (a.term.eval float today row)})
    (n : Option Int) :
    {v | ∃ items, Cell.array items ∈ days.map ((windowed n (.column name)).eval float today) ∧ v ∈ items} =
      {v | ∃ row ∈ rows.filter (inWindow today n ·.date), item v (a.term.eval float today row)} := by
  let recent := rows.filter (inWindow today n ·.date)
  ext v
  have cell : ∀ day ∈ days, (∃ items, (windowed n (.column name)).eval float today day = .array items ∧ v ∈ items) ↔
      ∃ row ∈ recent.filter (·.date = day.date), item v (a.term.eval float today row) := by
    intro day member
    rw [eval_windowed, Term.eval, grouped.value day member, collects, filter_window]
    split <;> simp
  calc (∃ items, Cell.array items ∈ days.map ((windowed n (.column name)).eval float today) ∧ v ∈ items)
    _ ↔ ∃ day ∈ days, ∃ items, (windowed n (.column name)).eval float today day = .array items ∧ v ∈ items :=
      exists_array_mem_map
    _ ↔ ∃ day ∈ days, ∃ row ∈ recent.filter (·.date = day.date), item v (a.term.eval float today row) :=
      exists_congr fun day => and_congr_right (cell day)
    _ ↔ ∃ row ∈ recent, item v (a.term.eval float today row) := by
      simp only [← (grouped.window_perm n).mem_iff, List.mem_flatMap, recent]
      exact ⟨fun ⟨day, listed, row, member, has⟩ => ⟨row, ⟨day, listed, member⟩, has⟩,
        fun ⟨row, ⟨day, listed, member⟩, has⟩ => ⟨day, listed, row, member, has⟩⟩

end Grouped

/-- Rolled up over a window, what was folded date by date is what is folded of the window's rows. -/
theorem eval_rollup (grouped : Grouped float today a name rows days) (n : Option Int) :
    (a.rollup n name).eval float today days =
      a.eval float today (rows.filter (inWindow today n ·.date)) := by
  obtain ⟨f, t⟩ := a
  cases f
  case sum => exact congrArg Cell.value (grouped.merged_window (· + ·) (fun _ => rfl) n)
  case min => exact congrArg Cell.value (grouped.merged_window Min.min (fun _ => rfl) n)
  case max => exact congrArg Cell.value (grouped.merged_window Max.max (fun _ => rfl) n)
  case arrayAgg =>
    have collects (rows : List (Row V)) : (⟨.arrayAgg, t⟩ : Aggregate).eval float today rows =
        .array {v | ∃ row ∈ rows, t.eval float today row = .value (some v)} := by
      simp [Aggregate.eval, Function.fold]
    rw [collects]
    exact congrArg Cell.array (grouped.items_window (fun v cell => cell = .value (some v)) collects n)
  case arrayUnionAgg =>
    have collects (rows : List (Row V)) : (⟨.arrayUnionAgg, t⟩ : Aggregate).eval float today rows =
        .array {v | ∃ row ∈ rows, ∃ items, t.eval float today row = .array items ∧ v ∈ items} :=
      congrArg Cell.array (Set.ext fun v => exists_array_mem_map)
    rw [collects]
    exact congrArg Cell.array (grouped.items_window (fun v cell => ∃ items, cell = .array items ∧ v ∈ items) collects n)

end

theorem text_counted {fold : Fold} {property : Option String} {result : String}
    (counts : Sql.counted fold property = some result) : result = (Term.counted fold (property.getD "")).text := by
  cases fold <;> cases property <;> cases counts <;> rfl

theorem text_otherwise (fold : Fold) : Sql.otherwise fold = (Term.otherwise fold).text := by
  cases fold <;> rfl

theorem opening_daily {fold : Fold} {f : Function} (folds : Function.ofFold? fold = some f) :
    f.opening = (if Sql.dailyFunction fold = "count" then "SUM"
      else String.ofList (Text.upper (Sql.dailyFunction fold).toList)) ++ "(" ++
        if fold = .uniqueList then "DISTINCT " else "" := by
  cases fold <;> cases folds <;> decide

theorem append_named (front middle name : String) :
    front ++ middle ++ ") AS " ++ name = front ++ middle ++ ")" ++ " AS " ++ name := by
  have closed : ") AS " = ")" ++ " AS " := by decide
  rw [closed]
  simp only [String.append_assoc]

/-- The text of a daily column is that of its aggregate. -/
theorem text_daily {fold : Fold} {clause property : String} {daily : Aggregate} {c : DailyColumn}
    (folds : Aggregate.ofFold? fold clause property = some daily) (function : c.function = Sql.dailyFunction fold)
    (expression : c.expression = Sql.guarded fold clause (Term.counted fold property).text) :
    Renderer.dailyAggregate c = daily.text ++ " AS " ++ c.name := by
  obtain ⟨f, known, rfl⟩ := Option.map_eq_some_iff.mp folds
  have written : Renderer.dailyAggregate c = (if c.function = "count" then "SUM"
      else String.ofList (Text.upper c.function.toList)) ++ "(" ++ c.expression ++ ") AS " ++ c.name := rfl
  rw [written, append_named, expression, function, Sql.guarded, text_otherwise, Aggregate.text, opening_daily known,
    Term.text_filtered]
  simp only [String.append_assoc]

theorem opening_final {a : Attribute} {fold : Fold} {f : Function} (known : a.fold = .ok fold)
    (folds : Function.ofFold? fold = some f) :
    f.rollup.opening = "ARRAY_UNION_AGG(" ∧ a.bucket = .uniqueList ∨
    f.rollup.opening = String.ofList (Text.upper fold.rollup.name.toList) ++ "(" ∧
      (a.bucket = .lifetime ∨ a.bucket = .lastNDays) := by
  rw [Attribute.fold_eq_ok_iff] at known
  unfold Attribute.bucket
  cases kind : a.aggregation <;> rw [kind] at known <;> cases known <;> cases folds
  case uniqueList.refl.refl => exact .inl ⟨rfl, rfl⟩
  all_goals
    refine .inr ⟨by decide, ?_⟩
    cases a.period <;> simp

/-- The text of a final column is that of its daily column's aggregate, rolled up. -/
theorem text_final {a : Attribute} {fold : Fold} {clause property : String} {daily : Aggregate}
    (known : a.fold = .ok fold) (folds : Aggregate.ofFold? fold clause property = some daily) (c : FinalColumn)
    (function : c.function = if a.bucket = .uniqueList then "array_agg" else fold.rollup.name) :
    Renderer.finalColumn a.bucket c =
      (daily.rollup (c.days.map (·.toInt)) c.dailyName).text ++ " AS " ++ c.name := by
  obtain ⟨f, folded, rfl⟩ := Option.map_eq_some_iff.mp folds
  have value : Renderer.windowed c = (windowed (c.days.map (·.toInt)) (.column c.dailyName)).text := by
    unfold Renderer.windowed windowed
    cases c.days with
    | none => rfl
    | some n => exact (Term.text_since ..).symm ▸ rfl
  rw [Aggregate.rollup, Aggregate.text, ← value]
  rcases opening_final known folded with ⟨opening, bucket⟩ | ⟨opening, bucket | bucket⟩
  all_goals rw [bucket] at function ⊢
  case inl => exact congrArg (· ++ Renderer.windowed c ++ ")" ++ " AS " ++ c.name) opening.symm
  all_goals
    have named : c.function = fold.rollup.name := function
    rw [← named] at opening
    exact congrArg (· ++ Renderer.windowed c ++ ")" ++ " AS " ++ c.name) opening.symm

theorem exists_function {a : Attribute} {fold : Fold} (known : a.fold = .ok fold)
    (folds : a.aggregation ∈ [.counter, .sum, .min, .max, .uniqueList]) : ∃ f, Function.ofFold? fold = some f := by
  rw [Attribute.fold_eq_ok_iff] at known
  cases kind : a.aggregation <;> rw [kind] at known folds <;> cases known <;> first | exact ⟨_, rfl⟩ | simp at folds

theorem listOf_of_function {fold : Fold} {f : Function} (folds : Function.ofFold? fold = some f) (m : DailyModel) :
    ¬fold.isPositional ∧ m.listOf fold = m.aggregates := by
  cases fold <;> cases folds <;> exact ⟨nofun, rfl⟩

/-- The days of an attribute's window. -/
def days (a : Attribute) : Option Int := a.period.map fun p => (p.numDays : Int)

end Rollup

open Rollup in
/-- Of an attribute that folds all rows of a day, the daily column as it is rendered and the final column as it is
rendered come to what the daily column's aggregate is of all rows in the attribute's window. -/
theorem Models.rollup_eq_direct {attributes : List Attribute} {entityKey : String} {b : Blueprint} {m : Models}
    (compiled : Blueprint.ofAttributes attributes entityKey = .ok b) (built : ofBlueprint b = .ok m) {a : Attribute}
    (member : a ∈ attributes) (folds : a.aggregation ∈ [.counter, .sum, .min, .max, .uniqueList]) :
    ∃ fold clause property daily, ∃ column ∈ m.daily.aggregates, ∃ final ∈ m.buckets.get a.bucket,
      a.fold = .ok fold ∧ Aggregate.ofFold? fold clause property = some daily ∧
      final.name = a.name ∧ final.dailyName = column.name ∧
      Renderer.dailyAggregate column = daily.text ++ " AS " ++ column.name ∧
      Renderer.finalColumn a.bucket final = (daily.rollup (days a) column.name).text ++ " AS " ++ a.name ∧
      ∀ (V : Type) [LinearOrder V] [AddCommSemigroup V] [NatCast V] (float : V → V) (today : Int)
        (rows perDay : List (Row V)), Grouped float today daily column.name rows perDay →
        (daily.rollup (days a) column.name).eval float today perDay =
          daily.eval float today (rows.filter (inWindow today (days a) ·.date)) := by
  obtain ⟨-, daily, buckets⟩ := ofBlueprint_eq_ok_iff.mp built
  obtain ⟨plans, planned, rfl⟩ := Blueprint.ofAttributes_eq_ok_iff.mp compiled
  obtain ⟨p, listed, plan⟩ := (exists_of_mapM_eq_ok (mapM_eq_ok_iff.mpr planned)).1 a member
  obtain ⟨fold, column, brings, held⟩ := DailyModel.exists_brings planned daily member
  obtain ⟨fold', name, known', named', computed⟩ := Attribute.finalColumn_eq_of_planIn plan
  obtain ⟨rfl, rfl⟩ := brings.hasDaily.unique ⟨known', named'⟩
  obtain ⟨f, function⟩ := exists_function known' folds
  obtain ⟨folding, list⟩ := listOf_of_function function m.daily
  obtain ⟨clause, written, -, expression⟩ := brings.folded folding
  rw [Sql.rowExpression_filtered (Attribute.filterIn_nonempty written)] at expression
  split at expression
  case h_2 => cases expression
  case h_1 result counts =>
    let property := (a.propertyIn (Ledger.enterAll {} attributes).bindings).getD ""
    have made : Aggregate.ofFold? fold clause property =
        some ⟨f, .filtered clause (.counted fold property) (.otherwise fold)⟩ := by
      rw [Aggregate.ofFold?, function, Option.map_some]
    have windowed : (a.period.map fun p => Int64.ofNat p.numDays).map (·.toInt) = days a := by
      rw [Option.map_map]
      exact congrArg (a.period.map ·) (funext Period.toInt_numDays)
    refine ⟨fold, clause, property, _, column, list ▸ held, _, (Buckets.mem_get buckets).mpr ⟨p, listed, computed⟩,
      known', made, rfl, rfl, ?daily, ?final, fun V _ _ _ float today rows perDay grouped => ?rolled⟩
    case daily =>
      refine text_daily made brings.function ?_
      rw [← Except.ok.inj expression, text_counted counts]
    case final =>
      rw [text_final known' made _ rfl, windowed]
    case rolled => exact eval_rollup grouped _

/-- What was paid in a week. -/
def revenueOfWeek : Attribute :=
  { Attribute.ofEvents "revenue_of_week" .sum [⟨"com.acme", "order", "1-0-0"⟩] with
    property := some "order.total", period := some (.weeks 1) }

/-- An order of a day and what was paid, if that is known. -/
def Rollup.order (day : Int) (total : Option Int) : Row Int := ⟨day, fun _ => .value total, fun _ => some true⟩

open Rollup in
theorem Models.rollup_of_orders : ∃ b m, Blueprint.ofAttributes [revenueOfWeek] "user_id" = .ok b ∧
    ofBlueprint b = .ok m ∧ ∃ daily, ∃ column ∈ m.daily.aggregates,
      Renderer.dailyAggregate column = daily.text ++ " AS " ++ column.name ∧
      ∃ perDay, Grouped id 40 daily column.name [order 30 (some 5), order 36 (some 10), order 40 none,
        order 40 (some 20)] perDay ∧
      (daily.rollup (some 7) column.name).eval id 40 perDay = .value (some 30) := by
  have run : ((Blueprint.ofAttributes [revenueOfWeek] "user_id" >>= ofBlueprint).map
      (·.buckets.size)).toOption = some 1 := by decide +kernel
  obtain ⟨b, m, compiled, built, -⟩ := exists_of_run run
  obtain ⟨fold, clause, property, daily, column, held, _, _, known, made, _, _, text, _, rolled⟩ :=
    rollup_eq_direct compiled built (List.mem_singleton_self _) (by decide)
  cases known
  cases made
  obtain ⟨perDay, grouped⟩ := exists_grouped id 40 _ column.name [order 30 (some 5), order 36 (some 10), order 40 none,
    order 40 (some 20)]
  exact ⟨b, m, compiled, built, _, column, held, text, perDay, grouped, rolled Int id 40 _ _ grouped⟩

end AttributeStore
