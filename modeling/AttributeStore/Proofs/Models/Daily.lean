import AttributeStore.Models.Build
import AttributeStore.Proofs.Outcome
import Mathlib.Data.List.Induction

/-! The daily model as a function of its plans: one entry for each plan, sorted into three lists of which each keeps
the first of equal entries. -/
namespace AttributeStore

theorem distinct_append_singleton [DecidableEq α] (items : List α) (item : α) :
    distinct (items ++ [item]) = if item ∈ distinct items then distinct items else distinct items ++ [item] := by
  simp only [distinct, List.foldl_append, List.foldl_cons, List.foldl_nil, List.mem_reverse]
  split <;> simp

theorem distinct_nodup [DecidableEq α] (items : List α) : (distinct items).Nodup := by
  induction items using List.reverseRecOn with
  | nil => exact List.nodup_nil
  | append_singleton items item ih =>
    rw [distinct_append_singleton]
    split
    · exact ih
    · simpa [List.nodup_append, ih] using fun other member same => ‹item ∉ _› (same ▸ member)

theorem distinct_eq_eraseDups [DecidableEq α] (items : List α) : distinct items = items.eraseDups := by
  induction items using List.reverseRecOn with
  | nil => rfl
  | append_singleton items item ih =>
    rw [distinct_append_singleton, ih, List.eraseDups_append]
    by_cases again : item ∈ items
    · simp [again, List.removeAll, List.mem_eraseDups]
    · simp [again, List.removeAll, List.mem_eraseDups, List.eraseDups_cons]

@[simp] theorem mem_distinct [DecidableEq α] {items : List α} {item : α} : item ∈ distinct items ↔ item ∈ items := by
  rw [distinct_eq_eraseDups, List.mem_eraseDups]

namespace Plan

/-- The daily column of a plan, together with its fold. -/
def dailyEntry (p : Plan) : Except CompileError (Fold × DailyColumn) := do
  let fold ← p.daily.foldOf p.attributeName
  let name ← p.daily.columnOf p.attributeName
  if fold.isPositional then return (fold, positionalColumn fold name)
  else
    let column ← p.foldedColumn fold name
    return (fold, column)

/-- The filter of the daily step as SQL. -/
def filter (p : Plan) : Except CompileError String :=
  match p.daily.criteria with
  | some criteria => Sql.clause p.attributeName criteria
  | none => .ok ""

theorem foldedColumn_eq (p : Plan) (fold : Fold) (name : String) : p.foldedColumn fold name = (do
    let clause ← p.filter
    Sql.validate p.attributeName clause
    let expression ← Sql.rowExpression p.attributeName fold clause p.filtered.column
    return ⟨name, Sql.dailyFunction fold, expression⟩) := by
  unfold foldedColumn filter
  cases p.daily.criteria <;> rfl

theorem foldedColumn_eq_ok_iff {p : Plan} {fold : Fold} {name : String} {column : DailyColumn} :
    p.foldedColumn fold name = .ok column ↔ ∃ clause expression, p.filter = .ok clause ∧
      Sql.validate p.attributeName clause = .ok () ∧
      Sql.rowExpression p.attributeName fold clause p.filtered.column = .ok expression ∧
      ⟨name, Sql.dailyFunction fold, expression⟩ = column := by
  simp only [foldedColumn_eq, bind_eq_ok_iff, pure, Except.pure, Except.ok.injEq]
  constructor
  · rintro ⟨clause, written, _, valid, expression, folded, same⟩
    exact ⟨clause, expression, written, valid, folded, same⟩
  · rintro ⟨clause, expression, written, valid, folded, same⟩
    exact ⟨clause, written, (), valid, expression, folded, same⟩

theorem dailyEntry_eq {p : Plan} {fold : Fold} {name : String} (folds : p.daily.fold = some fold)
    (named : p.daily.column = some name) : p.dailyEntry =
      if fold.isPositional then .ok (fold, positionalColumn fold name)
      else (p.foldedColumn fold name).map (fold, ·) := by
  have known : p.daily.foldOf p.attributeName = .ok fold := by rw [Step.foldOf, folds]
  have nameKnown : p.daily.columnOf p.attributeName = .ok name := by rw [Step.columnOf, named]
  simp only [dailyEntry, known, nameKnown, bind, Except.bind]
  cases p.foldedColumn fold name <;> rfl

/-- Where a plan has a daily column, it is a bare column or it folds an expression. -/
theorem dailyEntry_eq_ok_iff {p : Plan} {fold : Fold} {column : DailyColumn} :
    p.dailyEntry = .ok (fold, column) ↔ ∃ name, p.daily.fold = some fold ∧ p.daily.column = some name ∧
      if fold.isPositional then positionalColumn fold name = column else p.foldedColumn fold name = .ok column := by
  have known (fold' : Fold) : p.daily.foldOf p.attributeName = .ok fold' ↔ p.daily.fold = some fold' := by
    unfold Step.foldOf
    split <;> simp_all
  have named (name : String) : p.daily.columnOf p.attributeName = .ok name ↔ p.daily.column = some name := by
    unfold Step.columnOf
    split <;> simp_all
  simp only [dailyEntry, bind_eq_ok_iff, known, named]
  constructor
  · rintro ⟨fold', known, name, named, entry⟩
    split at entry
    case isTrue positional =>
      cases entry
      exact ⟨name, known, named, by rw [if_pos positional]⟩
    case isFalse folds =>
      obtain ⟨folded, read, entry⟩ := bind_eq_ok_iff.mp entry
      cases entry
      exact ⟨name, known, named, by rw [if_neg folds, read]⟩
  · rintro ⟨name, known, named, entry⟩
    refine ⟨fold, known, name, named, ?_⟩
    split at entry
    case isTrue positional =>
      rw [if_pos positional, entry]
      rfl
    case isFalse folds =>
      rw [if_neg folds, entry]
      rfl

theorem dailyFunction_injective : Function.Injective Sql.dailyFunction := by
  intro a b same
  cases a <;> cases b <;> first | rfl | simp [Sql.dailyFunction, Fold.name] at same

theorem dailyEntry_function {p : Plan} {fold : Fold} {column : DailyColumn}
    (entry : p.dailyEntry = .ok (fold, column)) : column.function = Sql.dailyFunction fold := by
  obtain ⟨name, -, -, entry⟩ := dailyEntry_eq_ok_iff.mp entry
  split at entry
  case isTrue positional =>
    subst entry
    cases fold <;> first | rfl | cases positional
  case isFalse =>
    obtain ⟨_, _, -, -, -, rfl⟩ := foldedColumn_eq_ok_iff.mp entry
    rfl

theorem dailyEntry_name {p : Plan} {fold : Fold} {column : DailyColumn}
    (entry : p.dailyEntry = .ok (fold, column)) : p.daily.column = some column.name := by
  obtain ⟨name, -, named, entry⟩ := dailyEntry_eq_ok_iff.mp entry
  rw [named]
  split at entry
  case isTrue => rw [← entry]; rfl
  case isFalse =>
    obtain ⟨_, _, -, -, -, rfl⟩ := foldedColumn_eq_ok_iff.mp entry
    rfl

end Plan

namespace DailyModel

def push (m : DailyModel) (entry : Fold × DailyColumn) : DailyModel :=
  match entry.1 with
  | .first => { m with firstValues := m.firstValues ++ [entry.2] }
  | .last => { m with lastValues := m.lastValues ++ [entry.2] }
  | _ => { m with aggregates := m.aggregates ++ [entry.2] }

/-- The entries whose fold satisfies `p`, in their order. -/
def select (p : Fold → Bool) (entries : List (Fold × DailyColumn)) : List DailyColumn :=
  (entries.filter fun entry => p entry.1).map (·.2)

theorem addDaily_eq (m : DailyModel) (p : Plan) : Plan.addDaily m p = p.dailyEntry.map m.push := by
  unfold Plan.addDaily Plan.dailyEntry
  cases p.daily.foldOf p.attributeName with
  | error e => rfl
  | ok fold =>
    cases p.daily.columnOf p.attributeName with
    | error e => rfl
    | ok name =>
      cases fold <;> try rfl
      all_goals
        simp only [Fold.isPositional, bind, Except.bind, Bool.false_eq_true, if_false]
        cases p.foldedColumn _ name <;> rfl

theorem foldlM_addDaily (plans : List Plan) (m : DailyModel) :
    plans.foldlM Plan.addDaily m = (plans.mapM Plan.dailyEntry).map (·.foldl push m) := by
  induction plans generalizing m with
  | nil => rfl
  | cons p rest ih =>
    rw [List.foldlM_cons, List.mapM_cons, addDaily_eq]
    cases p.dailyEntry with
    | error e => rfl
    | ok entry =>
      simp only [Except.map, bind, Except.bind, ih]
      cases rest.mapM Plan.dailyEntry <;> rfl

theorem foldl_push (entries : List (Fold × DailyColumn)) (m : DailyModel) : entries.foldl push m =
    ⟨m.aggregates ++ select (!·.isPositional) entries, m.firstValues ++ select (· = .first) entries,
      m.lastValues ++ select (· = .last) entries⟩ := by
  induction entries generalizing m with
  | nil => simp [select]
  | cons entry rest ih =>
    obtain ⟨fold, column⟩ := entry
    rw [List.foldl_cons, ih]
    cases fold <;> simp [push, select, Fold.isPositional]

/-- The daily model of some plans: the entries of all, in three lists without repetitions. -/
theorem ofPlans_eq (plans : List Plan) : ofPlans plans = (plans.mapM Plan.dailyEntry).map fun entries =>
    ⟨distinct (select (!·.isPositional) entries), distinct (select (· = .first) entries),
      distinct (select (· = .last) entries)⟩ := by
  unfold ofPlans
  rw [foldlM_addDaily]
  cases plans.mapM Plan.dailyEntry with
  | error e => rfl
  | ok entries =>
    simp only [Except.map, bind, Except.bind, foldl_push, List.nil_append]
    rfl

@[simp] theorem mem_select {p : Fold → Bool} {entries : List (Fold × DailyColumn)} {column : DailyColumn} :
    column ∈ select p entries ↔ ∃ fold, p fold ∧ (fold, column) ∈ entries := by
  simp [select, and_comm]

/-- The list that holds the daily column of a fold. -/
def listOf (m : DailyModel) : Fold → List DailyColumn
  | .first => m.firstValues
  | .last => m.lastValues
  | _ => m.aggregates

/-- Every plan has its daily column in the list of its fold. -/
theorem mem_listOf {plans : List Plan} {m : DailyModel} (built : ofPlans plans = .ok m) {p : Plan} {fold : Fold}
    {column : DailyColumn} (member : p ∈ plans) (entry : p.dailyEntry = .ok (fold, column)) :
    column ∈ m.listOf fold := by
  rw [ofPlans_eq, map_eq_ok_iff] at built
  obtain ⟨entries, read, rfl⟩ := built
  obtain ⟨found, listed, same⟩ := (exists_of_mapM_eq_ok read).1 p member
  obtain rfl : found = (fold, column) := Except.ok.inj (same.symm.trans entry)
  cases fold <;> simp only [listOf, mem_distinct, mem_select] <;> exact ⟨_, rfl, listed⟩

/-- All daily columns. -/
def columns (m : DailyModel) : List DailyColumn := m.aggregates ++ m.firstValues ++ m.lastValues

/-- The daily columns are those of the plans. -/
theorem mem_columns {plans : List Plan} {m : DailyModel} (built : ofPlans plans = .ok m) {column : DailyColumn} :
    column ∈ m.columns ↔ ∃ p ∈ plans, ∃ fold, p.dailyEntry = .ok (fold, column) := by
  constructor
  · intro member
    rw [ofPlans_eq, map_eq_ok_iff] at built
    obtain ⟨entries, read, rfl⟩ := built
    obtain ⟨fold, listed⟩ : ∃ fold, (fold, column) ∈ entries := by
      simp only [columns, List.mem_append, mem_distinct, mem_select] at member
      rcases member with (⟨fold, -, listed⟩ | ⟨fold, -, listed⟩) | ⟨fold, -, listed⟩ <;> exact ⟨fold, listed⟩
    obtain ⟨p, listed, entry⟩ := (exists_of_mapM_eq_ok read).2 _ listed
    exact ⟨p, listed, fold, entry⟩
  · rintro ⟨p, listed, fold, entry⟩
    have member := mem_listOf built listed entry
    cases fold <;> simp only [listOf] at member <;> simp [columns, member]

/-- No daily column is there twice. -/
theorem columns_nodup {plans : List Plan} {m : DailyModel} (built : ofPlans plans = .ok m) : m.columns.Nodup := by
  rw [ofPlans_eq, map_eq_ok_iff] at built
  obtain ⟨entries, read, rfl⟩ := built
  have function : ∀ fold column, (fold, column) ∈ entries → column.function = Sql.dailyFunction fold := by
    intro fold column listed
    obtain ⟨p, -, entry⟩ := (exists_of_mapM_eq_ok read).2 _ listed
    exact Plan.dailyEntry_function entry
  -- the three lists hold columns of different functions
  have apart : ∀ p q : Fold → Bool, (∀ fold, p fold → ¬q fold) →
      ∀ a ∈ select p entries, ∀ b ∈ select q entries, a ≠ b := by
    rintro p q excluded a first b second rfl
    obtain ⟨fold₁, has₁, listed₁⟩ := mem_select.mp first
    obtain ⟨fold₂, has₂, listed₂⟩ := mem_select.mp second
    have same := Plan.dailyFunction_injective ((function _ _ listed₁).symm.trans (function _ _ listed₂))
    exact excluded fold₁ has₁ (same ▸ has₂)
  simp only [columns, List.nodup_append, distinct_nodup, List.mem_append, mem_distinct, true_and]
  refine ⟨apart _ _ (by rintro ⟨⟩ <;> simp [Fold.isPositional]), fun a member b last => ?_⟩
  rcases member with folded | first
  · exact apart _ _ (by rintro ⟨⟩ <;> simp [Fold.isPositional]) a folded b last
  · exact apart _ _ (by rintro ⟨⟩ <;> simp) a first b last

end DailyModel

end AttributeStore
