import AttributeStore.Plan.Ledger
import AttributeStore.CompileError
import AttributeStore.View

/-! From attributes to plans. The ledger outlives a failure, so that it can be said what a failing attribute leaves
in it. -/
namespace AttributeStore

/-- Work on the ledger that may fail; what was done before a failure stays. -/
abbrev Compiling := ExceptT CompileError (StateM Ledger)

namespace Compiling

def onLedger (f : Ledger → Ledger × α) : Compiling α := do
  let l ← get
  let (l, a) := f l
  set l
  return a

end Compiling

/-- The column of filtered events that holds an event's name. -/
def eventNameColumn : String := "event_name"

/-- The name under which a final step carries its window in days. -/
def periodProperty : String := "period"

namespace Attribute

def fold (a : Attribute) : Except CompileError Fold :=
  match Fold.ofAggregation? a.aggregation with
  | some fold => .ok fold
  | none => .error (.unsupportedAggregation a.name a.aggregation)

def validate (a : Attribute) : Except CompileError Unit :=
  match a.events.findIdx? (·.name.isEmpty) with
  | some index => .error (.missingEventName a.name index)
  | none =>
    if a.aggregation.requiresProperty && a.propertyPath.isNone then
      .error (.missingProperty a.name a.aggregation.name)
    else if a.criteria.any (!·.isValid) then .error (.invalidCriteria a.name)
    else .ok ()

/-- A first or last value is named for its property, all else for everything it is computed from. -/
def dailyColumn (a : Attribute) (fold : Fold) (property : Option String) : Except CompileError String :=
  if fold.isPositional then
    match property with
    | some column => .ok s!"{fold.name}_{column}"
    | none => .error (.missingProperty a.name fold.name)
  else .ok (Column.daily a fold.name property)

/-- A condition on the column of its path. -/
def bind (c : Criterion) : Compiling Criterion := do
  let column ← Compiling.onLedger (Ledger.register c.property)
  return { c with property := column }

def eventCondition (a : Attribute) : Criterion :=
  ⟨eventNameColumn, .isIn, .list (a.events.map fun e => .str e.name)⟩

/-- The attribute's events and, in the group it was declared in, its filter. -/
def dailyCriteria (a : Attribute) : Compiling Criteria := do
  match a.activeCriteria with
  | none => return ⟨[a.eventCondition], []⟩
  | some declared =>
    let bound ← declared.active.mapM bind
    return if declared.usesAny then ⟨[a.eventCondition], bound⟩ else ⟨a.eventCondition :: bound, []⟩

/-- The window of a final step. -/
def window (a : Attribute) : Option Criteria :=
  a.period.map fun p => ⟨[⟨periodProperty, .gt, .int (Int64.ofNat p.numDays)⟩], []⟩

def compile (a : Attribute) : Compiling Plan := do
  let fold ← a.fold
  a.validate
  for e in a.events do
    let _ ← Compiling.onLedger (Ledger.addEvent e)
  if let some p := a.period then modify (Ledger.addPeriod p)
  let property ← match a.propertyPath with
    | some path => do
      let column ← Compiling.onLedger (Ledger.register path)
      pure (some column)
    | none => pure none
  let daily ← a.dailyColumn fold property
  let criteria ← a.dailyCriteria
  return {
    filtered := ⟨.filteredEvents, false, none, property, none⟩
    daily := ⟨.dailyAggregation, true, some fold, some daily, some criteria⟩
    final := ⟨.attributeAggregation, true, some fold.rollup, some a.name, a.window⟩ }

end Attribute

/-- Compiles attributes in their order; the first that fails ends the work. -/
def Blueprint.ofAttributes (attributes : List Attribute) (entityKey : String) : Except CompileError Blueprint :=
  match (attributes.mapM Attribute.compile).run.run {} with
  | (.ok plans, l) => .ok ⟨l.events, l.resolved, l.periods, plans, entityKey⟩
  | (.error e, _) => .error e

def Blueprint.ofView (v : View) : Except CompileError Blueprint :=
  ofAttributes v.attributes v.entity.keyColumn

end AttributeStore
