import AttributeStore.Models.Basic
import AttributeStore.Plan.Compile

/-! From a blueprint to its models. -/
namespace AttributeStore

/-- Keeps the first of equal items. -/
def distinct [DecidableEq α] (items : List α) : List α :=
  (items.foldl (fun seen item => if item ∈ seen then seen else item :: seen) []).reverse

namespace Step

def foldOf (subject : String) (s : Step) : Except CompileError Fold :=
  match s.fold with
  | some fold => .ok fold
  | none => .error (.malformedPlan (.noFold subject s.stage))

def columnOf (subject : String) (s : Step) : Except CompileError String :=
  match s.column with
  | some column => .ok column
  | none => .error (.malformedPlan (.noColumn subject s.stage))

/-- The first condition on a property, the `all` group before the `any` group. -/
def find? (property : String) (c : Criteria) : Option Criterion :=
  (c.all.find? (·.property == property)).or (c.any.find? (·.property == property))

/-- The window of a final step in days: a whole number, the whole part of any other number, or a text that writes a
whole number. -/
def windowDays (subject : String) (s : Step) : Except CompileError (Option Int64) :=
  match s.criteria.bind (find? periodProperty) with
  | none => .ok none
  | some c =>
    match c.value with
    | .int n => .ok (some n)
    | .float x => .ok (some (Int64.ofInt (Decimal.truncate Int64.minValue.toInt Int64.maxValue.toInt x)))
    | .str s =>
      match Text.wholeNumber? (Text.trimBlank s.toList) with
      | some n =>
        if Int64.minValue.toInt ≤ n ∧ n ≤ Int64.maxValue.toInt then .ok (some (Int64.ofInt n))
        else .error (.invalidPeriodValue subject c.value)
      | none => .error (.invalidPeriodValue subject c.value)
    | value => .error (.invalidPeriodValue subject value)

end Step

namespace Plan

/-- The final column of a plan and its bucket. -/
def finalColumn (p : Plan) : Except CompileError (FinalColumn × Bucket) := do
  let subject := p.attributeName
  let fold ← p.final.foldOf subject
  let days ← p.final.windowDays subject
  let bucket := Bucket.route fold days
  let dailyName ← p.daily.columnOf subject
  let name ← p.final.columnOf subject
  return (⟨dailyName, name, days, if bucket = .uniqueList then "array_agg" else fold.name⟩, bucket)

/-- A first or last value is a bare column, the one its own column is named for. -/
def positionalColumn (fold : Fold) (name : String) : DailyColumn :=
  let mark := fold.name ++ "_"
  ⟨name, fold.name,
    if name.startsWith mark then String.ofList (name.toList.drop mark.length) else name⟩

/-- The daily column of a plan that folds all rows of a day. -/
def foldedColumn (p : Plan) (fold : Fold) (name : String) : Except CompileError DailyColumn := do
  let subject := p.attributeName
  let condition ← match p.daily.criteria with
    | some criteria => Sql.clause subject criteria
    | none => pure ""
  Sql.validate subject condition
  let expression ← Sql.rowExpression subject fold condition p.filtered.column
  return ⟨name, Sql.dailyFunction fold, expression⟩

/-- Adds the daily column of a plan to the list it belongs to. -/
def addDaily (m : DailyModel) (p : Plan) : Except CompileError DailyModel := do
  let fold ← p.daily.foldOf p.attributeName
  let name ← p.daily.columnOf p.attributeName
  match fold with
  | .first => return { m with firstValues := m.firstValues ++ [positionalColumn fold name] }
  | .last => return { m with lastValues := m.lastValues ++ [positionalColumn fold name] }
  | fold =>
    let column ← p.foldedColumn fold name
    return { m with aggregates := m.aggregates ++ [column] }

end Plan

def Buckets.ofPlans (plans : List Plan) : Except CompileError Buckets := do
  let buckets ← plans.foldlM (fun (b : Buckets) p => do
    let (column, bucket) ← p.finalColumn
    return b.push column bucket) {}
  return buckets.map distinct

def DailyModel.ofPlans (plans : List Plan) : Except CompileError DailyModel := do
  let m ← plans.foldlM Plan.addDaily {}
  return ⟨distinct m.aggregates, distinct m.firstValues, distinct m.lastValues⟩

def EventSchema.parse (reference : String) : Except CompileError EventSchema :=
  let scheme := "iglu:".toList
  let s := reference.toList
  if !scheme.isPrefixOf s then .error (.invalidEventReference reference .scheme)
  else match (Text.splitAt '/' (s.drop scheme.length)).map String.ofList with
    | [vendor, name, format, version] =>
      if [vendor, name, format, version].any (·.isEmpty) then .error (.invalidEventReference reference .emptyPart)
      else .ok ⟨vendor, name, format, version⟩
    | _ => .error (.invalidEventReference reference .parts)

def EventsModel.ofBlueprint (b : Blueprint) : Except CompileError EventsModel := do
  let events ← b.events.mapM EventSchema.parse
  return ⟨events, b.properties⟩

/-- Events first, then days, then buckets: of several faults the first of this order is reported. -/
def Models.ofBlueprint (b : Blueprint) : Except CompileError Models := do
  let events ← EventsModel.ofBlueprint b
  let daily ← DailyModel.ofPlans b.plans
  let buckets ← Buckets.ofPlans b.plans
  return ⟨events, daily, buckets⟩

end AttributeStore
