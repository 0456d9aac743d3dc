import AttributeStore.Models.Basic

/-! The JSON shapes of models. The buckets stand beside the other two parts, not inside a part of their own. -/
namespace AttributeStore

open Json

def FinalColumn.codec : Codec FinalColumn :=
  .record "AttributeEntry"
    (.cons (required "daily_agg_column_name" .string) <| .cons (required "column_name" .string) <|
      .cons (skipped "period" .i64) <| .cons (required "aggregation_type" .string) .nil)
    (fun (dailyName, name, days, function, ()) => ⟨dailyName, name, days, function⟩)
    (fun c => (c.dailyName, c.name, c.days, c.function, ()))

def DailyColumn.codec : Codec DailyColumn :=
  .record "DailyAggregateEntry"
    (.cons (required "column_name" .string) <| .cons (required "aggregation_type" .string) <|
      .cons (required "condition_clause" .string) .nil)
    (fun (name, function, expression, ()) => ⟨name, function, expression⟩)
    (fun c => (c.name, c.function, c.expression, ()))

def DailyModel.codec : Codec DailyModel :=
  .record "DailyAggContext"
    (.cons (required "daily_aggregate_attributes" (.list DailyColumn.codec)) <|
      .cons (required "daily_first_value_attributes" (.list DailyColumn.codec)) <|
      .cons (required "daily_last_value_attributes" (.list DailyColumn.codec)) .nil)
    (fun (aggregates, firstValues, lastValues, ()) => ⟨aggregates, firstValues, lastValues⟩)
    (fun m => (m.aggregates, m.firstValues, m.lastValues, ()))

def EventSchema.codec : Codec EventSchema :=
  .record "EventSchema"
    (.cons (required "vendor" .string) <| .cons (required "name" .string) <| .cons (required "format" .string) <|
      .cons (required "version" .string) .nil)
    (fun (vendor, name, format, version, ()) => ⟨vendor, name, format, version⟩)
    (fun e => (e.vendor, e.name, e.format, e.version, ()))

def EventsModel.codec : Codec EventsModel :=
  .record "FilteredEventsContext"
    (.cons (required "events" (.list EventSchema.codec)) <|
      .cons (required "properties" (.list Column.Binding.codec)) .nil)
    (fun (events, properties, ()) => ⟨events, properties⟩)
    (fun m => (m.events, m.properties, ()))

def Buckets.fields :=
  Fields.cons (required "lifetime_aggregates" (.list FinalColumn.codec)) <|
    .cons (required "last_n_day_aggregates" (.list FinalColumn.codec)) <|
    .cons (required "first_value_attributes" (.list FinalColumn.codec)) <|
    .cons (required "last_value_attributes" (.list FinalColumn.codec)) <|
    .cons (required "unique_list_attributes" (.list FinalColumn.codec)) .nil

def Buckets.codec : Codec Buckets :=
  .record "AttributeBuckets" Buckets.fields
    (fun (lifetime, lastNDays, firstValue, lastValue, uniqueList, ()) =>
      ⟨lifetime, lastNDays, firstValue, lastValue, uniqueList⟩)
    (fun b => (b.lifetime, b.lastNDays, b.firstValue, b.lastValue, b.uniqueList, ()))

def Models.ownFields :=
  Fields.cons (required "filtered_events" EventsModel.codec) <|
    .cons (required "daily_agg" DailyModel.codec) .nil

/-- Fields that are not a record's own are set aside, whole, for the part that is spread out in it. -/
def setAside (source : Source) (own : Fields τ) (slots : Fields.Slots own) :
    List (String × Reading) → Except Fault (Fields.Slots own × List (String × Reading))
  | [] => .ok (slots, [])
  | (key, r) :: rest =>
    match own.put source key r slots with
    | some done => do
      let slots ← done
      setAside source own slots rest
    | none => do
      let _ ← readable r
      let (slots, others) ← setAside source own slots rest
      return (slots, (key, r) :: others)

def Models.codec : Codec Models where
  encode m :=
    .obj (ownFields.toFields (m.events, m.daily, ()) ++
      match Buckets.codec.encode m.buckets with
      | .obj fields => fields
      | _ => [])
  decode source
    | .obj fields => do
      let (slots, others) ← setAside source ownFields ownFields.empty fields
      let (events, daily, ()) ← ownFields.complete slots
      let buckets ← Buckets.codec.decode .aside (.obj others)
      return ⟨events, daily, buckets⟩
    | r => mismatch "struct DbtConfig" r

end AttributeStore
