import AttributeStore.Models.Shape
import AttributeStore.Proofs.Plan.Files

/-! Models as files. They are read from the text that they are written as; nothing in them lies deeper than four
levels. -/
namespace AttributeStore

open Json

/-! How deep the values of a codec go. -/

namespace Json

/-- No value of the codec has more than `n` levels. -/
def Codec.Within (c : Codec α) (n : Nat) : Prop := ∀ a, (c.encode a).levels ≤ n

/-- No field of the record has more than `n` levels. -/
def Fields.Within (fs : Fields τ) (n : Nat) : Prop := ∀ t, ∀ e ∈ fs.toFields t, e.2.levels ≤ n

theorem Codec.string_within : Codec.string.Within 0 := fun _ => Nat.le_refl 0

theorem Codec.Within.option {c : Codec α} (within : c.Within n) : (option c).Within n
  | none => Nat.zero_le n
  | some a => within a

theorem Codec.Within.list {c : Codec α} (within : c.Within n) : (list c).Within (n + 1) := fun _ =>
  Nat.succ_le_succ (levelsOfItems_le_iff.mpr (List.forall_mem_map.mpr fun a _ => within a))

theorem Fields.within_nil (n : Nat) : Fields.nil.Within n := fun _ => nofun

theorem Fields.Within.cons {f : Field α} {rest : Fields β} (first : f.codec.Within n) (others : rest.Within n) :
    (Fields.cons f rest).Within n := by
  intro (a, more)
  rw [toFields]
  split
  · exact others more
  · exact List.forall_mem_cons.mpr ⟨first a, others more⟩

theorem Fields.Within.record {fs : Fields τ} (within : fs.Within n) (type : String) (make : τ → α) (parts : α → τ) :
    (Codec.record type fs make parts).Within (n + 1) := fun a =>
  Nat.succ_le_succ (levelsOfFields_le_iff.mpr (within (parts a)))

end Json

theorem FinalColumn.codec_within : FinalColumn.codec.Within 1 :=
  Fields.Within.record (.cons Codec.string_within <| .cons Codec.string_within <|
    .cons (Codec.Within.option fun _ => Nat.le_refl 0) <| .cons Codec.string_within <| Fields.within_nil 0) _ _ _

theorem DailyColumn.codec_within : DailyColumn.codec.Within 1 :=
  Fields.Within.record (.cons Codec.string_within <| .cons Codec.string_within <| .cons Codec.string_within <|
    Fields.within_nil 0) _ _ _

theorem EventSchema.codec_within : EventSchema.codec.Within 1 :=
  Fields.Within.record (.cons Codec.string_within <| .cons Codec.string_within <| .cons Codec.string_within <|
    .cons Codec.string_within <| Fields.within_nil 0) _ _ _

theorem Column.Binding.codec_within : Column.Binding.codec.Within 1 := fun b => by simp [codec, levels, levelsOfFields]

theorem EventsModel.codec_within : EventsModel.codec.Within 3 :=
  Fields.Within.record (.cons EventSchema.codec_within.list <| .cons Column.Binding.codec_within.list <|
    Fields.within_nil 2) _ _ _

theorem DailyModel.codec_within : DailyModel.codec.Within 3 :=
  Fields.Within.record (.cons DailyColumn.codec_within.list <| .cons DailyColumn.codec_within.list <|
    .cons DailyColumn.codec_within.list <| Fields.within_nil 2) _ _ _

theorem Buckets.fields_within : Buckets.fields.Within 2 :=
  .cons FinalColumn.codec_within.list <| .cons FinalColumn.codec_within.list <| .cons FinalColumn.codec_within.list <|
    .cons FinalColumn.codec_within.list <| .cons FinalColumn.codec_within.list <| Fields.within_nil 2

theorem Models.ownFields_within : ownFields.Within 3 :=
  .cons EventsModel.codec_within <| .cons DailyModel.codec_within <| Fields.within_nil 3

/-! The parts of models, each read as it is written. -/

theorem FinalColumn.codec_exact : FinalColumn.codec.Exact fun _ => True := by
  have fields := Fields.Exact.cons (required_exact Codec.string_exact "daily_agg_column_name") (.cons
    (required_exact Codec.string_exact "column_name") (.cons
    (skipped_exact Codec.i64_exact (fun _ => nofun) "period") (.cons
    (required_exact Codec.string_exact "aggregation_type")
    .nil List.not_mem_nil) (by decide)) (by decide)) (by decide)
  exact (Codec.Exact.record fields "AttributeEntry" fun _ => rfl).of_imp fun c _ =>
    ⟨trivial, trivial, fun _ _ => trivial, trivial, trivial⟩

theorem DailyColumn.codec_exact : DailyColumn.codec.Exact fun _ => True := by
  have fields := Fields.Exact.cons (required_exact Codec.string_exact "column_name") (.cons
    (required_exact Codec.string_exact "aggregation_type") (.cons
    (required_exact Codec.string_exact "condition_clause") .nil List.not_mem_nil) (by decide)) (by decide)
  exact (Codec.Exact.record fields "DailyAggregateEntry" fun _ => rfl).of_imp fun c _ =>
    ⟨trivial, trivial, trivial, trivial⟩

theorem EventSchema.codec_exact : EventSchema.codec.Exact fun _ => True := by
  have fields := Fields.Exact.cons (required_exact Codec.string_exact "vendor") (.cons
    (required_exact Codec.string_exact "name") (.cons (required_exact Codec.string_exact "format") (.cons
    (required_exact Codec.string_exact "version") .nil List.not_mem_nil) (by decide)) (by decide)) (by decide)
  exact (Codec.Exact.record fields "EventSchema" fun _ => rfl).of_imp fun c _ =>
    ⟨trivial, trivial, trivial, trivial, trivial⟩

theorem EventsModel.codec_exact : EventsModel.codec.Exact fun _ => True := by
  have fields := Fields.Exact.cons (required_exact EventSchema.codec_exact.list "events") (.cons
    (required_exact Column.Binding.codec_exact.list "properties") .nil List.not_mem_nil) (by decide)
  exact (Codec.Exact.record fields "FilteredEventsContext" fun _ => rfl).of_imp fun m _ =>
    ⟨fun _ _ => trivial, fun _ _ => trivial, trivial⟩

theorem DailyModel.codec_exact : DailyModel.codec.Exact fun _ => True := by
  have columns := DailyColumn.codec_exact.list
  have fields := Fields.Exact.cons (required_exact columns "daily_aggregate_attributes") (.cons
    (required_exact columns "daily_first_value_attributes") (.cons
    (required_exact columns "daily_last_value_attributes") .nil List.not_mem_nil) (by decide)) (by decide)
  exact (Codec.Exact.record fields "DailyAggContext" fun _ => rfl).of_imp fun m _ =>
    ⟨fun _ _ => trivial, fun _ _ => trivial, fun _ _ => trivial, trivial⟩

theorem Buckets.fields_exact : ∃ P, Buckets.fields.Exact P ∧ ∀ t, P t := by
  have columns := FinalColumn.codec_exact.list
  have fields := Fields.Exact.cons (required_exact columns "lifetime_aggregates") (.cons
    (required_exact columns "last_n_day_aggregates") (.cons (required_exact columns "first_value_attributes") (.cons
    (required_exact columns "last_value_attributes") (.cons (required_exact columns "unique_list_attributes")
    .nil List.not_mem_nil) (by decide)) (by decide)) (by decide)) (by decide)
  exact ⟨_, fields, fun t =>
    ⟨fun _ _ => trivial, fun _ _ => trivial, fun _ _ => trivial, fun _ _ => trivial, fun _ _ => trivial, trivial⟩⟩

theorem Models.ownFields_exact : ∃ P, ownFields.Exact P ∧ ∀ t, P t := by
  have fields := Fields.Exact.cons (required_exact EventsModel.codec_exact "filtered_events") (.cons
    (required_exact DailyModel.codec_exact "daily_agg") .nil List.not_mem_nil) (by decide)
  exact ⟨_, fields, fun t => ⟨trivial, trivial, trivial⟩⟩

/-! The buckets, set aside and spread out again. -/

theorem setAside_own {own : Fields τ} (source : Source) (slots : Fields.Slots own)
    {entries others : List (String × Reading)} (known : ∀ e ∈ entries, e.1 ∈ own.names) :
    setAside source own slots (entries ++ others) =
      own.fill source slots entries >>= fun slots => setAside source own slots others := by
  induction entries generalizing slots with
  | nil => rfl
  | cons e entries ih =>
    obtain ⟨key, r⟩ := e
    have rest := fun slots => ih slots fun e member => known e (List.mem_cons_of_mem _ member)
    obtain ⟨done, same⟩ :=
      Option.isSome_iff_exists.mp ((own.put_isSome source key r slots).mpr (known (key, r) (by simp)))
    rw [List.cons_append, setAside, Fields.fill, same]
    cases done with
    | error fault => rfl
    | ok slots => exact rest slots

theorem setAside_others {own : Fields τ} (source : Source) (slots : Fields.Slots own) (depth : Nat)
    {values : List (String × Json)} (others : ∀ e ∈ values, e.1 ∉ own.names) (fits : ∀ e ∈ values, e.2.Fits depth) :
    setAside source own slots (values.map fun e => (e.1, e.2.readingAt depth)) =
      .ok (slots, values.map fun e => (e.1, e.2.readingAt depth)) := by
  induction values with
  | nil => rfl
  | cons e values ih =>
    obtain ⟨key, v⟩ := e
    have rest := ih (fun e member => others e (List.mem_cons_of_mem _ member))
      fun e member => fits e (List.mem_cons_of_mem _ member)
    have unknown : own.put source key (v.readingAt depth) slots = none := by
      rw [← Option.not_isSome_iff_eq_none, Fields.put_isSome]
      exact others (key, v) (by simp)
    have kept := (readable_settles v depth).1 (fits (key, v) (by simp))
    rw [List.map_cons, setAside, unknown]
    dsimp only
    rw [kept, rest]
    rfl

namespace Models

def ownParts (m : Models) := (m.events, m.daily, ())

def bucketParts (m : Models) :=
  (m.buckets.lifetime, m.buckets.lastNDays, m.buckets.firstValue, m.buckets.lastValue, m.buckets.uniqueList, ())

def ownEntries (m : Models) : List (String × Json) := ownFields.toFields m.ownParts

def bucketEntries (m : Models) : List (String × Json) := Buckets.fields.toFields m.bucketParts

theorem encode_eq (m : Models) : Models.codec.encode m = .obj (m.ownEntries ++ m.bucketEntries) := rfl

theorem entries_within (m : Models) : ∀ e ∈ m.ownEntries ++ m.bucketEntries, e.2.levels ≤ 3 := by
  intro e member
  rcases List.mem_append.mp member with own | bucket
  · exact ownFields_within m.ownParts e own
  · exact Nat.le_succ_of_le (Buckets.fields_within m.bucketParts e bucket)

theorem entries_fit (m : Models) : ∀ e ∈ m.ownEntries ++ m.bucketEntries, e.2.Fits 1 := fun e member =>
  .inr (Nat.le_trans (Nat.add_le_add_left (m.entries_within e member) 1) (by decide))

theorem legible_encode (m : Models) : (Models.codec.encode m).Legible := by
  obtain ⟨_, own, all⟩ := ownFields_exact
  obtain ⟨_, buckets, all'⟩ := Buckets.fields_exact
  rw [encode_eq, Legible, legibleFields_iff]
  intro e member
  rcases List.mem_append.mp member with first | later
  · exact own.legible (all m.ownParts) e first
  · exact buckets.legible (all' m.bucketParts) e later

/-- The two parts of their own come first, and the buckets are read from what is left. -/
theorem decode_readingAt (m : Models) (source : Source) :
    Models.codec.decode source ((Models.codec.encode m).readingAt 0) = .ok m := by
  let readings (entries : List (String × Json)) := entries.map fun e => (e.1, e.2.readingAt 1)
  obtain ⟨_, own, all⟩ := ownFields_exact
  obtain ⟨_, buckets, all'⟩ := Buckets.fields_exact
  have ownRead := (own.ofObject (all m.ownParts) source 1).1
    fun e member => m.entries_fit e (List.mem_append_left _ member)
  obtain ⟨slots, filled, completed⟩ := Fields.ofObject_eq_ok ownRead
  have bucketsRead := (buckets.ofObject (all' m.bucketParts) .aside 1).1
    fun e member => m.entries_fit e (List.mem_append_right _ member)
  have split : setAside source ownFields ownFields.empty (readings m.ownEntries ++ readings m.bucketEntries) =
      .ok (slots, readings m.bucketEntries) := by
    have known : ∀ e ∈ readings m.ownEntries, e.1 ∈ ownFields.names :=
      List.forall_mem_map.mpr fun e member => ownFields.toFields_names m.ownParts e member
    rw [setAside_own source _ known]
    rw [show ownFields.fill source ownFields.empty (readings m.ownEntries) = .ok slots from filled]
    refine setAside_others source slots 1 (fun e member => ?_)
      fun e member => m.entries_fit e (List.mem_append_right _ member)
    have apart : ∀ name ∈ Buckets.fields.names, name ∉ ownFields.names := by decide
    exact apart e.1 (Buckets.fields.toFields_names m.bucketParts e member)
  have reading : (Models.codec.encode m).readingAt 0 =
      .obj (readings m.ownEntries ++ readings m.bucketEntries) := by
    rw [encode_eq, readingAt, fieldReadingsAt_eq_map, List.map_append]
    rfl
  rw [reading]
  show (setAside source ownFields ownFields.empty (readings m.ownEntries ++ readings m.bucketEntries) >>= _) = _
  rw [split]
  show (ownFields.complete slots >>= _) = _
  rw [completed]
  show ((Buckets.fields.ofObject .aside (readings m.bucketEntries)).map _ >>= _) = _
  rw [show Buckets.fields.ofObject .aside (readings m.bucketEntries) = .ok m.bucketParts from bucketsRead]
  rfl

theorem ofText_pretty (m : Models) : Models.codec.ofText (Models.codec.encode m).pretty = .ok m := by
  rw [Codec.ofText, read_pretty m.legible_encode]
  dsimp only
  rw [m.decode_readingAt]
  rfl

end Models

/-- The text of a blueprint or of models gives back the same value, and no two values have the same text. -/
theorem files_read_back :
    (∀ b : Blueprint, b.Storable → (Blueprint.codec.encode b).levels ≤ maxDepth →
      Blueprint.codec.ofText (Blueprint.codec.encode b).pretty = .ok b) ∧
    (∀ m : Models, Models.codec.ofText (Models.codec.encode m).pretty = .ok m) ∧
    (∀ b b' : Blueprint, b.Storable → b'.Storable → (Blueprint.codec.encode b).levels ≤ maxDepth →
      (Blueprint.codec.encode b').levels ≤ maxDepth →
      (Blueprint.codec.encode b).pretty = (Blueprint.codec.encode b').pretty → b = b') ∧
    ∀ m m' : Models, (Models.codec.encode m).pretty = (Models.codec.encode m').pretty → m = m' := by
  have read (b : Blueprint) (storable : b.Storable) (shallow : (Blueprint.codec.encode b).levels ≤ maxDepth) :=
    (Blueprint.ofText_pretty storable).1 shallow
  refine ⟨read, Models.ofText_pretty, fun b b' storable storable' shallow shallow' same => ?_, fun m m' same => ?_⟩
  · have back := read b storable shallow
    rw [same, read b' storable' shallow'] at back
    exact (Except.ok.inj back).symm
  · have back := m.ofText_pretty
    rw [same, m'.ofText_pretty] at back
    exact (Except.ok.inj back).symm

/-- Visits from some countries with a score or a plan, in the last week: a list in a list, a double among whole numbers,
absent and present options. -/
def weeklyVisits : Blueprint where
  events := ["iglu:com.acme/page_view/jsonschema/1-0-0"]
  properties := [⟨"geo.country", "country"⟩, ⟨"user.score", "score"⟩]
  periods := ["P1D", "P7D"]
  plans := [{
    filtered := ⟨.filteredEvents, true, none, none, none⟩
    daily := ⟨.dailyAggregation, true, some .count, some "count_page_view", some ⟨[
      ⟨"country", .isIn, .list [.str "US", .str "1", .list [.int 1, .float 2.5, .bool true], .list []]⟩], []⟩⟩
    final := ⟨.attributeAggregation, true, some .sum, some "visits", some ⟨[⟨"period", .gt, .int 7⟩], []⟩⟩ }]
  entityKey := "user_id"

theorem files_read_back_of_weekly_visits :
    weeklyVisits.Storable ∧ (Blueprint.codec.encode weeklyVisits).levels = 9 ∧
      Blueprint.codec.ofText (Blueprint.codec.encode weeklyVisits).pretty = .ok weeklyVisits := by
  have storable : weeklyVisits.Storable := ⟨by simp [weeklyVisits, Plan.InOrder, Plan.steps, Stage.all],
    by decide, by decide +kernel⟩
  have levels : (Blueprint.codec.encode weeklyVisits).levels = 9 := by decide +kernel
  exact ⟨storable, levels, files_read_back.1 weeklyVisits storable (by rw [levels]; decide)⟩

end AttributeStore
