import AttributeStore.Project.Template
import AttributeStore.Proofs.Column.Case
import AttributeStore.Proofs.Models.Buckets
import AttributeStore.Proofs.Plan.ColumnBinding

/-! The columns of the first model. Four of them are there for every view, and behind them stands a column for each
declared path. Resolution tells the paths' columns apart from each other, as they are spelled, and knows nothing of the
four. -/
namespace AttributeStore

/-- The paths of some attributes that have a column, in the order of their first use. -/
def declaredPaths (attributes : List Attribute) : List String :=
  ((attributes.flatMap (·.paths)).filter (Column.HasName ·)).eraseDups

theorem Ledger.enterAll_bindings_eq (attributes : List Attribute) :
    (enterAll {} attributes).bindings = (declaredPaths attributes).map Column.bindingOf := by
  rw [(enterAll_tidy attributes).cleaned, enterAll_bindings, Column.registerAll_paths, declaredPaths]

namespace Renderer

/-- The columns that the first model of every view has. -/
def commonColumns (r : Renderer) (b : Blueprint) : List String :=
  [b.entityKey, eventNameColumn, r.timestamp, "event_date"]

/-- The selection that gives a common column. -/
def commonSelections (r : Renderer) (b : Blueprint) : List String :=
  [b.entityKey, eventNameColumn, r.timestamp, s!"CAST({r.timestamp} AS DATE) AS event_date"]

end Renderer

theorem Models.events_properties {b : Blueprint} {m : Models} (built : ofBlueprint b = .ok m) :
    m.events.properties = b.properties := by
  obtain ⟨events, -, -⟩ := ofBlueprint_eq_ok_iff.mp built
  exact (EventsModel.ofBlueprint_eq_ok_iff.mp events).2

/-- The columns of the first model. The properties have columns of their own, one for each declared path, which are
spelled apart. No column is ambiguous exactly where a resolution that ignores case and starts with the common columns
gives out the same names. A common column that ends in no number is met exactly where a path is cleaned to its name,
and columns of properties meet in case only where a path is no nested one. -/
theorem Models.eventColumns_unambiguous_iff {attributes : List Attribute} {entityKey : String} {b : Blueprint}
    {m : Models} (compiled : Blueprint.ofAttributes attributes entityKey = .ok b) (built : ofBlueprint b = .ok m)
    (r : Renderer) (project : String) :
    let declared := declaredPaths attributes
    r.eventsColumns ⟨project, b, some m⟩ m =
      r.commonSelections b ++ b.properties.map (fun p => s!"{p.path} AS {p.name}") ∧
    b.properties.map (·.path) = declared ∧ (b.properties.map (·.name)).Nodup ∧
    (Column.Unambiguous (r.commonColumns b) b.properties ↔
      b.properties = Column.resolveFolded (r.commonColumns b) (declared.map Column.bindingOf)) ∧
    (∀ name, (∀ c ∈ name.toList.getLast?, ¬c.isDigit) →
      ((∃ p ∈ b.properties, Column.folded p.name = Column.folded name) ↔
        ∃ path ∈ declared, Column.folded (Column.ofPath path) = Column.folded name)) ∧
    ((∀ path ∈ declared, Column.IsNested path) → (b.properties.map (Column.folded ·.name)).Nodup) := by
  intro declared
  have shown := events_properties built
  obtain ⟨plans, -, rfl⟩ := Blueprint.ofAttributes_eq_ok_iff.mp compiled
  have resolved : (Ledger.enterAll {} attributes).resolved = Column.resolve (declared.map Column.bindingOf) := by
    rw [Ledger.resolved, Ledger.enterAll_bindings_eq attributes]
  clear_value declared
  dsimp only at shown ⊢
  rw [resolved] at shown ⊢
  refine ⟨?columns, ?paths, Column.resolve_names_nodup _, Column.unambiguous_resolve_iff _ _, ?common, ?nested⟩
  case columns =>
    rw [Renderer.eventsColumns, shown]
    rfl
  case paths =>
    rw [Column.resolve_paths, List.map_map]
    exact List.map_id declared
  case common =>
    intro name unnumbered
    rw [Column.exists_resolve_folded_iff unnumbered]
    simp only [List.mem_map, exists_exists_and_eq_and, Column.bindingOf]
  case nested =>
    intro nested
    refine Column.resolve_folded_nodup fun b member => ?_
    obtain ⟨path, listed, rfl⟩ := List.mem_map.mp member
    simpa only [Column.bindingOf] using Column.ofPath_nested (nested path listed)

theorem Models.eventColumns_of_known_user : ∃ b m,
    Blueprint.ofAttributes [lastPageOfKnownUser] "user_key" = .ok b ∧ ofBlueprint b = .ok m ∧
      b.properties.map (·.name) = ["id", "id_2"] ∧
      Column.Unambiguous (Renderer.commonColumns {} b) b.properties := by
  have run : ((Blueprint.ofAttributes [lastPageOfKnownUser] "user_key" >>= ofBlueprint).map fun m =>
      m.events.properties).toOption = some [⟨"page.id", "id"⟩, ⟨"user.id", "id_2"⟩] := by
    decide +kernel
  obtain ⟨b, m, compiled, built, properties⟩ := exists_of_run run
  rw [events_properties built] at properties
  obtain ⟨-, -, -, unambiguous, -⟩ := eventColumns_unambiguous_iff compiled built {} "visits_1"
  have key : b.entityKey = "user_key" := Blueprint.ofAttributes_entityKey compiled
  refine ⟨b, m, compiled, built, by rw [properties]; rfl, unambiguous.mpr ?_⟩
  rw [properties, Renderer.commonColumns, key]
  decide +kernel

/-- Views of pages on which an event of some name takes place. -/
def viewsOfEvent (name : String) : Attribute :=
  { Attribute.ofEvents "views" .counter [⟨"com.acme", "page_view", "1-0-0"⟩] with
    criteria := some ⟨[⟨"page.event_name", .eq, .str name⟩], []⟩ }

/-- A property is called like the column of the events' names: the model has two columns of that name. -/
theorem Models.eventColumns_of_event_name : ∃ b m,
    Blueprint.ofAttributes [viewsOfEvent "click"] "user_id" = .ok b ∧ ofBlueprint b = .ok m ∧
      b.properties = [⟨"page.event_name", eventNameColumn⟩] ∧
      ¬Column.Unambiguous (Renderer.commonColumns {} b) b.properties := by
  have run : ((Blueprint.ofAttributes [viewsOfEvent "click"] "user_id" >>= ofBlueprint).map fun m =>
      m.events.properties).toOption = some [⟨"page.event_name", eventNameColumn⟩] := by
    decide +kernel
  obtain ⟨b, m, compiled, built, properties⟩ := exists_of_run run
  rw [events_properties built] at properties
  refine ⟨b, m, compiled, built, properties, fun clear => ?_⟩
  exact clear.free ⟨"page.event_name", eventNameColumn⟩ (by simp [properties]) eventNameColumn
    (by simp [Renderer.commonColumns]) rfl

end AttributeStore
