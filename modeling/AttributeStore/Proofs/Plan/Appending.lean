import AttributeStore.Proofs.Plan.ColumnBinding

/-! Attributes appended to a list. What was compiled before them stays as it was: they come behind it in everything
that the attributes of a view share. -/
namespace AttributeStore

namespace Ledger

theorem enterAll_append (l : Ledger) (first second : List Attribute) :
    l.enterAll (first ++ second) = (l.enterAll first).enterAll second := List.foldl_append

theorem events_prefix_enterAll (l : Ledger) (attributes : List Attribute) :
    l.events <+: (l.enterAll attributes).events := by
  induction attributes generalizing l with
  | nil => exact List.prefix_rfl
  | cons a rest ih => exact (record_extends l.events a.events).trans (ih (l.enter a))

theorem periods_subset_enter (l : Ledger) (a : Attribute) : l.periods ⊆ (l.enter a).periods := by
  intro t member
  cases period : a.period with
  | none => simpa [enter, period] using member
  | some p => simpa [enter, period] using mem_insertSorted.mpr (.inr member)

theorem periods_subset_enterAll (l : Ledger) (attributes : List Attribute) :
    l.periods ⊆ (l.enterAll attributes).periods := by
  induction attributes generalizing l with
  | nil => exact List.Subset.refl _
  | cons a rest ih => exact List.Subset.trans (l.periods_subset_enter a) (ih (l.enter a))

/-- Bindings that were resolved stay as they were resolved. -/
theorem resolved_prefix_enterAll {l : Ledger} (tidy : Column.Tidy l.bindings) (attributes : List Attribute) :
    l.resolved <+: (l.enterAll attributes).resolved := by
  obtain ⟨rest, appended⟩ := tidy.prefix_registerAll (attributes.flatMap (·.paths))
  rw [resolved, resolved, enterAll_bindings, ← appended]
  exact Column.resolve_prefix l.bindings rest

end Ledger

/-- The plans of attributes are the same whatever is entered after them. -/
theorem Attribute.planIn_enterAll {attributes : List Attribute} {a : Attribute} (member : a ∈ attributes)
    (more : List Attribute) :
    a.planIn (Ledger.enterAll (Ledger.enterAll {} attributes) more).bindings =
      a.planIn (Ledger.enterAll {} attributes).bindings := by
  rw [Ledger.enterAll_bindings]
  exact planIn_registerAll a (Ledger.enterAll_tidy attributes)
    (fun path declared named => Ledger.mem_enterAll_bindings member declared named) _

/-- Where a list of attributes compiles, what it starts with compiles by itself, to what the whole starts with: the
same plans, events and columns, in their places. The periods, which are kept in order, are among those of the whole. -/
theorem Blueprint.ofAttributes_append {first second : List Attribute} {entityKey : String} {whole : Blueprint}
    (compiled : ofAttributes (first ++ second) entityKey = .ok whole) :
    ∃ b, ofAttributes first entityKey = .ok b ∧ b.plans.length = first.length ∧ b.plans <+: whole.plans ∧
      b.events <+: whole.events ∧ b.properties <+: whole.properties ∧ b.periods ⊆ whole.periods := by
  let l := Ledger.enterAll {} first
  have tidy : Column.Tidy l.bindings := Ledger.enterAll_tidy first
  rw [ofAttributes_eq, map_eq_ok_iff, Ledger.enterAll_append] at compiled
  obtain ⟨plans, planned, rfl⟩ := compiled
  rw [List.mapM_append, bind_eq_ok_iff] at planned
  obtain ⟨early, plannedFirst, planned⟩ := planned
  obtain ⟨late, -, joined⟩ := bind_eq_ok_iff.mp planned
  cases joined
  have settled : List.Forall₂ (fun a p => a.planIn l.bindings = .ok p) first early := by
    have both := (List.forall₂_and_left _ _).mpr
      ⟨fun a member => Attribute.planIn_enterAll member second, mapM_eq_ok_iff.mp plannedFirst⟩
    exact both.imp fun a p ⟨same, plan⟩ => same.symm.trans plan
  refine ⟨⟨l.events, l.resolved, l.periods, early, entityKey⟩, ?compiled, settled.length_eq.symm, ?plans, ?events,
    ?properties, ?periods⟩
  case compiled => exact ofAttributes_eq_ok_iff.mpr ⟨early, settled, rfl⟩
  case plans => exact List.prefix_append early late
  case events => exact l.events_prefix_enterAll second
  case properties => exact Ledger.resolved_prefix_enterAll tidy second
  case periods => exact l.periods_subset_enterAll second

/-- The names of those who visit, week by week: a third path that ends like two others. -/
def visitorsOfWeek : Attribute where
  name := "visitors"
  valueType := none
  aggregation := .uniqueList
  property := some "visitor.id"
  events := [⟨"com.acme", "page_view", "1-0-0"⟩, ⟨"com.acme", "visit", "1-0-0"⟩]
  criteria := none
  period := some (.weeks 1)
  description := none
  defaultValue := none

theorem Blueprint.ofAttributes_append_of_visitors :
    ∃ whole b, ofAttributes ([lastPageOfKnownUser] ++ [visitorsOfWeek]) "user_key" = .ok whole ∧
      whole.properties = [⟨"page.id", "id"⟩, ⟨"user.id", "id_2"⟩, ⟨"visitor.id", "id_3"⟩] ∧
      ofAttributes [lastPageOfKnownUser] "user_key" = .ok b ∧ b.plans <+: whole.plans ∧
      b.properties <+: whole.properties := by
  obtain ⟨whole, compiled, columns⟩ : ∃ whole,
      ofAttributes ([lastPageOfKnownUser] ++ [visitorsOfWeek]) "user_key" = .ok whole ∧
        whole.properties = [⟨"page.id", "id"⟩, ⟨"user.id", "id_2"⟩, ⟨"visitor.id", "id_3"⟩] :=
    ⟨_, rfl, by decide +kernel⟩
  obtain ⟨b, early, -, plans, -, properties, -⟩ := ofAttributes_append compiled
  exact ⟨whole, b, compiled, columns, early, plans, properties⟩

end AttributeStore
