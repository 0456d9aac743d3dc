import AttributeStore.Proofs.Models.DeclaredEvents
import AttributeStore.Proofs.Project.EventsText

/-! The events of a view in its first model. Each declared event is recorded once, and the text of the model names it
in a comment and asks for it in its filter, as long as there is no new line and no quote in it. -/
namespace AttributeStore

open Sql (Token Leads Reads IsPassage IsWord EndsName)

/-- The events in the text of the first model. Each event is recorded once; the header gives each a line of its own
exactly where no event holds a new line. Behind such a header, and behind a selection that is SQL whatever follows it,
the filter is read as one group for each event, with three texts that are the event's vendor, name and version, exactly
where no event holds a quote. -/
theorem Models.eventLiterals_iff {attributes : List Attribute} {entityKey : String} {b : Blueprint} {m : Models}
    (compiled : Blueprint.ofAttributes attributes entityKey = .ok b) (built : ofBlueprint b = .ok m)
    (r : Renderer) (project : String) :
    let events := declaredEvents attributes
    let d : Draft := ⟨project, b, some m⟩
    r.eventsText d m =
      Renderer.eventsHeader b.events ++ r.eventsSelection d m ++ Renderer.eventsFilter m.events.events ∧
    b.events = events.map Event.reference ∧ m.events.events = events.map Event.schema ∧
    (Text.splitAt '\n' (Renderer.eventsHeader b.events).toList =
      (Column.sortNames b.events).map Renderer.commentLine ++ [[]] ↔ ∀ e ∈ events, e.Lacks '\n') ∧
    ((∀ e ∈ events, e.Lacks '\n') → ∀ front, IsPassage (r.eventsSelection d m).toList front →
      ((∃ lexemes, Sql.lex (r.eventsText d m) = .ok lexemes ∧
        lexemes.map (·.token) = front ++ Event.filterTokens events) ↔ ∀ e ∈ events, e.Lacks '\'')) := by
  intro events d
  have text := r.eventsText_eq d m
  obtain ⟨references, schemas⟩ := events_declared compiled (ofBlueprint_eq_ok_iff.mp built).1
  refine ⟨text, references, schemas, ?lines, fun whole front selection => ⟨?needed, ?enough⟩⟩
  case lines =>
    rw [references]
    exact Renderer.eventsHeader_lines_iff events
  all_goals
    have before :
        IsPassage ((Renderer.eventsHeader b.events).toList ++ (r.eventsSelection d m).toList) ([] ++ front) := by
      rw [references]
      exact (Renderer.isPassage_header whole).append selection
    rw [List.nil_append] at before
  case needed =>
    rintro ⟨lexemes, run, same⟩
    have reads := Reads.of_lex run
    rw [same, text, schemas, String.toList_append, String.toList_append] at reads
    exact Renderer.lacks_of_reads_filter ((before _).reads reads)
  case enough =>
    intro free
    refine Sql.Cuts.lex ?_
    rw [text, schemas, String.toList_append, String.toList_append]
    have behind : Sql.Cuts (Renderer.eventsFilter (events.map Event.schema)).toList (Event.filterTokens events) := by
      have cuts := (Renderer.isPassage_filter free []).cuts Sql.Cuts.nil
      rwa [List.append_nil, List.append_nil] at cuts
    exact (before _).cuts behind

/-- The title of the first page of one owner. -/
def firstTitleOf (owner : String) : Attribute :=
  { Attribute.ofEvents (owner ++ "_title") .first [⟨"com." ++ owner, "page_view", "1-0-0"⟩] with
    property := some "page.title" }

theorem Models.eventLiterals_of_first_title : ∃ b m front,
    Blueprint.ofAttributes [firstTitleOf "acme"] "user_id" = .ok b ∧ ofBlueprint b = .ok m ∧
    (∀ e ∈ declaredEvents [firstTitleOf "acme"], e.Lacks '\n') ∧
    IsPassage (Renderer.eventsSelection {} ⟨"visits_1", b, some m⟩ m).toList front ∧
    ∃ lexemes, Sql.lex (Renderer.eventsText {} ⟨"visits_1", b, some m⟩ m) = .ok lexemes ∧
      lexemes.map (·.token) = front ++ Event.filterTokens [⟨"com.acme", "page_view", "1-0-0"⟩] := by
  have run : ((Blueprint.ofAttributes [firstTitleOf "acme"] "user_id" >>= ofBlueprint).map fun m =>
      m.events.properties).toOption = some [⟨"page.title", "title"⟩] := by
    decide +kernel
  obtain ⟨b, m, compiled, built, properties⟩ := exists_of_run run
  have key : b.entityKey = "user_id" := Blueprint.ofAttributes_entityKey compiled
  have item : Renderer.IsItem "page.title AS title".toList
      [.word "page", .symbol ".", .word "title", .word "AS", .word "title"] := by
    have text : "page.title AS title".toList =
        "page".toList ++ '.' :: ("title".toList ++ [' '] ++ ("AS".toList ++ [' ']) ++ "title".toList) := by decide
    have title : IsPassage ("title".toList ++ [' ']) [.word "title"] := .word (by decide) (by decide) .space
    have as : IsPassage ("AS".toList ++ [' ']) [.word "AS"] := .word (by decide) (by decide) .space
    have named := Renderer.isItem_append (title.append as) (Renderer.isItem_word (by decide : IsWord "title"))
    intro c rest mark
    have page (left : List Char) : Leads ("page".toList ++ '.' :: left) [.word "page"] ('.' :: left) :=
      Leads.word (by decide) (EndsName.cons (by decide))
    have point (left : List Char) : Leads ('.' :: 't' :: left) [.symbol "."] ('t' :: left) :=
      Leads.token (fun _ => rfl) le_rfl
    rw [text, List.append_assoc, List.cons_append]
    exact (page _).trans ((point _).trans (named c rest mark))
  have selection := Renderer.isPassage_selection (r := {}) (d := ⟨"visits_1", b, some m⟩) (m := m)
    (by rw [key]; decide) (by decide) (by decide) (by decide) (by rw [properties]; exact .cons item .nil)
  have events : declaredEvents [firstTitleOf "acme"] = [⟨"com.acme", "page_view", "1-0-0"⟩] := by decide
  have plain (c : Char) (other : c ∉ "com.acme".toList ∧ c ∉ "page_view".toList ∧ c ∉ "1-0-0".toList) :
      ∀ e ∈ declaredEvents [firstTitleOf "acme"], e.Lacks c := by
    rw [events, List.forall_mem_singleton]
    exact ⟨other.1, other.2.1, other.2.2⟩
  obtain ⟨-, -, -, -, literals⟩ := eventLiterals_iff compiled built {} "visits_1"
  have whole := plain '\n' (by decide)
  have read := (literals whole _ selection).mpr (plain '\'' (by decide))
  rw [events] at read
  exact ⟨b, m, _, compiled, built, whole, selection, read⟩

/-- The views of an event of some name. -/
def viewsNamed (name : String) : Attribute := .ofEvents "views" .counter [⟨"com.acme", name, "1-0-0"⟩]

/-- The name ends at its first quote. -/
theorem leads_quoted_name (rest : List Char) :
    Leads (Renderer.comparedText "event_name" "view' OR 'a' = 'a" (' ' :: rest))
      [.word "event_name", .symbol "=", .text "view", .word "OR", .text "a", .symbol "=", .text "a"] (' ' :: rest) := by
  have name : "view' OR 'a' = 'a".toList = "view".toList ++ '\'' :: ' ' :: ("OR".toList ++ ' ' :: '\'' ::
      ("a".toList ++ '\'' :: ' ' :: '=' :: ' ' :: '\'' :: "a".toList)) := by decide
  rw [Renderer.comparedText, name]
  simp only [List.append_assoc, List.cons_append]
  exact (Renderer.leads_column (by decide) _).trans <| (Leads.text (by decide) (by simp)).trans <|
    (Renderer.leads_between (by decide) _).trans <| (Leads.text (by decide) (by simp)).trans <|
    (Renderer.leads_equals _).trans (Leads.text (by decide) (by simp))

/-- The tokens of a filter for an event whose name holds quotes. -/
def quotedNameTokens : List Token :=
  [.word "WHERE", .symbol "(", .word "event_vendor", .symbol "=", .text "com.acme", .word "AND", .word "event_name",
    .symbol "=", .text "view", .word "OR", .text "a", .symbol "=", .text "a", .word "AND", .word "event_version",
    .symbol "=", .text "1-0-0", .symbol ")"]

/-- A quote in the name of an event ends its text: what follows it in the name becomes part of the filter. -/
theorem Models.eventLiterals_of_quoted_name : ∃ b m front lexemes,
    Blueprint.ofAttributes [viewsNamed "view' OR 'a' = 'a"] "user_id" = .ok b ∧ ofBlueprint b = .ok m ∧
    IsPassage (Renderer.eventsSelection {} ⟨"visits_1", b, some m⟩ m).toList front ∧
    Sql.lex (Renderer.eventsText {} ⟨"visits_1", b, some m⟩ m) = .ok lexemes ∧
    lexemes.map (·.token) = front ++ quotedNameTokens ∧
    lexemes.map (·.token) ≠ front ++ Event.filterTokens [⟨"com.acme", "view' OR 'a' = 'a", "1-0-0"⟩] := by
  have run : ((Blueprint.ofAttributes [viewsNamed "view' OR 'a' = 'a"] "user_id" >>= ofBlueprint).map fun m =>
      m.events.properties).toOption = some [] := by
    decide +kernel
  obtain ⟨b, m, compiled, built, properties⟩ := exists_of_run run
  have key : b.entityKey = "user_id" := Blueprint.ofAttributes_entityKey compiled
  obtain ⟨references, schemas⟩ := events_declared compiled (ofBlueprint_eq_ok_iff.mp built).1
  have events : declaredEvents [viewsNamed "view' OR 'a' = 'a"] = [⟨"com.acme", "view' OR 'a' = 'a", "1-0-0"⟩] := by
    decide
  rw [events] at references schemas
  have whole : ∀ e ∈ [(⟨"com.acme", "view' OR 'a' = 'a", "1-0-0"⟩ : Event)], e.Lacks '\n' :=
    List.forall_mem_singleton.mpr ⟨by decide, by decide, by decide⟩
  have header := Renderer.isPassage_header whole
  have items : List.Forall₂ (fun (p : Column.Binding) tokens =>
      Renderer.IsItem (s!"{p.path} AS {p.name}").toList tokens) m.events.properties [] := by
    rw [properties]
    exact .nil
  have selection := Renderer.isPassage_selection (r := {}) (d := ⟨"visits_1", b, some m⟩) (by rw [key]; decide)
    (by decide) (by decide) (by decide) items
  have vendor : '\'' ∉ "com.acme".toList := by decide
  have version : '\'' ∉ "1-0-0".toList := by decide
  have group (rest : List Char) := (IsPassage.opening _).trans <|
    (Renderer.leads_compared Renderer.vendor_isWord vendor (by simp)).trans <|
    (Renderer.leads_between Renderer.and_isWord _).trans <| (leads_quoted_name _).trans <|
    (Renderer.leads_between Renderer.and_isWord _).trans <|
    (Renderer.leads_compared Renderer.version_isWord version (by simp)).trans <|
    IsPassage.closing rest
  have filter := (Renderer.isPassage_where _).cuts ((group ['\n']).cuts ((IsPassage.newline []).cuts Sql.Cuts.nil))
  have text := ((header.append selection) _).cuts filter
  obtain ⟨lexemes, read, tokens⟩ := Sql.Cuts.lex (s := Renderer.eventsText {} ⟨"visits_1", b, some m⟩ m) (by
    rw [Renderer.eventsText_eq, references, schemas, String.toList_append, String.toList_append,
      Renderer.eventsFilter_cons, Renderer.eventFilter_toList]
    exact text)
  refine ⟨b, m, _, lexemes, compiled, built, selection, read, tokens, fun same => ?_⟩
  rw [tokens] at same
  exact absurd (List.append_cancel_left same) (by decide)

end AttributeStore
