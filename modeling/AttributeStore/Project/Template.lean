import AttributeStore.Models.Basic

/-! The files of a warehouse project: its description, its sources, and the three models as SQL. -/
namespace AttributeStore

inductive Template
  | project
  | sources
  | filteredEvents
  | dailyAggregates
  | attributes
  deriving DecidableEq

/-- What a template is written from; the models are missing until they have been generated. -/
structure Draft where
  project : String
  blueprint : Blueprint
  models : Option Models

/-- The table of events, as the project names it, and its column of time. -/
structure Renderer where
  source : String := "atomic"
  table : String := "events"
  timestamp : String := "derived_tstamp"

/-- A model asked for before there are models. -/
structure TemplateError where
  template : Template
  project : String

namespace Template

def name : Template → String
  | project => "dbt_project"
  | sources => "sources"
  | filteredEvents => "filtered_events"
  | dailyAggregates => "daily_aggregates"
  | attributes => "attributes"

def all : List Template := [project, sources, filteredEvents, dailyAggregates, attributes]

/-- The files that stand in a project from the start. -/
def scaffold : List Template := [project, sources]

/-- The files that are generated. -/
def models : List Template := [filteredEvents, dailyAggregates, attributes]

/-- The parts of the file's path below the directory of its project. -/
def path (projectName : String) : Template → List String
  | project => ["dbt_project.yml"]
  | sources => ["models", "sources.yml"]
  | model => ["models", s!"{projectName}_{model.name}.sql"]

end Template

def TemplateError.message (e : TemplateError) : String :=
  s!"template '{e.template.name}' needs a generated dbt config for project '{e.project}'"

namespace Renderer

def name : String := "dbt-sql"

/-- A name inside double braces, which the project's tool replaces. -/
def braces (s : String) : String := "\x7b\x7b " ++ s ++ " \x7d\x7d"

/-- The columns of a selection, one a line. -/
def selection (columns : List String) : String := "SELECT\n    " ++ ",\n    ".intercalate columns ++ "\n"

def projectText (d : Draft) : String :=
  s!"name: '{d.project}'\nversion: '1.0.0'\nconfig-version: 2\nprofile: 'default'\n\n" ++
    s!"model-paths: [\"models\"]\n\nmodels:\n  {d.project}:\n    +materialized: table\n"

def sourcesText (r : Renderer) : String :=
  s!"version: 2\n\nsources:\n  - name: {r.source}\n    schema: {r.source}\n    tables:\n      - name: {r.table}\n"

def eventFilter (e : EventSchema) : String :=
  s!"(event_vendor = '{e.vendor}' AND event_name = '{e.name}' AND event_version = '{e.version}')"

def eventsColumns (r : Renderer) (d : Draft) (m : Models) : List String :=
  [d.blueprint.entityKey, "event_name", r.timestamp, s!"CAST({r.timestamp} AS DATE) AS event_date"] ++
    m.events.properties.map fun p => s!"{p.path} AS {p.name}"

/-- Which events a model reads stands in its first lines, sorted. -/
def eventsText (r : Renderer) (d : Draft) (m : Models) : String :=
  let header := String.join ((Column.sortNames d.blueprint.events).map fun e => s!"-- {e}\n")
  let source := braces s!"source('{r.source}', '{r.table}')"
  let filter :=
    if m.events.events.isEmpty then "FALSE" else "\n   OR ".intercalate (m.events.events.map eventFilter)
  header ++ selection (r.eventsColumns d m) ++ "FROM " ++ source ++ "\nWHERE " ++ filter ++ "\n"

/-- A day's count is the sum of its ones and zeros. -/
def dailyAggregate (c : DailyColumn) : String :=
  let function := if c.function = "count" then "SUM" else String.ofList (Text.upper c.function.toList)
  s!"{function}({c.expression}) AS {c.name}"

def dailyColumns (r : Renderer) (d : Draft) (m : Models) : List String :=
  [d.blueprint.entityKey, "event_date"] ++ m.daily.aggregates.map dailyAggregate ++
    m.daily.firstValues.map (fun c => s!"MIN_BY({c.expression}, {r.timestamp}) AS {c.name}") ++
    m.daily.lastValues.map (fun c => s!"MAX_BY({c.expression}, {r.timestamp}) AS {c.name}")

def dailyText (r : Renderer) (d : Draft) (m : Models) : String :=
  selection (r.dailyColumns d m) ++ "FROM " ++
    braces s!"ref('{d.project}_{Template.name .filteredEvents}')" ++ "\nGROUP BY 1, 2\n"

/-- The daily value, where it lies in the window. -/
def windowed (c : FinalColumn) : String :=
  match c.days with
  | some n => s!"CASE WHEN event_date >= DATEADD(day, -{n.toInt}, CURRENT_DATE) THEN {c.dailyName} END"
  | none => c.dailyName

def finalColumn (bucket : Bucket) (c : FinalColumn) : String :=
  let value := windowed c
  let expression := match bucket with
    | .firstValue => s!"MIN_BY({value}, event_date)"
    | .lastValue => s!"MAX_BY({value}, event_date)"
    | .uniqueList => s!"ARRAY_UNION_AGG({value})"
    | _ => s!"{String.ofList (Text.upper c.function.toList)}({value})"
  s!"{expression} AS {c.name}"

def finalColumns (d : Draft) (m : Models) : List String :=
  d.blueprint.entityKey :: Bucket.all.flatMap fun bucket => (m.buckets.get bucket).map (finalColumn bucket)

def attributesText (d : Draft) (m : Models) : String :=
  selection (finalColumns d m) ++ "FROM " ++
    braces s!"ref('{d.project}_{Template.name .dailyAggregates}')" ++ "\nGROUP BY 1\n"

/-- The text of a file. -/
def render (r : Renderer) (d : Draft) (t : Template) : Except TemplateError String :=
  match t, d.models with
  | .project, _ => .ok (projectText d)
  | .sources, _ => .ok r.sourcesText
  | .filteredEvents, some m => .ok (r.eventsText d m)
  | .dailyAggregates, some m => .ok (r.dailyText d m)
  | .attributes, some m => .ok (attributesText d m)
  | t, none => .error ⟨t, d.project⟩

end Renderer

end AttributeStore
