import AttributeStore.Settings
import AttributeStore.View

/-! The registry of definitions: what can be put there, and the requests that its operations are made of. -/
namespace AttributeStore.Registry

inductive Object
  | entity (e : Entity)
  | view (v : View)
  | service (s : Service)

namespace Object

def kind : Object → String
  | entity _ => "entity"
  | view _ => "view"
  | service _ => "service"

def name : Object → String
  | entity e => e.name
  | view v => v.name
  | service s => s.name

/-- The path of all objects of a kind, below that of the registry. -/
def collection : Object → String
  | entity _ => "entities"
  | view _ => "views"
  | service _ => "services"

/-- The path of one object; views have one a version. -/
def path : Object → String
  | view v => s!"views/{v.name}/versions/{v.version}"
  | o => s!"{o.collection}/{o.name}"

def toJson : Object → Json
  | entity e => Entity.codec.encode e
  | view v => View.codec.encode v
  | service s => Service.codec.encode s

/-- The published object; an entity is neither published nor not. -/
def published : Object → Object
  | entity e => entity e
  | view v => view { v with isPublished := true }
  | service s => service { s with isPublished := true }

end Object

inductive Method
  | get
  | post
  | delete

structure Request where
  method : Method
  path : String
  query : List (String × String) := []
  body : Option Json := none

inductive Operation
  | testConnection
  | listViews
  | getView (v : ViewReference)
  | apply (objects : List Object)
  | publish (objects : List Object)
  | delete (objects : List Object)
  | viewAttributes (v : View) (ids : List String)
  | serviceAttributes (service key : String) (ids : List String)
  /-- Opens the stream of interventions for entities, each given by the name of its key and its value. -/
  | stream (targets : List (String × String))

def root : String := "/api/v1/registry"

/-- A look-up of attribute values, by the values of one key. -/
def lookUp (what : String × Json) (key : String) (ids : List String) : Request :=
  { method := .post
    path := "/api/v1/get-online-attributes"
    body := some (.obj [what, ("identifiers", .obj [(key, .arr (ids.map .str))])]) }

namespace Operation

/-- The requests of an operation in their order; each is sent if those before it succeed. -/
def requests : Operation → List Request
  | testConnection | listViews => [{ method := .get, path := s!"{root}/views/" }]
  | getView v => [{ method := .get, path := s!"{root}/views/{v.name}/versions/{v.version}" }]
  | apply objects => objects.map fun o =>
    { method := .post, path := s!"{root}/{o.collection}/", body := some o.toJson }
  | publish objects => objects.map fun o =>
    { method := .post, path := s!"{root}/{o.collection}/", body := some o.published.toJson }
  | delete objects => objects.map fun o => { method := .delete, path := s!"{root}/{o.path}" }
  | viewAttributes v ids => [lookUp ("attributes", .arr (v.attributeKeys.map .str)) v.entity.keyColumn ids]
  | serviceAttributes service key ids => [lookUp ("service", .str service) key ids]
  | stream targets => [{ method := .get, path := "/api/v1/interventions", query := targets }]

end Operation

/-- The headers of every request; those without a value are left out. -/
def headers (s : Settings) : List (String × String) :=
  [("X-API-Key", s.apiKey), ("X-API-Key-ID", s.apiKeyId), ("X-Org-ID", s.orgId)].filter (!·.2.isEmpty)

def url (s : Settings) (r : Request) : String := s.baseUrl ++ r.path

end AttributeStore.Registry
