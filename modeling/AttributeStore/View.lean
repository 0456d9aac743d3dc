import AttributeStore.Attribute.Shape

/-! Entities, the versioned views that group attributes of one entity, and the services that bundle views. -/
namespace AttributeStore

open Json

structure Entity where
  name : String
  key : Option String
  description : Option String

/-- The column that identifies the entity in event data. -/
def Entity.keyColumn (e : Entity) : String := e.key.getD e.name

structure ViewReference where
  name : String
  version : UInt32
  deriving DecidableEq

structure View where
  name : String
  version : UInt32
  entity : Entity
  attributes : List Attribute
  owner : Option String
  description : Option String
  online : Bool
  offline : Bool
  ttl : Option Period
  isPublished : Bool

namespace View

/-- An online view without attributes. -/
def ofEntity (name : String) (version : UInt32) (entity : Entity) : View :=
  ⟨name, version, entity, [], none, none, true, false, none, false⟩

def reference (v : View) : ViewReference := ⟨v.name, v.version⟩

/-- The keys of online look-ups: view, version and attribute. -/
def attributeKeys (v : View) : List String :=
  v.attributes.map fun a => s!"{v.name}:{v.version}:{a.name}"

end View

structure Service where
  name : String
  description : Option String
  owner : Option String
  views : List ViewReference
  isPublished : Bool

/-- Adds a view, at the end and whether or not it is there. -/
def Service.withView (s : Service) (v : View) : Service := { s with views := s.views ++ [v.reference] }

def Entity.codec : Codec Entity :=
  .record "Entity"
    (.cons (required "name" .string) <| .cons (skipped "key" .string) <| .cons (skipped "description" .string) .nil)
    (fun (name, key, description, ()) => ⟨name, key, description⟩)
    (fun e => (e.name, e.key, e.description, ()))

def ViewReference.codec : Codec ViewReference :=
  .record "ViewReference"
    (.cons (required "name" .string) <| .cons (required "version" .u32) .nil)
    (fun (name, version, ()) => ⟨name, version⟩)
    (fun r => (r.name, r.version, ()))

/-- A view is of version 1 and online unless it says otherwise. -/
def View.codec : Codec View :=
  .record "View"
    (.cons (required "name" .string) <| .cons (defaulted "version" .u32 1) <|
      .cons (required "entity" Entity.codec) <| .cons (defaulted "attributes" (.list Attribute.codec) []) <|
      .cons (skipped "owner" .string) <| .cons (skipped "description" .string) <|
      .cons (defaulted "online" .bool true) <| .cons (defaulted "offline" .bool false) <|
      .cons (skipped "ttl" Period.codec) <| .cons (defaulted "is_published" .bool false) .nil)
    (fun (name, version, entity, attributes, owner, description, online, offline, ttl, isPublished, ()) =>
      ⟨name, version, entity, attributes, owner, description, online, offline, ttl, isPublished⟩)
    (fun v => (v.name, v.version, v.entity, v.attributes, v.owner, v.description, v.online, v.offline, v.ttl,
      v.isPublished, ()))

def Service.codec : Codec Service :=
  .record "Service"
    (.cons (required "name" .string) <| .cons (skipped "description" .string) <| .cons (skipped "owner" .string) <|
      .cons (defaulted "views" (.list ViewReference.codec) []) <| .cons (defaulted "is_published" .bool false) .nil)
    (fun (name, description, owner, views, isPublished, ()) => ⟨name, description, owner, views, isPublished⟩)
    (fun s => (s.name, s.description, s.owner, s.views, s.isPublished, ()))

end AttributeStore
