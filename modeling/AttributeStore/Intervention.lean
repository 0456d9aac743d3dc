import AttributeStore.EventStream
import AttributeStore.Json.Codec

/-! Interventions: what the registry pushes to subscribers, one JSON object an event. -/
namespace AttributeStore

open Json

/-- The attributes are the values that called for it, in the order of their names. -/
structure Intervention where
  name : String
  version : UInt32
  method : String
  scriptUri : Option String
  targetAgents : List String
  attributes : List (String × Json)

namespace Intervention

def codec : Codec Intervention :=
  .record "Intervention"
    (.cons (required "name" .string) <| .cons (defaulted "version" .u32 0) <|
      .cons (defaulted "method" .string "") <| .cons (skipped "script_uri" .string) <|
      .cons (defaulted "target_agents" (.list .string) []) <| .cons (defaulted "attributes" (.map .json) []) .nil)
    (fun (name, version, method, scriptUri, targetAgents, attributes, ()) =>
      ⟨name, version, method, scriptUri, targetAgents, attributes⟩)
    (fun i => (i.name, i.version, i.method, i.scriptUri, i.targetAgents, i.attributes, ()))

/-- The event's name may be left out. Other events, and data of another shape, are passed over. -/
def ofEvent? (e : EventStream.Event) : Option Intervention :=
  if e.name.all fun name => name == "message" || name == "intervention" then (codec.ofText e.data).toOption
  else none

end Intervention

end AttributeStore
