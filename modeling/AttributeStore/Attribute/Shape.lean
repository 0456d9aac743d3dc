import AttributeStore.Attribute.Basic
import AttributeStore.Period.Reader

/-! The JSON shapes of attributes and their parts. -/
namespace AttributeStore

open Json

def Operator.codec : Codec Operator := .choice symbol all

def Aggregation.codec : Codec Aggregation := .choice name all

namespace Operand

mutual

def toJson : Operand → Json
  | .bool b => .bool b
  | .int n => .int n.toInt
  | .float x => .float x
  | .str s => .str s
  | .list items => .arr (toJsons items)

def toJsons : List Operand → List Json
  | [] => []
  | item :: rest => item.toJson :: toJsons rest

end

mutual

/-- The first kind of operand that fits: a whole number outside 64 bits is taken as a double. -/
def ofJson? : Json → Option Operand
  | .bool b => some (.bool b)
  | .int n =>
    if Int64.minValue.toInt ≤ n ∧ n ≤ Int64.maxValue.toInt then some (.int (Int64.ofInt n))
    else some (.float n.toNat.toUInt64.toFloat)
  | .float x => some (.float x)
  | .str s => some (.str s)
  | .arr items => (ofJsons? items).map .list
  | _ => none

def ofJsons? : List Json → Option (List Operand)
  | [] => some []
  | item :: rest =>
    match ofJson? item with
    | some a => (ofJsons? rest).map (a :: ·)
    | none => none

end

def codec : Codec Operand where
  encode := toJson
  decode _ r :=
    match readable r with
    | .ok value =>
      match ofJson? value with
      | some a => .ok a
      | none => .error (.noVariant "CriterionValue")
    | .error fault => .error fault

end Operand

/-- A condition, under the name its type has in messages. -/
def Criterion.codecNamed (type : String) : Codec Criterion :=
  .record type
    (.cons (required "property" .string) <| .cons (required "operator" Operator.codec) <|
      .cons (required "value" Operand.codec) .nil)
    (fun (property, operator, value, ()) => ⟨property, operator, value⟩)
    (fun c => (c.property, c.operator, c.value, ()))

def Criteria.codecNamed (type item : String) : Codec Criteria :=
  .record type
    (.cons (defaulted "all" (.list (Criterion.codecNamed item)) []) <|
      .cons (defaulted "any" (.list (Criterion.codecNamed item)) []) .nil)
    (fun (all, any, ()) => ⟨all, any⟩)
    (fun c => (c.all, c.any, ()))

/-- Conditions on declared property paths. -/
def Criterion.codec : Codec Criterion := codecNamed "Criterion"
def Criteria.codec : Codec Criteria := codecNamed "Criteria" "Criterion"

/-- Conditions bound to columns. -/
def Criterion.boundCodec : Codec Criterion := codecNamed "Condition"
def Criteria.boundCodec : Codec Criteria := codecNamed "ModelingCriteria" "Condition"

def Event.codec : Codec Event :=
  .record "EventRef"
    (.cons (required "vendor" .string) <| .cons (defaulted "name" .string "") <|
      .cons (required "version" .string) .nil)
    (fun (vendor, name, version, ()) => ⟨vendor, name, version⟩)
    (fun e => (e.vendor, e.name, e.version, ()))

def Attribute.codec : Codec Attribute :=
  .record "AttributeDefinition"
    (.cons (required "name" .string) <| .cons (skipped "type" .string) <|
      .cons (required "aggregation" Aggregation.codec) <| .cons (optional "property" .string) <|
      .cons (required "events" (.list Event.codec)) <| .cons (optional "criteria" Criteria.codec) <|
      .cons (optional "period" Period.codec) <| .cons (skipped "description" .string) <|
      .cons (skipped "default_value" .json) .nil)
    (fun (name, valueType, aggregation, property, events, criteria, period, description, defaultValue, ()) =>
      ⟨name, valueType, aggregation, property, events, criteria, period, description, defaultValue⟩)
    (fun a => (a.name, a.valueType, a.aggregation, a.property, a.events, a.criteria, a.period, a.description,
      a.defaultValue, ()))

end AttributeStore
