/-
What can be told of a raw schema without reading it in full.
-/
import ContractInterface.Schema.Node

namespace ContractInterface

open Json

/-- Coarse kind of a raw schema. -/
inductive SchemaKind where
  | type (tag : String)
  | reference (pointer : String)
  | enumeration
  | constant
  | unknown

namespace SchemaKind

def ofValue (schema : Value) : SchemaKind :=
  match (schema.get? "type").bind Value.asString? with
  | some tag => .type tag
  | none =>
    match (schema.get? "$ref").bind Value.asString? with
    | some pointer => .reference pointer
    | none =>
      if ((schema.get? "enum").bind Value.asArray?).isSome then .enumeration
      else if (schema.get? "const").isSome then .constant
      else .unknown

end SchemaKind

/-- Whether a raw schema has a keyword that says what it is. -/
def isRecognized : Value → Bool
  | .object members =>
    (match members.lookup "type" with
      | some (.string _) | some (.array _) => true
      | _ => false) ||
    (Node.reference? members).isSome || Node.isArrayAt members "enum" ||
    Node.hasKey members "const" || Node.isArrayAt members "oneOf" ||
    Node.isArrayAt members "anyOf" || Node.isArrayAt members "allOf"
  | _ => false

/-- The names that a raw schema lists as required. -/
def requiredProperties (schema : Value) : List String :=
  match schema with
  | .object members => (Node.requiredNames? members).getD []
  | _ => []

/-- The declared properties that a raw schema does not list as required. Without such a list there
are none. -/
def optionalProperties (schema : Value) : List String :=
  match schema with
  | .object members =>
    match Node.requiredNames? members, (members.lookup "properties").bind Value.asObject? with
    | some required, some properties =>
      (properties.map Prod.fst).filter fun name => !required.contains name
    | _, _ => []
  | _ => []

end ContractInterface
