/-
Shapes: schemas without references. Equality compares values and bounds by value and keeps the
order of properties and members.
-/
import ContractInterface.Schema.Node

namespace ContractInterface

open Json

/-- A declared property of an object. -/
structure Property (α : Type) where
  name : String
  required : Bool
  shape : α

/-- What values conform to. -/
inductive Shape where
  | any
  | null
  | bool
  | number (constraints : Constraints)
  | string (constraints : Constraints)
  | literal (value : Value)
  /-- One of the values. -/
  | enum (values : List Value)
  | object (properties : List (Property Shape)) (additional : Additional Shape)
  /-- A list of fixed length, with a shape for each place. -/
  | tuple (elements : List Shape)
  | list (items : Shape) (constraints : Constraints)
  /-- At least one of the alternatives. -/
  | union (alternatives : List Shape)
  /-- All of the members. -/
  | intersection (members : List Shape)

namespace Shape

/-! ## Parts -/

/-- The values that a closed shape permits. -/
def closedValues? : Shape → Option (List Value)
  | .literal v => some [v]
  | .enum vs => some vs
  | _ => none

def properties? : Shape → Option (List (Property Shape))
  | .object properties _ => some properties
  | _ => none

/-- The property of an object under a name. -/
def property? (s : Shape) (name : String) : Option (Property Shape) :=
  s.properties?.bind fun properties => properties.find? (·.name == name)

def requiredNames (properties : List (Property Shape)) : List String :=
  (properties.filter (·.required)).map (·.name)

def optionalNames (properties : List (Property Shape)) : List String :=
  (properties.filter fun p => !p.required).map (·.name)

/-- An object with no declared properties and no limits on others. -/
def openObject : Shape := .object [] .untyped

/-! ## Equality -/

mutual

def same : Shape → Shape → Bool
  | .any, .any | .null, .null | .bool, .bool => true
  | .number a, .number b | .string a, .string b => a.same b
  | .literal a, .literal b => a.same b
  | .enum a, .enum b => Value.sameItems a b
  | .object ps a, .object qs b => sameProperties ps qs && sameAdditional a b
  | .tuple a, .tuple b => sameAll a b
  | .list a c, .list b d => a.same b && c.same d
  | .union a, .union b => sameAll a b
  | .intersection a, .intersection b => sameAll a b
  | _, _ => false
termination_by structural s => s

def sameAll : List Shape → List Shape → Bool
  | [], [] => true
  | a :: as, b :: bs => a.same b && sameAll as bs
  | _, _ => false
termination_by structural ss => ss

def sameProperties : List (Property Shape) → List (Property Shape) → Bool
  | [], [] => true
  | ⟨name, required, shape⟩ :: ps, q :: qs =>
    name == q.name && required == q.required && shape.same q.shape && sameProperties ps qs
  | _, _ => false
termination_by structural ps => ps

def sameAdditional : Additional Shape → Additional Shape → Bool
  | .forbidden, .forbidden | .untyped, .untyped => true
  | .typed a, .typed b => a.same b
  | _, _ => false
termination_by structural a => a

end

end Shape

end ContractInterface
