/-
Constraint keywords of a schema. A keyword whose value is of the wrong kind counts as absent, and so
does a pattern that cannot be compiled.
-/
import ContractInterface.Json.Value
import ContractInterface.Pattern.Basic

namespace ContractInterface

open Json

structure Constraints where
  minimum : Option Double
  maximum : Option Double
  exclusiveMinimum : Option Double
  exclusiveMaximum : Option Double
  format : Option String
  minLength : Option Nat
  maxLength : Option Nat
  pattern : Option TextPattern
  minItems : Option Nat
  maxItems : Option Nat

namespace Constraints

def empty : Constraints := ⟨none, none, none, none, none, none, none, none, none, none⟩

/-! ## Reading -/

def bound? (members : Members) (key : String) : Option Double :=
  ((members.lookup key).bind Value.asNumber?).map Number.toDouble

def count? (members : Members) (key : String) : Option Nat :=
  (members.lookup key).bind Value.asNatural?

def text? (members : Members) (key : String) : Option String :=
  (members.lookup key).bind Value.asString?

/-- The constraints that the members of a schema set. -/
def ofMembers (members : Members) : Constraints where
  minimum := bound? members "minimum"
  maximum := bound? members "maximum"
  exclusiveMinimum := bound? members "exclusiveMinimum"
  exclusiveMaximum := bound? members "exclusiveMaximum"
  format := text? members "format"
  minLength := count? members "minLength"
  maxLength := count? members "maxLength"
  pattern := (text? members "pattern").bind TextPattern.compile?
  minItems := count? members "minItems"
  maxItems := count? members "maxItems"

/-! ## Equality -/

/-- Equality of bounds, by value. -/
def sameBound : Option Double → Option Double → Bool
  | some x, some y => x.same y
  | none, none => true
  | _, _ => false

/-- Equality of constraints: bounds by value, patterns by their text. -/
def same (a b : Constraints) : Bool :=
  sameBound a.minimum b.minimum && sameBound a.maximum b.maximum &&
    sameBound a.exclusiveMinimum b.exclusiveMinimum &&
    sameBound a.exclusiveMaximum b.exclusiveMaximum && a.format == b.format &&
    a.minLength == b.minLength && a.maxLength == b.maxLength && decide (a.pattern = b.pattern) &&
    a.minItems == b.minItems && a.maxItems == b.maxItems

def isEmpty (c : Constraints) : Bool := c.same empty

end Constraints

end ContractInterface
