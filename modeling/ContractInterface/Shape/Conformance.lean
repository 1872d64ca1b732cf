/-
Conformance of JSON values to shapes. The first mismatch in the order of the checks is reported with
the steps that lead to it; where the value itself stands is no concern of the check.
-/
import ContractInterface.Json.Text
import ContractInterface.Shape.Combination
import ContractInterface.Shape.IntegerFormat

namespace ContractInterface

open Json

/-! ## Mismatches -/

/-- A step from a value to a part of it. -/
inductive Step where
  | key (name : String)
  | index (n : Nat)

def Step.text : Step → String
  | .key name => s!".{name}"
  | .index n => s!"[{n}]"

/-- The bound keywords of numbers. -/
inductive Bound where
  | minimum
  | maximum
  | exclusiveMinimum
  | exclusiveMaximum

/-- The bound keywords of lengths. -/
inductive LengthBound where
  | minLength
  | maxLength
  | minItems
  | maxItems

/-- Why a value does not conform. -/
inductive Cause where
  | kind (expected : String) (found : Value)
  | literal (expected found : Value)
  | enum (found : Value)
  | tupleLength (expected found : Nat)
  | noAlternative (found : Value)
  | missingProperty (name : String)
  | unexpectedProperty (name : String)
  | bound (keyword : Bound) (number limit : Double)
  | notInteger (number : Number) (format : String)
  | outOfRange (number : Number) (format : String)
  | length (keyword : LengthBound) (actual limit : Nat)
  | pattern (text source : String)

/-- A cause and the steps from the value to where it arises. -/
structure Mismatch where
  steps : List Step
  cause : Cause

def Bound.name : Bound → String
  | .minimum => "minimum"
  | .maximum => "maximum"
  | .exclusiveMinimum => "exclusiveMinimum"
  | .exclusiveMaximum => "exclusiveMaximum"

/-- The sign of the comparison that a bound rules out. -/
def Bound.sign : Bound → String
  | .minimum => "<"
  | .maximum => ">"
  | .exclusiveMinimum => "<="
  | .exclusiveMaximum => ">="

def LengthBound.name : LengthBound → String
  | .minLength => "minLength"
  | .maxLength => "maxLength"
  | .minItems => "minItems"
  | .maxItems => "maxItems"

def LengthBound.sign : LengthBound → String
  | .minLength | .minItems => "<"
  | .maxLength | .maxItems => ">"

namespace Cause

/-- What is wrong, before the place is named. -/
def title : Cause → String
  | .kind .. => "type mismatch"
  | .literal .. => "const mismatch"
  | .enum .. => "enum mismatch"
  | .tupleLength .. => "tuple length mismatch"
  | .noAlternative .. => "no alternative matched"
  | .missingProperty .. => "required property missing"
  | .unexpectedProperty .. => "unexpected property"
  | .bound keyword .. => s!"{keyword.name} violation"
  | .notInteger .. | .outOfRange .. => "format violation"
  | .length keyword .. => s!"{keyword.name} violation"
  | .pattern .. => "pattern violation"

/-- The particulars, after the place is named. -/
def detail : Cause → String
  | .kind expected found => s!"expected {expected}, found {found.kind}"
  | .literal expected found => s!"expected {expected.text}, found {found.text}"
  | .enum found => s!"value {found.text} not in enum set"
  | .tupleLength expected found => s!"expected {expected}, found {found}"
  | .noAlternative found => s!"found {found.kind}"
  | .missingProperty name => s!"'{name}'"
  | .unexpectedProperty name => s!"'{name}'"
  | .bound keyword number limit =>
    s!"{number.format .plain} {keyword.sign} {limit.format .plain}"
  | .notInteger number format => s!"{(Value.number number).text} is not an integer ({format})"
  | .outOfRange number format => s!"{(Value.number number).text} out of range for {format}"
  | .length keyword actual limit => s!"{actual} {keyword.sign} {limit}"
  | .pattern text source => s!"'{text}' does not match '{source}'"

end Cause

namespace Mismatch

def under (step : Step) (m : Mismatch) : Mismatch := { m with steps := step :: m.steps }

/-- The text of a mismatch of the value at a path. -/
def message (path : String) (m : Mismatch) : String :=
  s!"{m.cause.title} at {path ++ String.join (m.steps.map Step.text)}: {m.cause.detail}"

end Mismatch

/-- The outcome of a check. -/
abbrev Check := Except Mismatch Unit

namespace Check

def fail (cause : Cause) : Check := .error ⟨[], cause⟩

/-- Fails with the cause unless the condition holds. -/
def ensure (condition : Bool) (cause : Cause) : Check := if condition then .ok () else fail cause

/-- The check of a part, as one of the whole. -/
def under (step : Step) (c : Check) : Check := c.mapError (Mismatch.under step)

def passes : Check → Bool
  | .ok _ => true
  | .error _ => false

/-- A check of a limit that may be absent. -/
def within (limit : Option α) (check : α → Check) : Check :=
  match limit with
  | some l => check l
  | none => .ok ()

end Check

/-! ## Keywords -/

namespace Constraints

/-- Bounds are compared with the double that is nearest to the number. -/
def checkBounds (c : Constraints) (x : Double) : Check := do
  Check.within c.minimum fun l => Check.ensure (!x.lt l) (.bound .minimum x l)
  Check.within c.maximum fun l => Check.ensure (!l.lt x) (.bound .maximum x l)
  Check.within c.exclusiveMinimum fun l => Check.ensure (!x.le l) (.bound .exclusiveMinimum x l)
  Check.within c.exclusiveMaximum fun l => Check.ensure (!l.le x) (.bound .exclusiveMaximum x l)

/-- Formats are held against the exact number. -/
def checkFormat (c : Constraints) (n : Number) : Check :=
  Check.within c.format fun format =>
    Check.within (IntegerRange.ofFormat? format) fun range =>
      match n.toInt? with
      | none => Check.fail (.notInteger n format)
      | some i => Check.ensure (range.contains i) (.outOfRange n format)

def checkNumber (c : Constraints) (n : Number) : Check := do
  c.checkBounds n.toDouble
  c.checkFormat n

/-- The length of a text is its number of characters. -/
def checkString (c : Constraints) (s : String) : Check := do
  let length := s.length
  Check.within c.minLength fun l => Check.ensure (decide (l ≤ length)) (.length .minLength length l)
  Check.within c.maxLength fun l => Check.ensure (decide (length ≤ l)) (.length .maxLength length l)
  Check.within c.pattern fun p => Check.ensure (p.matchesText s) (.pattern s p.source)

def checkCount (c : Constraints) (count : Nat) : Check := do
  Check.within c.minItems fun l => Check.ensure (decide (l ≤ count)) (.length .minItems count l)
  Check.within c.maxItems fun l => Check.ensure (decide (count ≤ l)) (.length .maxItems count l)

end Constraints

/-! ## Shapes -/

namespace Shape

/-- Checks items one after the other, counting from `n`. -/
def checkItems (check : Value → Check) (n : Nat) : List Value → Check
  | [] => .ok ()
  | v :: rest => do
    (check v).under (.index n)
    checkItems check (n + 1) rest

/-- Checks the members of an object that are not declared, in their order. -/
def checkExtras (declared : List String) (policy : Additional (Value → Check)) :
    Members → Check
  | [] => .ok ()
  | (key, v) :: rest => do
    if declared.contains key then .ok ()
    else
      match policy with
      | .forbidden => Check.fail (.unexpectedProperty key)
      | .typed check => (check v).under (.key key)
      | .untyped => .ok ()
    checkExtras declared policy rest

mutual

/-- Holds a value against a shape. -/
def check : Shape → Value → Check
  | .any, _ => .ok ()
  | .null, v => Check.ensure v.isNull (.kind "null" v)
  | .bool, v =>
    match v with
    | .bool _ => .ok ()
    | v => Check.fail (.kind "boolean" v)
  | .number c, v =>
    match v with
    | .number n => c.checkNumber n
    | v => Check.fail (.kind "number" v)
  | .string c, v =>
    match v with
    | .string s => c.checkString s
    | v => Check.fail (.kind "string" v)
  | .literal expected, v => Check.ensure (expected.same v) (.literal expected v)
  | .enum values, v => Check.ensure (values.any (·.same v)) (.enum v)
  | .object properties additional, v =>
    match v with
    | .object members => do
      checkProperties properties members
      checkExtras (properties.map (·.name)) (checkAdditional additional) members
    | v => Check.fail (.kind "object" v)
  | .tuple elements, v =>
    match v with
    | .array items => do
      Check.ensure (items.length == elements.length) (.tupleLength elements.length items.length)
      checkElements 0 elements items
    | v => Check.fail (.kind "array" v)
  | .list items c, v =>
    match v with
    | .array values => do
      c.checkCount values.length
      checkItems (check items) 0 values
    | v => Check.fail (.kind "array" v)
  | .union alternatives, v => Check.ensure (acceptsSome alternatives v) (.noAlternative v)
  | .intersection members, v => checkAll members v
termination_by structural s => s

/-- Checks the declared properties of an object, in their order. -/
def checkProperties : List (Property Shape) → Members → Check
  | [], _ => .ok ()
  | ⟨name, required, shape⟩ :: rest, members => do
    match members.lookup name with
    | some v => (check shape v).under (.key name)
    | none => Check.ensure (!required) (.missingProperty name)
    checkProperties rest members
termination_by structural ps => ps

def checkAdditional : Additional Shape → Additional (Value → Check)
  | .forbidden => .forbidden
  | .untyped => .untyped
  | .typed s => .typed (check s)
termination_by structural a => a

/-- Checks the items of a tuple, counting from `n`. -/
def checkElements (n : Nat) : List Shape → List Value → Check
  | s :: rest, v :: values => do
    (check s v).under (.index n)
    checkElements (n + 1) rest values
  | _, _ => .ok ()
termination_by structural ss => ss

def acceptsSome : List Shape → Value → Bool
  | [], _ => false
  | s :: rest, v => (check s v).passes || acceptsSome rest v
termination_by structural ss => ss

def checkAll : List Shape → Value → Check
  | [], _ => .ok ()
  | s :: rest, v => do
    check s v
    checkAll rest v
termination_by structural ss => ss

end

/-- Whether a value conforms to a shape. -/
def accepts (s : Shape) (v : Value) : Bool := (s.check v).passes

end Shape

end ContractInterface
