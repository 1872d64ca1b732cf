/-
Validation under a path. The check with the path passed down to the parts (`Shape.validate`) is the check
that knows no path, with its mismatch told in words at the end (`Shape.validate_eq`): to pass a path on
with each step, and to gather the steps first, name the same place.
-/
import ContractInterface.Proofs.Shape.Acceptance

namespace ContractInterface

open Json

/-! ## Texts -/

/-- The text of a cause that arises in the value at a path. -/
def Cause.textAt (c : Cause) (path : String) : String := s!"{c.title} at {path}: {c.detail}"

/-- Steps as they are written after a path. -/
def Step.texts (steps : List Step) : String := String.join (steps.map Step.text)

theorem Step.texts_nil : Step.texts [] = "" := rfl

theorem Step.texts_cons (step : Step) (steps : List Step) :
    Step.texts (step :: steps) = step.text ++ Step.texts steps := by
  unfold Step.texts
  rw [List.map_cons, String.join_cons]

theorem Mismatch.message_eq (path : String) (m : Mismatch) :
    m.message path = m.cause.textAt (path ++ Step.texts m.steps) := rfl

/-- A mismatch of a part is told as one of the whole, by a path that is longer by the step. -/
theorem Mismatch.message_under (step : Step) (path : String) (m : Mismatch) :
    (m.under step).message path = m.message (path ++ step.text) := by
  rw [message_eq, message_eq, String.append_assoc, ← Step.texts_cons]
  rfl

namespace Check

/-- The outcome of a check of the value at a path, with a mismatch told in words. -/
def report (c : Check) (path : String) : Except String Unit := c.mapError (Mismatch.message path)

theorem report_fail (cause : Cause) (path : String) :
    (fail cause).report path = .error (cause.textAt path) := by
  show Except.error (cause.textAt (path ++ Step.texts [])) = _
  rw [Step.texts_nil, String.append_empty]

theorem report_bind (c : Check) (next : Unit → Check) (path : String) :
    report (c >>= next) path = c.report path >>= fun u => (next u).report path := by
  cases c <;> rfl

theorem report_under (step : Step) (c : Check) (path : String) :
    (c.under step).report path = c.report (path ++ step.text) := by
  cases c with
  | ok => rfl
  | error m => exact congrArg Except.error (m.message_under step path)

theorem isOk_report (c : Check) (path : String) : (c.report path).isOk = c.passes := by
  cases c <;> rfl

end Check

/-! ## The path passed down -/

namespace Shape

/-- Validates items one after the other, counting from `n`. -/
def validateItems (validate : Value → String → Except String Unit) (n : Nat) :
    List Value → String → Except String Unit
  | [], _ => .ok ()
  | v :: rest, path => do
    validate v (path ++ (Step.index n).text)
    validateItems validate (n + 1) rest path

/-- Validates the members of an object that are not declared, in their order. -/
def validateExtras (declared : List String) (policy : Additional (Value → String → Except String Unit)) :
    Members → String → Except String Unit
  | [], _ => .ok ()
  | (key, v) :: rest, path => do
    if declared.contains key then .ok ()
    else
      match policy with
      | .forbidden => (Check.fail (.unexpectedProperty key)).report path
      | .typed validate => validate v (path ++ (Step.key key).text)
      | .untyped => .ok ()
    validateExtras declared policy rest path

mutual

/-- Holds the value at a path against a shape. A part is at the path of the whole, extended by the step to
it; the text of a mismatch names the path at which it arises. -/
def validate : Shape → Value → String → Except String Unit
  | .any, v, path => (check .any v).report path
  | .null, v, path => (check .null v).report path
  | .bool, v, path => (check .bool v).report path
  | .number c, v, path => (check (.number c) v).report path
  | .string c, v, path => (check (.string c) v).report path
  | .literal expected, v, path => (check (.literal expected) v).report path
  | .enum values, v, path => (check (.enum values) v).report path
  | .object properties additional, v, path =>
    match v with
    | .object members => do
      validateProperties properties members path
      validateExtras (properties.map (·.name)) (validateAdditional additional) members path
    | v => (Check.fail (.kind "object" v)).report path
  | .tuple elements, v, path =>
    match v with
    | .array items => do
      (Check.ensure (items.length == elements.length)
        (.tupleLength elements.length items.length)).report path
      validateElements 0 elements items path
    | v => (Check.fail (.kind "array" v)).report path
  | .list items c, v, path =>
    match v with
    | .array values => do
      (c.checkCount values.length).report path
      validateItems (validate items) 0 values path
    | v => (Check.fail (.kind "array" v)).report path
  | .union alternatives, v, path =>
    (Check.ensure (validatesSome alternatives v path) (.noAlternative v)).report path
  | .intersection members, v, path => validateAll members v path
termination_by structural s => s

/-- Validates the declared properties of an object, in their order. -/
def validateProperties : List (Property Shape) → Members → String → Except String Unit
  | [], _, _ => .ok ()
  | ⟨name, required, shape⟩ :: rest, members, path => do
    match members.lookup name with
    | some v => validate shape v (path ++ (Step.key name).text)
    | none => (Check.ensure (!required) (.missingProperty name)).report path
    validateProperties rest members path
termination_by structural ps => ps

def validateAdditional : Additional Shape → Additional (Value → String → Except String Unit)
  | .forbidden => .forbidden
  | .untyped => .untyped
  | .typed s => .typed (validate s)
termination_by structural a => a

/-- Validates the items of a tuple, counting from `n`. -/
def validateElements (n : Nat) : List Shape → List Value → String → Except String Unit
  | s :: rest, v :: values, path => do
    validate s v (path ++ (Step.index n).text)
    validateElements (n + 1) rest values path
  | _, _, _ => .ok ()
termination_by structural ss => ss

/-- Whether an alternative is met. What the others say is dropped. -/
def validatesSome : List Shape → Value → String → Bool
  | [], _, _ => false
  | s :: rest, v, path => (validate s v path).isOk || validatesSome rest v path
termination_by structural ss => ss

def validateAll : List Shape → Value → String → Except String Unit
  | [], _, _ => .ok ()
  | s :: rest, v, path => do
    validate s v path
    validateAll rest v path
termination_by structural ss => ss

end

/-! ### The check and its report -/

theorem validateItems_eq {validate : Value → String → Except String Unit} {check : Value → Check}
    (h : ∀ v path, validate v path = (check v).report path) : ∀ (n : Nat) (vs : List Value) (path : String),
      validateItems validate n vs path = (checkItems check n vs).report path
  | _, [], _ => rfl
  | n, v :: vs, path => by
    rw [validateItems, checkItems, Check.report_bind, Check.report_under, h, validateItems_eq h]

/-- Policies of one kind; where they look at values, they say the same of them. -/
theorem validateExtras_eq (declared : List String)
    {policy : Additional (Value → String → Except String Unit)} {checked : Additional (Value → Check)}
    (h : Additional.Rel (fun validate check => ∀ v path, validate v path = (check v).report path) policy
      checked) : ∀ (members : Members) (path : String),
      validateExtras declared policy members path = (checkExtras declared checked members).report path
  | [], _ => rfl
  | (key, v) :: members, path => by
    have ih := validateExtras_eq declared h members path
    simp only [validateExtras, checkExtras]
    split
    · exact ih
    · cases h with
      | forbidden => rfl
      | untyped => exact ih
      | typed h => simp only [Check.report_bind, Check.report_under, h, ih]

mutual

/-- To pass the path down is to tell the mismatch at the end. -/
theorem validate_eq : ∀ (s : Shape) (v : Value) (path : String),
    s.validate v path = (s.check v).report path
  | .any, _, _ | .null, _, _ | .bool, _, _ | .number _, _, _ | .string _, _, _ => rfl
  | .literal _, _, _ | .enum _, _, _ => rfl
  | .object ps a, v, path => by
    cases v with
    | object members =>
      rw [validate, check, Check.report_bind, validateProperties_eq ps members path,
        validateExtras_eq _ (validateAdditional_rel a) members path]
    | null | bool | number | string | array => rfl
  | .tuple ss, v, path => by
    cases v with
    | array items => rw [validate, check, Check.report_bind, validateElements_eq 0 ss items path]
    | null | bool | number | string | object => rfl
  | .list s c, v, path => by
    cases v with
    | array values => rw [validate, check, Check.report_bind, validateItems_eq (validate_eq s) 0 values path]
    | null | bool | number | string | object => rfl
  | .union ss, v, path => by rw [validate, check, validatesSome_eq ss v path]
  | .intersection ss, v, path => by rw [validate, check, validateAll_eq ss v path]

theorem validateProperties_eq : ∀ (ps : List (Property Shape)) (members : Members) (path : String),
    validateProperties ps members path = (checkProperties ps members).report path
  | [], _, _ => rfl
  | ⟨name, required, shape⟩ :: ps, members, path => by
    have ih := validateProperties_eq ps members path
    cases hlookup : members.lookup name with
    | some v =>
      simp only [validateProperties, checkProperties, hlookup]
      rw [Check.report_bind, Check.report_under, validate_eq shape, ih]
    | none =>
      simp only [validateProperties, checkProperties, hlookup]
      rw [Check.report_bind, ih]

theorem validateAdditional_rel : ∀ a : Additional Shape,
    Additional.Rel (fun validate check => ∀ v path, validate v path = (check v).report path)
      (validateAdditional a) (checkAdditional a)
  | .forbidden => .forbidden
  | .untyped => .untyped
  | .typed s => .typed (validate_eq s)

theorem validateElements_eq : ∀ (n : Nat) (ss : List Shape) (vs : List Value) (path : String),
    validateElements n ss vs path = (checkElements n ss vs).report path
  | _, [], _, _ | _, _ :: _, [], _ => rfl
  | n, s :: ss, v :: vs, path => by
    rw [validateElements, checkElements, Check.report_bind, Check.report_under, validate_eq s,
      validateElements_eq (n + 1) ss vs path]

theorem validatesSome_eq : ∀ (ss : List Shape) (v : Value) (path : String),
    validatesSome ss v path = acceptsSome ss v
  | [], _, _ => rfl
  | s :: ss, v, path => by
    rw [validatesSome, acceptsSome, validate_eq s, Check.isOk_report, validatesSome_eq ss v path]

theorem validateAll_eq : ∀ (ss : List Shape) (v : Value) (path : String),
    validateAll ss v path = (checkAll ss v).report path
  | [], _, _ => rfl
  | s :: ss, v, path => by
    rw [validateAll, checkAll, Check.report_bind, validate_eq s, validateAll_eq ss v path]

end

end Shape

end ContractInterface
