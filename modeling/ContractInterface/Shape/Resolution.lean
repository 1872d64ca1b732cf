/-
Resolution: the shape of a node against a table of definitions. Nodes are resolved alike whatever
follows the references in them; `Resolver` follows each name at most once and remembers its shape,
and keeps the names that are being followed, so that a cycle is found when it closes.
-/
import ContractInterface.Schema.Definitions
import ContractInterface.Shape.Combination

namespace ContractInterface

open Json

/-! ## Errors -/

inductive ResolveError where
  /-- A pointer that leads to no definition. -/
  | unresolved (pointer : String)
  /-- The names of a cycle; the first one stands at the end again. -/
  | cyclic (chain : List String)
deriving DecidableEq

def ResolveError.message : ResolveError → String
  | .unresolved pointer => s!"unresolved reference: '{pointer}' not found in definitions"
  | .cyclic chain => "cyclic reference: " ++ " -> ".intercalate chain

/-! ## Nodes -/

def Primitive.shape (p : Primitive) (c : Constraints) : Shape :=
  match p with
  | .string => .string c
  | .integer | .number => .number c
  | .boolean => .bool
  | .null => .null

namespace Node

variable {m : Type → Type} [Monad m]

mutual

/-- The shape of a node, where `follow` gives the shapes of pointers. Parts are resolved in the
order in which they stand. -/
def resolveWith (follow : String → m Shape) : Node → m Shape
  | .reference pointer => follow pointer
  | .constant v => return .literal v
  | .enumeration vs => return .enum (Value.distinct vs)
  | .intersection members => return .ofConjunction (← resolveAll follow members)
  | .typeList alternatives => return .ofTypeList (← resolveAll follow alternatives)
  | .object properties required additional => do
    let properties ← resolveProperties follow required properties
    return .object properties (← resolveAdditional follow additional)
  | .tuple elements => return .tuple (← resolveAll follow elements)
  | .list none c => return .list .any c
  | .list (some items) c => return .list (← resolveWith follow items) c
  | .primitive p c => return p.shape c
  | .union alternatives => return .ofAlternatives (← resolveAll follow alternatives)
  | .unknown => return .any
termination_by structural n => n

def resolveAll (follow : String → m Shape) : List Node → m (List Shape)
  | [] => return []
  | n :: rest => do
    let s ← resolveWith follow n
    return s :: (← resolveAll follow rest)
termination_by structural ns => ns

/-- A property is required if it is listed, or if there is no list. -/
def resolveProperties (follow : String → m Shape) (required : Option (List String)) :
    List (String × Node) → m (List (Property Shape))
  | [] => return []
  | (name, n) :: rest => do
    let s ← resolveWith follow n
    return ⟨name, required.all (·.contains name), s⟩ :: (← resolveProperties follow required rest)
termination_by structural ps => ps

def resolveAdditional (follow : String → m Shape) : Additional Node → m (Additional Shape)
  | .forbidden => return .forbidden
  | .untyped => return .untyped
  | .typed n => return .typed (← resolveWith follow n)
termination_by structural a => a

end

end Node

/-! ## The resolver -/

/-- The shapes of names that have been followed, and the names that are being followed, outermost
first. -/
structure Resolver where
  resolved : List (String × Shape)
  visiting : List String

/-- A computation that may fail and keeps the resolver in either case. -/
abbrev ResolveM := EStateM ResolveError Resolver

namespace Resolver

def empty : Resolver := ⟨[], []⟩

/-- Begins to follow a name. -/
def enter (r : Resolver) (name : String) : Resolver := { r with visiting := r.visiting ++ [name] }

/-- Ends following the name begun last. -/
def leave (r : Resolver) : Resolver := { r with visiting := r.visiting.dropLast }

def remember (r : Resolver) (name : String) (s : Shape) : Resolver :=
  { r with resolved := (name, s) :: r.resolved }

/-- The cycle that a name closes: the names followed since its first mention, and itself. -/
def cycle (r : Resolver) (name : String) : List String :=
  r.visiting.dropWhile (· ≠ name) ++ [name]

/-- The shape of a pointer. At most `depth` names are followed inside each other; as they differ
and stand in the table, its size is enough. -/
def follow (d : Definitions) (depth : Nat) (pointer : String) : ResolveM Shape := fun r =>
  match definitionName? pointer with
  | none => .error (.unresolved pointer) r
  | some name =>
    match d.get? name with
    | none => .error (.unresolved pointer) r
    | some target =>
      match r.resolved.lookup name with
      | some s => .ok s r
      | none =>
        if r.visiting.contains name then .error (.cyclic (r.cycle name)) r
        else
          match depth with
          | 0 => .error (.cyclic (r.cycle name)) r
          | depth + 1 =>
            match target.resolveWith (follow d depth) (r.enter name) with
            | .ok s r => .ok s (r.leave.remember name s)
            | .error e r => .error e r.leave

/-- Resolves a node, starting from what the resolver remembers. -/
def resolve (d : Definitions) (n : Node) : ResolveM Shape := n.resolveWith (follow d d.size)

end Resolver

/-- The shape of a node, resolved by a resolver of its own. -/
def resolve (d : Definitions) (n : Node) : Except ResolveError Shape :=
  match Resolver.resolve d n .empty with
  | .ok s _ => .ok s
  | .error e _ => .error e

end ContractInterface
