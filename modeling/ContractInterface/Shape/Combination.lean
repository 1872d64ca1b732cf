/-
How shapes combine: the alternatives of a type list into one shape, and the members of a conjunction
into one object and the rest.
-/
import ContractInterface.Shape.Basic

namespace ContractInterface.Shape

/-! ## Alternatives -/

/-- The shapes without those that equal an earlier one. -/
def distinct (shapes : List Shape) : List Shape :=
  shapes.foldl (fun kept s => if kept.any (·.same s) then kept else kept ++ [s]) []

/-- The shape of a type list. A single alternative stands for itself; none at all permits
everything. -/
def ofTypeList (shapes : List Shape) : Shape :=
  match distinct shapes with
  | [] => .any
  | [s] => s
  | alternatives => .union alternatives

/-- The shape of written alternatives. -/
def ofAlternatives : List Shape → Shape
  | [] => .any
  | alternatives => .union alternatives

/-! ## Conjunctions -/

mutual

/-- The parts of a conjunction in which the shape stands: its own members if it is one itself, and
nothing for a shape that permits everything. -/
def parts : Shape → List Shape
  | .any => []
  | .intersection members => partsOfAll members
  | s => [s]
termination_by structural s => s

def partsOfAll : List Shape → List Shape
  | [] => []
  | s :: rest => s.parts ++ partsOfAll rest
termination_by structural ss => ss

end

/-- Properties with a later one put in: in the place of an earlier one of its name, or at the
end. -/
def overlay (p : Property Shape) : List (Property Shape) → List (Property Shape)
  | [] => [p]
  | q :: rest => if q.name = p.name then p :: rest else q :: overlay p rest

def overlayAll (properties later : List (Property Shape)) : List (Property Shape) :=
  later.foldl (fun sofar p => overlay p sofar) properties

/-- The later policy, unless it is the one that nothing asks for. -/
def laterPolicy (earlier later : Additional Shape) : Additional Shape :=
  match later with
  | .untyped => earlier
  | policy => policy

/-- An object whose declarations are those of both, the later ones prevailing. -/
def mergeInto (sofar : Option Shape) (s : Shape) : Option Shape :=
  match sofar, s with
  | some (.object ps a), .object qs b => some (.object (overlayAll ps qs) (laterPolicy a b))
  | none, .object qs b => some (.object qs b)
  | sofar, _ => sofar

def isObject : Shape → Bool
  | .object .. => true
  | _ => false

/-- The shape of a conjunction: all objects merged into one that comes first, then the others. -/
def ofConjunction (members : List Shape) : Shape :=
  let parts := partsOfAll members
  match (parts.foldl mergeInto none).toList ++ parts.filter fun s => !s.isObject with
  | [] => .any
  | [s] => s
  | members => .intersection members

end ContractInterface.Shape
