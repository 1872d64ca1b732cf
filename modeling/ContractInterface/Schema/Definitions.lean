/-
The table of named nodes that references point into, and the pointers to it.
-/
import ContractInterface.Schema.Node

namespace ContractInterface

open Json

/-! ## Pointers -/

/-- The text after a beginning, if it starts so. -/
def afterStart? : List Char → List Char → Option (List Char)
  | [], cs => some cs
  | _ :: _, [] => none
  | e :: expected, c :: cs => if c = e then afterStart? expected cs else none

/-- The name that a pointer into the table ends in. A name is not empty and has no slash. -/
def definitionName? (pointer : String) : Option String := do
  let name ← afterStart? "#/definitions/".toList pointer.toList <|>
    afterStart? "#/$defs/".toList pointer.toList
  if name.isEmpty ∨ name.contains '/' then none else return String.ofList name

/-! ## The table -/

/-- Nodes by name, in the order of the names. -/
structure Definitions where
  entries : List (String × Node)

namespace Definitions

/-- The nodes of raw schemas under distinct names. -/
def ofRaw (raw : Members) : Definitions :=
  ⟨(Value.orderMembers raw).map fun (name, schema) => (name, Node.ofValue schema)⟩

def empty : Definitions := ⟨[]⟩

def get? (d : Definitions) (name : String) : Option Node := d.entries.lookup name

def contains (d : Definitions) (name : String) : Bool := (d.get? name).isSome

def names (d : Definitions) : List String := d.entries.map Prod.fst

def size (d : Definitions) : Nat := d.entries.length

end Definitions

end ContractInterface
