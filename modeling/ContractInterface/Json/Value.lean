/-
JSON values. The members of an object keep their order; equality ignores it. Setting a key that is
present replaces its value in place.
-/
import ContractInterface.Json.Number

namespace ContractInterface.Json

inductive Value where
  | null
  | bool (b : Bool)
  | number (n : Number)
  | string (s : String)
  | array (items : List Value)
  | object (members : List (String × Value))

/-- Members of an object, in order. -/
abbrev Members := List (String × Value)

/-- Members with the key set to the value: in place if it is present, at the end otherwise. -/
def Members.set (members : Members) (key : String) (value : Value) : Members :=
  match members with
  | [] => [(key, value)]
  | (k, v) :: rest => if k = key then (k, value) :: rest else (k, v) :: Members.set rest key value

namespace Value

/-! ## Reading parts -/

/-- The member of an object under a key. -/
def get? : Value → String → Option Value
  | .object members, key => members.lookup key
  | _, _ => none

def asString? : Value → Option String
  | .string s => some s
  | _ => none

def asArray? : Value → Option (List Value)
  | .array items => some items
  | _ => none

def asObject? : Value → Option Members
  | .object members => some members
  | _ => none

def asNumber? : Value → Option Number
  | .number n => some n
  | _ => none

/-- The number as a natural of one machine word, if it is written as one. -/
def asNatural? : Value → Option Nat
  | .number (.natural n) => some n.toNat
  | _ => none

def isNull : Value → Bool
  | .null => true
  | _ => false

/-- Word for the kind of a value; numbers written as integers are told from the others. -/
def kind : Value → String
  | .null => "null"
  | .bool _ => "boolean"
  | .number (.double _) => "number"
  | .number _ => "integer"
  | .string _ => "string"
  | .array _ => "array"
  | .object _ => "object"

/-! ## Equality -/

mutual

/-- Equality of values. The order of members does not matter. -/
def same : Value → Value → Bool
  | .null, .null => true
  | .bool a, .bool b => a == b
  | .number a, .number b => a.same b
  | .string a, .string b => a == b
  | .array a, .array b => sameItems a b
  | .object a, .object b => a.length == b.length && sameMembers a b
  | _, _ => false
termination_by structural v => v

def sameItems : List Value → List Value → Bool
  | [], [] => true
  | x :: xs, y :: ys => x.same y && sameItems xs ys
  | _, _ => false
termination_by structural xs => xs

/-- Every member on the left has an equal one on the right. -/
def sameMembers : List (String × Value) → List (String × Value) → Bool
  | [], _ => true
  | (key, x) :: rest, others =>
    (match others.lookup key with
      | some y => x.same y
      | none => false) && sameMembers rest others
termination_by structural xs => xs

end

/-- The values without those that equal an earlier one. -/
def distinct (values : List Value) : List Value :=
  values.foldl (fun kept v => if kept.any (·.same v) then kept else kept ++ [v]) []

/-! ## Key order -/

/-- Members in the order of their keys, which is the order of code points. -/
def orderMembers (members : Members) : Members :=
  members.mergeSort fun a b => decide (a.1 ≤ b.1)

mutual

/-- The value with the members of every object in the order of their keys. -/
def ordered : Value → Value
  | .array items => .array (orderedItems items)
  | .object members => .object (orderMembers (orderedMembers members))
  | v => v
termination_by structural v => v

def orderedItems : List Value → List Value
  | [] => []
  | v :: rest => v.ordered :: orderedItems rest
termination_by structural vs => vs

def orderedMembers : List (String × Value) → List (String × Value)
  | [] => []
  | (key, v) :: rest => (key, v.ordered) :: orderedMembers rest
termination_by structural vs => vs

end

end Value

end ContractInterface.Json
