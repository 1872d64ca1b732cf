/-
Why a draft is no value of the type that is asked for, and the words for it.
-/
import ContractInterface.Json.Reading
import ContractInterface.Text.Quoted

namespace ContractInterface.Json

/-- What stands in a place, told without looking into lists and objects. -/
inductive Found where
  | null
  | bool (b : Bool)
  | integer (i : Int)
  | double (x : Double)
  | text (s : String)
  | list
  | object

/-- What may stand in a place. -/
inductive Expected where
  | text
  | bool
  | word64
  | list
  | object
  /-- Nothing but null. -/
  | unit
  /-- The name of one of a few alternatives. -/
  | variant
  | record (name : String)
  /-- A record that names its alternative in one of its fields. -/
  | tagged (name : String)

inductive DecodeError where
  | fault (f : Fault)
  | kind (found : Found) (expected : Expected)
  /-- A negative integer where a natural number must stand. -/
  | negative (i : Int)
  | missingField (name : String)
  | duplicateField (name : String)
  | unknownVariant (name : String) (known : List String)
  /-- A list that ends before all fields of a record are given. -/
  | tooFew (given : Nat) (record : String) (fields : Nat)
  /-- A list inside a block that goes on after all fields are given. -/
  | tooMany (given fields : Nat)
  /-- A list value that goes on after all fields are given. -/
  | surplus (given : Nat)

def Found.words : Found → String
  | .null => "null"
  | .bool true => "boolean `true`"
  | .bool false => "boolean `false`"
  | .integer i => s!"integer `{i}`"
  | .double x => s!"floating point `{x.format .json}`"
  | .text s => s!"string {quoted s}"
  | .list => "sequence"
  | .object => "map"

def Expected.words : Expected → String
  | .text => "a string"
  | .bool => "a boolean"
  | .word64 => "u64"
  | .list => "a sequence"
  | .object => "a map"
  | .unit => "unit"
  | .variant => "variant identifier"
  | .record name => s!"struct {name}"
  | .tagged name => s!"internally tagged enum {name}"

/-- The alternatives, in words. -/
def oneOf (names : List String) : String :=
  let ticked := names.map fun name => s!"`{name}`"
  match ticked with
  | [a] => a
  | [a, b] => s!"{a} or {b}"
  | _ => "one of " ++ ", ".intercalate ticked

/-- A number of elements, in words. -/
def elementCount (n : Nat) : String := if n = 1 then "1 element" else s!"{n} elements"

def DecodeError.message : DecodeError → String
  | .fault f => f.message
  | .kind found expected => s!"invalid type: {found.words}, expected {expected.words}"
  | .negative i => s!"invalid value: integer `{i}`, expected {Expected.word64.words}"
  | .missingField name => s!"missing field `{name}`"
  | .duplicateField name => s!"duplicate field `{name}`"
  | .unknownVariant name known => s!"unknown variant `{name}`, expected {oneOf known}"
  | .tooFew given record fields =>
    s!"invalid length {given}, expected struct {record} with {elementCount fields}"
  | .tooMany given fields => s!"invalid length {given}, expected {elementCount fields} in sequence"
  | .surplus given => s!"invalid length {given}, expected fewer elements in array"

end ContractInterface.Json
