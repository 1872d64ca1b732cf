/-
The draft of a value in its written form, for reading a value like a text.
-/
import ContractInterface.Json.Decoding

namespace ContractInterface.Json

/-- The numeral that a number is written as. -/
def Number.numeral (n : Number) : Numeral :=
  match n.write with
  | '-' :: cs => (Numeral.scan true cs).1
  | cs => (Numeral.scan false cs).1

namespace Value

mutual

def draft : Value → Draft
  | .null => .word .null
  | .bool b => .word (.bool b)
  | .number n => .numeral n.numeral
  | .string s => .text s
  | .array items => .list (draftItems items) .closed
  | .object members => .object (draftMembers members) .closed
termination_by structural v => v

def draftItems : List Value → List Draft
  | [] => []
  | v :: rest => v.draft :: draftItems rest
termination_by structural vs => vs

def draftMembers : List (String × Value) → List (Key × Draft)
  | [] => []
  | (key, v) :: rest => (.text key, v.draft) :: draftMembers rest
termination_by structural ms => ms

end

end Value

/-- Decodes a value. -/
def Decoder.ofValue {α : Type} (decoder : Decoder α) (v : Value) : Except DecodeError α :=
  decoder (.whole .value) v.draft

end ContractInterface.Json
