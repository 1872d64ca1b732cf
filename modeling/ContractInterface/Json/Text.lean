/-
Compact JSON text of a value: no blanks, members in their order, and in strings only the quote, the
backslash and the control characters below U+0020 escaped.
-/
import ContractInterface.Json.Value

namespace ContractInterface.Json

/-! ## Strings -/

/-- A character inside a JSON string. -/
def escapeChar (c : Char) : List Char :=
  match c with
  | '"' => ['\\', '"']
  | '\\' => ['\\', '\\']
  | '\x08' => ['\\', 'b']
  | '\x0c' => ['\\', 'f']
  | '\n' => ['\\', 'n']
  | '\r' => ['\\', 'r']
  | '\t' => ['\\', 't']
  | c =>
    if c.toNat < 0x20 then
      ['\\', 'u', '0', '0', Nat.digitChar (c.toNat / 16), Nat.digitChar (c.toNat % 16)]
    else [c]

def writeString (s : String) : List Char :=
  '"' :: (s.toList.flatMap escapeChar ++ ['"'])

/-! ## Values -/

/-- Parts with commas between them. -/
def commaSeparated : List (List Char) → List Char
  | [] => []
  | [part] => part
  | part :: rest => part ++ ',' :: commaSeparated rest

namespace Value

mutual

/-- The characters of the compact text. -/
def write : Value → List Char
  | .null => ['n', 'u', 'l', 'l']
  | .bool true => ['t', 'r', 'u', 'e']
  | .bool false => ['f', 'a', 'l', 's', 'e']
  | .number n => n.write
  | .string s => writeString s
  | .array items => '[' :: (commaSeparated (writeItems items) ++ [']'])
  | .object members => '\x7b' :: (commaSeparated (writeMembers members) ++ ['\x7d'])
termination_by structural v => v

def writeItems : List Value → List (List Char)
  | [] => []
  | v :: rest => v.write :: writeItems rest
termination_by structural vs => vs

def writeMembers : List (String × Value) → List (List Char)
  | [] => []
  | (key, v) :: rest => (writeString key ++ ':' :: v.write) :: writeMembers rest
termination_by structural vs => vs

end

/-- Compact JSON text. -/
def text (v : Value) : String := String.ofList v.write

end Value

end ContractInterface.Json
