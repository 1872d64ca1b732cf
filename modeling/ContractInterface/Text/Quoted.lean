/-
Quoted text for diagnostics: the quote mark, the backslash and the usual controls are written with
a backslash, other characters without a glyph of their own by their number.
-/
import ContractInterface.Unicode.Classes

namespace ContractInterface

/-- A character between quote marks. -/
def quoteChar (mark c : Char) : List Char :=
  match c with
  | '\x00' => ['\\', '0']
  | '\t' => ['\\', 't']
  | '\n' => ['\\', 'n']
  | '\r' => ['\\', 'r']
  | '\\' => ['\\', '\\']
  | c =>
    if c = mark then ['\\', mark]
    else if 0x20 ≤ c.toNat ∧ c.toNat < 0x7F then [c]
    else if Unicode.unprintable.contains c.toNat then
      ['\\', 'u', '\x7b'] ++ Nat.toDigits 16 c.toNat ++ ['\x7d']
    else [c]

/-- A text in double quotes. -/
def quoted (s : String) : String :=
  String.ofList ('"' :: (s.toList.flatMap (quoteChar '"') ++ ['"']))

/-- A character in single quotes. -/
def quotedChar (c : Char) : String := String.ofList ('\'' :: (quoteChar '\'' c ++ ['\'']))

end ContractInterface
