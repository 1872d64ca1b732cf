/-
Formats of integers: `uint` or `int` and a width. Without a width the format has 64 bits; a width
other than those listed makes it no format of integers.
-/
import ContractInterface.Schema.Definitions

namespace ContractInterface

/-- A range of integers, with its ends. -/
structure IntegerRange where
  least : Int
  greatest : Int

namespace IntegerRange

def contains (r : IntegerRange) (n : Int) : Bool := decide (r.least ≤ n ∧ n ≤ r.greatest)

/-- The range of a number of bits. The greatest unsigned number of 128 bits is that of a signed
one. -/
def ofBits (signed : Bool) (bits : Nat) : IntegerRange :=
  let half : Int := Nat.pow 2 (bits - 1)
  if signed then ⟨-half, half - 1⟩
  else if bits = 128 then ⟨0, half - 1⟩
  else ⟨0, 2 * half - 1⟩

/-- A width in decimal digits; a plus sign and leading zeros do not matter. -/
def readWidth? (cs : List Char) : Option Nat :=
  let digits := match cs with
    | '+' :: rest => rest
    | cs => cs
  if digits.isEmpty || !digits.all Char.isDigit then none
  else
    let n := Nat.ofDigitChars 10 digits 0
    if [8, 16, 32, 64, 128].contains n then some n else none

/-- The range of a format, if it is one of integers. -/
def ofFormat? (format : String) : Option IntegerRange :=
  match afterStart? "uint".toList format.toList with
  | some [] => some (ofBits false 64)
  | some width => (readWidth? width).map (ofBits false)
  | none =>
    match afterStart? "int".toList format.toList with
    | some [] => some (ofBits true 64)
    | some width => (readWidth? width).map (ofBits true)
    | none => none

end IntegerRange

end ContractInterface
