/-
How a decimal is laid out as text: where positional notation ends, whether a whole number keeps a
fractional digit, and which of two equally near decimals is written. The two layouts of this library
differ in nothing else.
-/
import ContractInterface.Double.Shortest

namespace ContractInterface

/-- Layout of a binary64 number: `positional e` says whether a number whose leading digit stands
for `10 ^ e` is written without an exponent. -/
structure DecimalLayout where
  positional : Int → Bool
  /-- A whole number is written with `.0`. -/
  keepsPoint : Bool
  tie : Double.Tie

namespace DecimalLayout

/-- Layout of JSON text: positional from `10 ^ (-5)` up to `10 ^ 15`, always with a fraction. -/
def json : DecimalLayout := ⟨fun e => decide (-5 ≤ e ∧ e ≤ 15), true, .even⟩

/-- Layout of bounds: never an exponent, no needless point. -/
def plain : DecimalLayout := ⟨fun _ => true, false, .up⟩

/-! ## Writing -/

def zeros (n : Nat) : List Char := List.replicate n '0'

/-- `digits * 10 ^ p` without an exponent. -/
def writePositional (keepsPoint : Bool) (digits : List Char) (p : Int) : List Char :=
  let whole : Int := digits.length + p
  if 0 ≤ p then digits ++ zeros p.toNat ++ (if keepsPoint then ['.', '0'] else [])
  else if 0 < whole then digits.take whole.toNat ++ '.' :: digits.drop whole.toNat
  else '0' :: '.' :: (zeros (-whole).toNat ++ digits)

/-- One digit before the point, and the exponent with its sign. -/
def writeScientific (digits : List Char) (e : Int) : List Char :=
  let fraction := digits.drop 1
  digits.take 1 ++ (if fraction.isEmpty then [] else '.' :: fraction) ++
    'e' :: (if e < 0 then '-' else '+') :: Nat.toDigits 10 e.natAbs

def write (layout : DecimalLayout) (x : Double) : List Char :=
  let (c, p) := x.shortest layout.tie
  let digits := Nat.toDigits 10 c
  let e : Int := digits.length + p - 1
  let body := if layout.positional e then writePositional layout.keepsPoint digits p
    else writeScientific digits e
  if x.negative then '-' :: body else body

end DecimalLayout

/-- The text of a number in a layout. -/
def Double.format (x : Double) (layout : DecimalLayout) : String := String.ofList (layout.write x)

end ContractInterface
