/-
Rounding to binary64. A positive quotient is scaled into the binade that holds it (the lowest
binade at least), its significand is rounded half to even, and a carry into the next binade is a
step of the rank like any other.
-/
import ContractInterface.Double.Basic

namespace ContractInterface

/-- The integer nearest to `n / d`; a tie goes to the even one. -/
def roundHalfEven (n d : Nat) : Nat :=
  let q := n / d
  if 2 * (n % d) < d then q
  else if d < 2 * (n % d) then q + 1
  else q + q % 2

namespace Double

/-! ## Quotients -/

/-- The exponent of the binade of `n / d`, counted as the power of two that its significand is
multiplied by. -/
def binadePower (n d : Nat) : Int :=
  let e : Int := (n.log2 : Int) - d.log2 - 52
  -- `n / d` lies between `2 ^ (e + 51)` and `2 ^ (e + 53)`
  let below := n * Nat.pow 2 (-(e + 52)).toNat < d * Nat.pow 2 (e + 52).toNat
  max (if below then e - 1 else e) (-1074)

/-- The rank that `n / d` rounds to. It is beyond the last rank when the quotient is too large for
a finite number. -/
def roundedRank (n d : Nat) : Nat :=
  if n = 0 then 0
  else
    let e := binadePower n d
    (e + 1074).toNat * 4503599627370496 +
      roundHalfEven (n * Nat.pow 2 (-e).toNat) (d * Nat.pow 2 e.toNat)

/-- The number of a given sign and rank, if the rank is that of a finite number. -/
def ofRank? (negative : Bool) (rank : Nat) : Option Double :=
  if h : rank < 9218868437227405312 then some ⟨negative, ⟨rank, h⟩⟩ else none

/-- The finite number nearest to `± n / d`, ties to even. -/
def nearest (negative : Bool) (n d : Nat) : Double :=
  ⟨negative, ⟨min (roundedRank n d) 9218868437227405311, by omega⟩⟩

def ofNat (n : Nat) : Double := nearest false n 1

/-- The number nearest to an integer. -/
def ofInt (n : Int) : Double := nearest (decide (n < 0)) n.natAbs 1

/-! ## Decimals -/

/-- The number nearest to `± digits * 10 ^ exponent`, unless that is too large. Decimals far out of
range are told by their number of digits alone. -/
def ofDecimal? (negative : Bool) (digits : Nat) (exponent : Int) : Option Double :=
  let top : Int := (Nat.toDigits 10 digits).length + exponent
  if digits = 0 ∨ top < -325 then some (zero negative)
  else if 310 < top then none
  else ofRank? negative (roundedRank (digits * Nat.pow 10 exponent.toNat)
    (Nat.pow 10 (-exponent).toNat))

end Double

end ContractInterface
