/-
Finite binary64 numbers by sign and rank. The rank of a magnitude is the number of non-negative
binary64 numbers below it, so that order is order of ranks; `significand` and `power` give the
exact value `significand * 2 ^ power`. There are 2047 binades of `2 ^ 52` = 4503599627370496 ranks
each, 9218868437227405312 ranks in all.
-/
namespace ContractInterface

/-- A finite binary64 number. -/
structure Double where
  negative : Bool
  rank : Fin 9218868437227405312
deriving DecidableEq

namespace Double

/-! ## Exact value -/

/-- The number of the binade: zero for the numbers below `2 ^ (-1022)`. -/
def binade (x : Double) : Nat := x.rank.val / 4503599627370496

def significand (x : Double) : Nat :=
  if x.binade = 0 then x.rank.val else 4503599627370496 + x.rank.val % 4503599627370496

def power (x : Double) : Int := (max x.binade 1 : Nat) - 1075

def zero (negative : Bool) : Double := ⟨negative, ⟨0, by decide⟩⟩

/-- The exact value as a quotient of an integer and a positive natural number. -/
def ratio (x : Double) : Int × Nat :=
  let m : Int := if x.negative then -x.significand else x.significand
  (m * Nat.pow 2 x.power.toNat, Nat.pow 2 (-x.power).toNat)

/-- The exact value, if it is an integer. -/
def toInt? (x : Double) : Option Int :=
  if x.ratio.1 % x.ratio.2 = 0 then some (x.ratio.1 / x.ratio.2) else none

/-! ## Order -/

/-- The rank with the sign of the number. Both zeros have key 0. -/
def key (x : Double) : Int := if x.negative then -x.rank.val else x.rank.val

/-- Numeric equality: the two zeros are equal. -/
def same (x y : Double) : Bool := x.key == y.key

def lt (x y : Double) : Bool := decide (x.key < y.key)

def le (x y : Double) : Bool := decide (x.key ≤ y.key)

theorem same_refl (x : Double) : x.same x = true := by simp [same]

theorem same_comm (x y : Double) : x.same y = y.same x := by simp [same, Bool.beq_comm]

end Double

end ContractInterface
