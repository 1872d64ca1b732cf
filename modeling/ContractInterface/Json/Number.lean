/-
Numbers of JSON text in the three kinds that their spelling tells apart: natural numbers and
negative integers of one machine word, and doubles for everything else. Equality never crosses
kinds, though the exact values may agree.
-/
import ContractInterface.Double.Layout

namespace ContractInterface.Json

inductive Number where
  | natural (n : UInt64)
  /-- The integer `-(n + 1)`. -/
  | negative (n : Fin 9223372036854775808)
  | double (x : Double)
deriving DecidableEq

namespace Number

/-- Equality of numbers: within a kind, by value. -/
def same : Number → Number → Bool
  | .natural m, .natural n => m == n
  | .negative m, .negative n => m == n
  | .double x, .double y => x.same y
  | _, _ => false

/-- The value, if it is an integer. -/
def toInt? : Number → Option Int
  | .natural n => some n.toNat
  | .negative n => some (-(n.val + 1 : Int))
  | .double x => x.toInt?

/-- The nearest double. -/
def toDouble : Number → Double
  | .natural n => Double.ofNat n.toNat
  | .negative n => Double.ofInt (-(n.val + 1 : Int))
  | .double x => x

/-- The integer literal of a number, as JSON text keeps it: a kind of its own below `2 ^ 64` and
down to `-2 ^ 63`, the nearest double outside, and for `-0` the negative zero. -/
def ofInteger? (negative : Bool) (n : Nat) : Option Number :=
  if negative then
    if h : 0 < n ∧ n ≤ 9223372036854775808 then some (.negative ⟨n - 1, by omega⟩)
    else (Double.ofDecimal? true n 0).map .double
  else if n < UInt64.size then some (.natural (UInt64.ofNat n))
  else (Double.ofDecimal? false n 0).map .double

/-- JSON text of a number. -/
def write : Number → List Char
  | .natural n => Nat.toDigits 10 n.toNat
  | .negative n => '-' :: Nat.toDigits 10 (n.val + 1)
  | .double x => DecimalLayout.json.write x

theorem same_refl (a : Number) : a.same a = true := by
  cases a <;> simp [same, Double.same_refl]

theorem same_comm (a b : Number) : a.same b = b.same a := by
  cases a <;> cases b <;> simp [same, Double.same_comm, Bool.beq_comm]

end Number

end ContractInterface.Json
