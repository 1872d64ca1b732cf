/-
The shortest decimal that reads back as a given binary64 number. On the grids of one, two, ...
seventeen significant digits the two neighbours of the value are tested against the interval of
reals that round to it; the first grid with a hit wins, and of two hits the nearer one. Which of two
equally near hits is taken is for the caller to say.
-/
import ContractInterface.Double.Rounding

namespace ContractInterface.Double

/-! ## The rounding interval -/

/-- Bounds of the reals that round to the number, as multiples of `2 ^ (power - 2)`. The lower
neighbour of a power of two is half as far away as the upper one. -/
def interval (x : Double) : Nat × Nat :=
  let m := x.significand
  (4 * m - (if m = 4503599627370496 ∧ 1 < x.binade then 1 else 2), 4 * m + 2)

/-- Compares `a * 10 ^ p` with `b * 2 ^ q`. -/
def compareDecimal (a : Nat) (p : Int) (b : Nat) (q : Int) : Ordering :=
  compare (a * Nat.pow 10 p.toNat * Nat.pow 2 (-q).toNat)
    (b * Nat.pow 2 q.toNat * Nat.pow 10 (-p).toNat)

/-- Whether `a * 10 ^ p` rounds to the magnitude of the number. The ends of the interval do so when
the significand is even. -/
def reads (x : Double) (a : Nat) (p : Int) : Bool :=
  let ends := x.significand % 2 == 0
  let low := compareDecimal a p x.interval.1 (x.power - 2)
  let high := compareDecimal a p x.interval.2 (x.power - 2)
  (low == .gt || (ends && low == .eq)) && (high == .lt || (ends && high == .eq))

/-! ## The search -/

/-- Which of two neighbours is taken for a value in the middle. -/
inductive Tie where
  | even
  | up

/-- Whether the lower neighbour is taken for a value in the middle. -/
def Tie.takesLower (tie : Tie) (lower : Nat) : Bool :=
  match tie with
  | .even => lower % 2 == 0
  | .up => false

/-- The decimal exponent of the leading digit. -/
def leadingPower (x : Double) : Int :=
  let n := x.significand * Nat.pow 2 x.power.toNat
  let d := Nat.pow 2 (-x.power).toNat
  if d ≤ n then (Nat.toDigits 10 (n / d)).length - 1
  else
    let k : Int := (Nat.toDigits 10 (d / n)).length
    -- `10 ^ (k - 1) ≤ d / n < 10 ^ k`, and the bound on the left may be met exactly
    if n * Nat.pow 10 (k - 1).toNat = d then 1 - k else -k

/-- The hit on the grid of multiples of `10 ^ p`, if there is one. -/
def hitOn (x : Double) (tie : Tie) (p : Int) : Option Nat :=
  let n := x.significand * Nat.pow 2 x.power.toNat * Nat.pow 10 (-p).toNat
  let d := Nat.pow 2 (-x.power).toNat * Nat.pow 10 p.toNat
  let low := n / d
  match x.reads low p, x.reads (low + 1) p with
  | true, true =>
    some (if 2 * (n % d) < d ∨ (2 * (n % d) = d ∧ tie.takesLower low) then low else low + 1)
  | true, false => some low
  | false, true => some (low + 1)
  | false, false => none

/-- The first hit on the grids with `k + 1`, `k + 2`, ... digits. -/
def search (x : Double) (tie : Tie) (leading : Int) : Nat → Nat → Option (Nat × Int)
  | 0, _ => none
  | fuel + 1, k =>
    match x.hitOn tie (leading - k) with
    | some c => some (c, leading - k)
    | none => x.search tie leading fuel (k + 1)

/-- Drops trailing zeros, at most `fuel` of them. -/
def dropZeros : Nat → Nat → Int → Nat × Int
  | 0, c, p => (c, p)
  | fuel + 1, c, p => if c % 10 = 0 then dropZeros fuel (c / 10) (p + 1) else (c, p)

/-- All digits of the magnitude, and their exponent. -/
def exactDecimal (x : Double) : Nat × Int :=
  (x.significand * Nat.pow 2 x.power.toNat * Nat.pow 5 (-x.power).toNat, -(-x.power).toNat)

/-- Digits and exponent of the shortest decimal `c * 10 ^ p` that reads back as the magnitude. Should
no grid have a hit, all digits read back too. -/
def shortest (x : Double) (tie : Tie) : Nat × Int :=
  if x.rank.val = 0 then (0, 0)
  else
    let (c, p) := (x.search tie x.leadingPower 17 0).getD x.exactDecimal
    dropZeros 17 c p

end ContractInterface.Double
