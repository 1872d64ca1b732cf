/-
What rounds to a finite double. A positive rational between the ends of the rounding interval of a
number is rounded to it (`Double.roundedRank_eq_of_covers`); the ends count where the significand is
even. So does a decimal whose value lies there (`Double.ofDecimal?_eq_of_covers`), whatever its digits
and its exponent are.
-/
import ContractInterface.Double.Shortest
import Mathlib.Algebra.Order.Field.Power
import Mathlib.Data.Int.Log
import Mathlib.Data.Rat.Floor
import Mathlib.Tactic.FieldSimp
import Mathlib.Tactic.Linarith
import Mathlib.Tactic.NormNum
import Mathlib.Tactic.Positivity
import Mathlib.Tactic.Ring

namespace ContractInterface

/-! ## Rounding to an integer -/

/-- A rational that rounds half to even to an integer. -/
def Near (m : ℕ) (r : ℚ) : Prop :=
  ((m : ℚ) - 1 / 2 < r ∨ m % 2 = 0 ∧ (m : ℚ) - 1 / 2 = r) ∧
    (r < m + 1 / 2 ∨ m % 2 = 0 ∧ r = m + 1 / 2)

theorem roundHalfEven_eq_of_near {n d m : ℕ} (hd : 0 < d) (h : Near m ((n : ℚ) / d)) :
    roundHalfEven n d = m := by
  have hdq : (0 : ℚ) < d := by exact_mod_cast hd
  -- both ends in multiples of half the denominator
  have hlow : 2 * m * d < 2 * n + d ∨ m % 2 = 0 ∧ 2 * m * d = 2 * n + d := by
    rcases h.1 with hlt | ⟨heven, heq⟩
    · rw [lt_div_iff₀ hdq] at hlt
      have : (2 * m * d : ℚ) < 2 * n + d := by linarith
      exact .inl (by exact_mod_cast this)
    · rw [eq_div_iff hdq.ne'] at heq
      have : (2 * m * d : ℚ) = 2 * n + d := by linarith
      exact .inr ⟨heven, by exact_mod_cast this⟩
  have hhigh : 2 * n < 2 * m * d + d ∨ m % 2 = 0 ∧ 2 * n = 2 * m * d + d := by
    rcases h.2 with hlt | ⟨heven, heq⟩
    · rw [div_lt_iff₀ hdq] at hlt
      have : (2 * n : ℚ) < 2 * m * d + d := by linarith
      exact .inl (by exact_mod_cast this)
    · rw [div_eq_iff hdq.ne'] at heq
      have : (2 * n : ℚ) = 2 * m * d + d := by linarith
      exact .inr ⟨heven, by exact_mod_cast this⟩
  have hsplit : n = d * (n / d) + n % d := (Nat.div_add_mod n d).symm
  have hmod : n % d < d := Nat.mod_lt n hd
  unfold roundHalfEven
  generalize n / d = q at hsplit ⊢
  generalize n % d = r at hsplit hmod ⊢
  subst hsplit
  -- the quotient is the integer or the one below it
  have hq : q = m ∨ q + 1 = m := by
    rcases Nat.lt_trichotomy q m with hlt | heq | hgt
    · right
      by_contra hne
      have hle : q + 2 ≤ m := by omega
      have : d * (q + 2) ≤ d * m := Nat.mul_le_mul_left d hle
      have hmd : 2 * m * d = 2 * (d * m) := by ring
      have hsum : d * (q + 2) = d * q + 2 * d := by ring
      omega
    · exact .inl heq
    · exfalso
      have : d * (m + 1) ≤ d * q := Nat.mul_le_mul_left d hgt
      have hmd : 2 * m * d = 2 * (d * m) := by ring
      have hsum : d * (m + 1) = d * m + d := by ring
      omega
  rcases hq with rfl | rfl
  · have hmd : 2 * q * d = 2 * (d * q) := by ring
    dsimp only
    split_ifs <;> omega
  · have hmd : 2 * (q + 1) * d = 2 * (d * q) + 2 * d := by ring
    dsimp only
    split_ifs <;> omega

/-! ## Binades -/

namespace Double

theorem natLog2_spec {n : ℕ} (hn : 0 < n) :
    (2 : ℚ) ^ (n.log2 : ℤ) ≤ n ∧ (n : ℚ) < (2 : ℚ) ^ ((n.log2 : ℤ) + 1) := by
  have hlow : 2 ^ n.log2 ≤ n := Nat.log2_self_le hn.ne'
  have hhigh : n < 2 ^ (n.log2 + 1) := Nat.lt_log2_self
  constructor
  · rw [zpow_natCast]
    exact_mod_cast hlow
  · have hcast : ((n.log2 : ℤ) + 1) = ((n.log2 + 1 : ℕ) : ℤ) := by push_cast; rfl
    rw [hcast, zpow_natCast]
    exact_mod_cast hhigh

/-- A comparison of naturals across a denominator, as one of rationals. -/
theorem mul_pow_lt_iff (a b : ℕ) (hb : 0 < b) (e : ℤ) :
    a * Nat.pow 2 (-e).toNat < b * Nat.pow 2 e.toNat ↔ (a : ℚ) / b < (2 : ℚ) ^ e := by
  have hbq : (0 : ℚ) < b := by exact_mod_cast hb
  have hpow : (2 : ℚ) ^ e.toNat = (2 : ℚ) ^ e * (2 : ℚ) ^ (-e).toNat := by
    rw [← zpow_natCast, ← zpow_natCast, ← zpow_add₀ (by norm_num)]
    congr 1
    omega
  have hpos : (0 : ℚ) < (2 : ℚ) ^ (-e).toNat := by positivity
  rw [div_lt_iff₀ hbq]
  have hcast : a * Nat.pow 2 (-e).toNat < b * Nat.pow 2 e.toNat ↔
      (a : ℚ) * (2 : ℚ) ^ (-e).toNat < (b : ℚ) * (2 : ℚ) ^ e.toNat := by
    exact_mod_cast Iff.rfl
  rw [hcast, hpow, ← mul_assoc, mul_lt_mul_iff_left₀ hpos, mul_comm]

/-- The lengths of a numerator and a denominator tell the binade of a quotient, up to one. -/
theorem quotient_bounds {n d : ℕ} (hn : 0 < n) (hd : 0 < d) :
    (2 : ℚ) ^ ((n.log2 : ℤ) - d.log2 - 1) < (n : ℚ) / d ∧
      (n : ℚ) / d < (2 : ℚ) ^ ((n.log2 : ℤ) - d.log2 + 1) := by
  have hdq : (0 : ℚ) < d := by exact_mod_cast hd
  obtain ⟨hn1, hn2⟩ := natLog2_spec hn
  obtain ⟨hd1, hd2⟩ := natLog2_spec hd
  constructor
  · rw [lt_div_iff₀ hdq]
    calc (2 : ℚ) ^ ((n.log2 : ℤ) - d.log2 - 1) * d
        < (2 : ℚ) ^ ((n.log2 : ℤ) - d.log2 - 1) * (2 : ℚ) ^ ((d.log2 : ℤ) + 1) := by gcongr
      _ = (2 : ℚ) ^ (n.log2 : ℤ) := by
        rw [← zpow_add₀ (by norm_num)]
        congr 1
        ring
      _ ≤ n := hn1
  · rw [div_lt_iff₀ hdq]
    calc (n : ℚ) < (2 : ℚ) ^ ((n.log2 : ℤ) + 1) := hn2
      _ = (2 : ℚ) ^ ((n.log2 : ℤ) - d.log2 + 1) * (2 : ℚ) ^ (d.log2 : ℤ) := by
        rw [← zpow_add₀ (by norm_num)]
        congr 1
        ring
      _ ≤ (2 : ℚ) ^ ((n.log2 : ℤ) - d.log2 + 1) * d := by gcongr

/-- The exponent that a quotient is scaled by is that of its binade, or of the lowest one. -/
theorem binadePower_eq {n d : ℕ} (hn : 0 < n) (hd : 0 < d) :
    binadePower n d = max (Int.log 2 ((n : ℚ) / d) - 52) (-1074) := by
  have hnq : (0 : ℚ) < n := by exact_mod_cast hn
  have hr : (0 : ℚ) < (n : ℚ) / d := div_pos hnq (by exact_mod_cast hd)
  obtain ⟨hlow, hhigh⟩ := quotient_bounds hn hd
  have hbelow := mul_pow_lt_iff n d hd ((n.log2 : ℤ) - d.log2)
  have hexp : (n.log2 : ℤ) - d.log2 - 52 + 52 = (n.log2 : ℤ) - d.log2 := by ring
  unfold binadePower
  simp only [hexp]
  congr 1
  -- the comparison settles which of the two binades it is
  by_cases hlt : (n : ℚ) / d < (2 : ℚ) ^ ((n.log2 : ℤ) - d.log2)
  · rw [if_pos (hbelow.2 hlt)]
    have hle : (n.log2 : ℤ) - d.log2 - 1 ≤ Int.log 2 ((n : ℚ) / d) :=
      (Int.zpow_le_iff_le_log (b := 2) (by decide) hr).1 (by exact_mod_cast hlow.le)
    have hge : Int.log 2 ((n : ℚ) / d) < (n.log2 : ℤ) - d.log2 :=
      (Int.lt_zpow_iff_log_lt (b := 2) (by decide) hr).1 (by exact_mod_cast hlt)
    omega
  · rw [if_neg fun h => hlt (hbelow.1 h)]
    have hle : (n.log2 : ℤ) - d.log2 ≤ Int.log 2 ((n : ℚ) / d) :=
      (Int.zpow_le_iff_le_log (b := 2) (by decide) hr).1 (by exact_mod_cast not_lt.1 hlt)
    have hge : Int.log 2 ((n : ℚ) / d) < (n.log2 : ℤ) - d.log2 + 1 :=
      (Int.lt_zpow_iff_log_lt (b := 2) (by decide) hr).1 (by exact_mod_cast hhigh)
    omega

/-! ## Significand and power -/

variable {x : Double}

theorem rank_eq (x : Double) :
    (x.rank.val : ℤ) = (x.power + 1074) * 4503599627370496 + x.significand := by
  unfold power significand binade
  split_ifs with h
  · rw [h]
    norm_num
  · push_cast
    omega

theorem power_bounds (x : Double) : -1074 ≤ x.power ∧ x.power ≤ 971 := by
  have hrank := x.rank.isLt
  unfold power binade
  omega

theorem significand_lt (x : Double) : x.significand < 9007199254740992 := by
  unfold significand binade
  split_ifs <;> omega

/-- Above the lowest binade the leading bit is set. -/
theorem le_significand (h : -1074 < x.power) : 4503599627370496 ≤ x.significand := by
  unfold power binade at h
  unfold significand binade
  rw [if_neg (by omega)]
  omega

theorem one_lt_binade_iff (x : Double) : 1 < x.binade ↔ -1074 < x.power := by
  unfold power
  omega

theorem significand_pos (hx : x.rank.val ≠ 0) : 0 < x.significand := by
  unfold significand binade
  split_ifs <;> omega

/-! ## The rounding interval -/

/-- The rationals of the rounding interval, in terms of which its ends are multiples. -/
def Covers (x : Double) (r : ℚ) : Prop :=
  ((x.interval.1 : ℚ) * (2 : ℚ) ^ (x.power - 2) < r ∨
      x.significand % 2 = 0 ∧ (x.interval.1 : ℚ) * (2 : ℚ) ^ (x.power - 2) = r) ∧
    (r < (x.interval.2 : ℚ) * (2 : ℚ) ^ (x.power - 2) ∨
      x.significand % 2 = 0 ∧ r = (x.interval.2 : ℚ) * (2 : ℚ) ^ (x.power - 2))

theorem two_zpow_pos (e : ℤ) : (0 : ℚ) < (2 : ℚ) ^ e := zpow_pos (by norm_num) e

/-- The lower end of the interval, in quarters below the significand. -/
theorem interval_fst (hx : x.rank.val ≠ 0) : (x.interval.1 : ℚ) = 4 * x.significand -
    if x.significand = 4503599627370496 ∧ -1074 < x.power then 1 else 2 := by
  have hpos := significand_pos hx
  unfold interval
  simp only [one_lt_binade_iff]
  split_ifs
  · rw [Nat.cast_sub (by omega)]
    push_cast
    rfl
  · rw [Nat.cast_sub (by omega)]
    push_cast
    rfl

/-- The interval in units of the last place. -/
theorem covers_iff (hx : x.rank.val ≠ 0) (r : ℚ) :
    let low : ℚ := x.significand -
      if x.significand = 4503599627370496 ∧ -1074 < x.power then 1 / 4 else 1 / 2
    x.Covers r ↔
      (low < r / (2 : ℚ) ^ x.power ∨ x.significand % 2 = 0 ∧ low = r / (2 : ℚ) ^ x.power) ∧
        (r / (2 : ℚ) ^ x.power < x.significand + 1 / 2 ∨
          x.significand % 2 = 0 ∧ r / (2 : ℚ) ^ x.power = x.significand + 1 / 2) := by
  intro low
  have hpos := two_zpow_pos x.power
  have hquarter : (2 : ℚ) ^ (x.power - 2) = (2 : ℚ) ^ x.power / 4 := by
    rw [zpow_sub₀ (by norm_num)]
    norm_num
  have hlow : (x.interval.1 : ℚ) * (2 : ℚ) ^ (x.power - 2) = low * (2 : ℚ) ^ x.power := by
    rw [interval_fst hx, hquarter]
    simp only [low]
    split_ifs <;> ring
  have hhigh : (x.interval.2 : ℚ) * (2 : ℚ) ^ (x.power - 2) =
      (x.significand + 1 / 2) * (2 : ℚ) ^ x.power := by
    have hcast : (x.interval.2 : ℚ) = 4 * x.significand + 2 := by
      unfold interval
      push_cast
      rfl
    rw [hcast, hquarter]
    ring
  unfold Covers
  rw [hlow, hhigh, lt_div_iff₀ hpos, eq_div_iff hpos.ne', div_lt_iff₀ hpos, div_eq_iff hpos.ne']

theorem Covers.pos (hx : x.rank.val ≠ 0) {r : ℚ} (h : x.Covers r) : 0 < r := by
  have hpos := two_zpow_pos x.power
  have hsig : (1 : ℚ) ≤ x.significand := by exact_mod_cast significand_pos hx
  have hscaled : 0 < r / (2 : ℚ) ^ x.power := by
    rcases ((covers_iff hx r).1 h).1 with hlt | ⟨-, heq⟩
    · split_ifs at hlt <;> linarith
    · split_ifs at heq <;> linarith
  exact (div_pos_iff_of_pos_right hpos).1 hscaled

/-! ## Rounding a quotient -/

/-- A power of two is one of natural exponent over another. -/
theorem two_pow_toNat (e : ℤ) : (2 : ℚ) ^ e.toNat = (2 : ℚ) ^ e * (2 : ℚ) ^ (-e).toNat := by
  rw [← zpow_natCast, ← zpow_natCast, ← zpow_add₀ (by norm_num)]
  congr 1
  omega

theorem div_scaled (n d : ℕ) (e : ℤ) :
    ((n * Nat.pow 2 (-e).toNat : ℕ) : ℚ) / ((d * Nat.pow 2 e.toNat : ℕ) : ℚ) =
      (n : ℚ) / d / (2 : ℚ) ^ e := by
  have hcast : ((n * Nat.pow 2 (-e).toNat : ℕ) : ℚ) = n * (2 : ℚ) ^ (-e).toNat := by
    push_cast [Nat.pow_eq]
    rfl
  have hcast' : ((d * Nat.pow 2 e.toNat : ℕ) : ℚ) = d * (2 : ℚ) ^ e.toNat := by
    push_cast [Nat.pow_eq]
    rfl
  rw [hcast, hcast', two_pow_toNat e, ← mul_assoc, mul_div_mul_right _ _ (by positivity), div_div]

/-- In the binade of the number, what its interval holds rounds to its significand. -/
theorem Covers.near (hx : x.rank.val ≠ 0) {r : ℚ} (h : x.Covers r) :
    Near x.significand (r / (2 : ℚ) ^ x.power) := by
  obtain ⟨hlow, hhigh⟩ := (covers_iff hx r).1 h
  refine ⟨?_, hhigh⟩
  rcases hlow with hlt | ⟨heven, heq⟩
  · split_ifs at hlt
    · exact .inl (by linarith)
    · exact .inl hlt
  · split_ifs at heq
    · exact .inl (by linarith)
    · exact .inr ⟨heven, heq⟩

/-- The interval does not reach into the binade above. -/
theorem Covers.log_lt (hx : x.rank.val ≠ 0) {r : ℚ} (h : x.Covers r) :
    Int.log 2 r < x.power + 53 := by
  have hsig : (x.significand : ℚ) + 1 ≤ 9007199254740992 := by exact_mod_cast x.significand_lt
  have hunit := two_zpow_pos x.power
  have hle : r / (2 : ℚ) ^ x.power ≤ x.significand + 1 / 2 := by
    rcases (h.near hx).2 with hlt | ⟨-, heq⟩
    · exact hlt.le
    · exact heq.le
  rw [div_le_iff₀ hunit] at hle
  refine (Int.lt_zpow_iff_log_lt (b := 2) (by decide) (h.pos hx)).1 ?_
  calc r ≤ (x.significand + 1 / 2) * (2 : ℚ) ^ x.power := hle
    _ < 9007199254740992 * (2 : ℚ) ^ x.power := by
      gcongr
      linarith
    _ = ((2 : ℕ) : ℚ) ^ (x.power + 53) := by
      push_cast
      rw [zpow_add₀ (by norm_num), mul_comm]
      norm_num

/-- It reaches into the binade below only under a power of two, and no further than a quarter of a
unit. -/
theorem Covers.of_log_lt (hx : x.rank.val ≠ 0) {r : ℚ} (h : x.Covers r)
    (hnormal : -1074 < x.power) (hlog : Int.log 2 r < x.power + 52) :
    x.significand = 4503599627370496 ∧ 4503599627370496 - 1 / 4 ≤ r / (2 : ℚ) ^ x.power ∧
      r / (2 : ℚ) ^ x.power < 4503599627370496 := by
  have hunit := two_zpow_pos x.power
  have hbelow : r / (2 : ℚ) ^ x.power < 4503599627370496 := by
    have hlt := (Int.lt_zpow_iff_log_lt (b := 2) (by decide) (h.pos hx)).2 hlog
    rw [div_lt_iff₀ hunit]
    calc r < ((2 : ℕ) : ℚ) ^ (x.power + 52) := hlt
      _ = 4503599627370496 * (2 : ℚ) ^ x.power := by
        push_cast
        rw [zpow_add₀ (by norm_num), mul_comm]
        norm_num
  have hlow := ((covers_iff hx r).1 h).1
  have hbig := le_significand hnormal
  have hmin : x.significand = 4503599627370496 := by
    by_contra hne
    have hone : (4503599627370497 : ℚ) ≤ x.significand := by
      exact_mod_cast (show 4503599627370497 ≤ x.significand by omega)
    rw [if_neg fun h => hne h.1] at hlow
    rcases hlow with hlt | ⟨-, heq⟩ <;> linarith
  rw [if_pos ⟨hmin, hnormal⟩, hmin] at hlow
  refine ⟨hmin, ?_, hbelow⟩
  rcases hlow with hlt | ⟨-, heq⟩
  · exact_mod_cast hlt.le
  · exact_mod_cast heq.le

/-- Just below a power of two the binade is finer by one half; the interval ends in its last quarter. -/
theorem near_finer {r : ℚ} (hquarter : 4503599627370496 - 1 / 4 ≤ r / (2 : ℚ) ^ x.power)
    (hbelow : r / (2 : ℚ) ^ x.power < 4503599627370496) :
    Near 9007199254740992 (r / (2 : ℚ) ^ (x.power - 1)) := by
  have hhalf : r / (2 : ℚ) ^ (x.power - 1) = 2 * (r / (2 : ℚ) ^ x.power) := by
    rw [zpow_sub₀ (by norm_num), zpow_one]
    field_simp
  rw [hhalf]
  refine ⟨?_, .inl (by push_cast; linarith)⟩
  rcases lt_or_eq_of_le hquarter with hlt | heq
  · exact .inl (by push_cast; linarith)
  · exact .inr ⟨by norm_num, by push_cast; linarith⟩

theorem le_log_of_quarter {r : ℚ} (hr : 0 < r)
    (hquarter : 4503599627370496 - 1 / 4 ≤ r / (2 : ℚ) ^ x.power) : x.power + 51 ≤ Int.log 2 r := by
  refine (Int.zpow_le_iff_le_log (b := 2) (by decide) hr).1 ?_
  have hunit := two_zpow_pos x.power
  calc ((2 : ℕ) : ℚ) ^ (x.power + 51) = 2251799813685248 * (2 : ℚ) ^ x.power := by
        push_cast
        rw [zpow_add₀ (by norm_num), mul_comm]
        norm_num
    _ ≤ (4503599627370496 - 1 / 4) * (2 : ℚ) ^ x.power := by
      gcongr
      norm_num
    _ ≤ r := (le_div_iff₀ hunit).1 hquarter

/-- What lies in the rounding interval of a number is rounded to it. -/
theorem roundedRank_eq_of_covers (hx : x.rank.val ≠ 0) {n d : ℕ} (hd : 0 < d)
    (h : x.Covers ((n : ℚ) / d)) : roundedRank n d = x.rank.val := by
  have hr : (0 : ℚ) < (n : ℚ) / d := h.pos hx
  have hn : 0 < n := by
    rcases Nat.eq_zero_or_pos n with rfl | hn
    · simp at hr
    · exact hn
  have hupper := h.log_lt hx
  obtain ⟨hpower, -⟩ := x.power_bounds
  have hrank := x.rank_eq
  unfold roundedRank
  rw [if_neg hn.ne', binadePower_eq hn hd]
  generalize hE : max (Int.log 2 ((n : ℚ) / d) - 52) (-1074) = e
  have hden : 0 < d * Nat.pow 2 e.toNat := Nat.mul_pos hd (Nat.pow_pos (by norm_num))
  dsimp only
  rcases lt_or_eq_of_le (show e ≤ x.power by omega) with hlt | rfl
  · -- the binade of the quotient is the one below that of the number
    obtain ⟨hmin, hquarter, hbelow⟩ := h.of_log_lt hx (by omega) (by omega)
    have hlower := le_log_of_quarter hr hquarter
    obtain rfl : e = x.power - 1 := by omega
    have hnear := near_finer hquarter hbelow
    rw [← div_scaled] at hnear
    rw [roundHalfEven_eq_of_near hden hnear]
    omega
  · have hnear := h.near hx
    rw [← div_scaled] at hnear
    rw [roundHalfEven_eq_of_near hden hnear]
    omega

/-! ## Decimals -/

theorem pow_two_lt_pow_ten : (2 : ℕ) ^ 1075 < 10 ^ 326 := by decide +kernel

theorem pow_two_le_pow_ten : (2 : ℕ) ^ 1024 ≤ 10 ^ 310 := by decide +kernel

/-- A number with as many digits lies between two powers of ten. -/
theorem toDigits_bounds {c : ℕ} (hc : 0 < c) :
    (10 : ℚ) ^ ((Nat.toDigits 10 c).length - 1 : ℤ) ≤ c ∧
      (c : ℚ) < (10 : ℚ) ^ ((Nat.toDigits 10 c).length : ℤ) := by
  have hlength : 0 < (Nat.toDigits 10 c).length := Nat.length_toDigits_pos
  have hhigh := (Nat.length_toDigits_le_iff (b := 10) (by decide) hlength).1 le_rfl
  have hlow : 10 ^ ((Nat.toDigits 10 c).length - 1) ≤ c := by
    rcases Nat.eq_or_lt_of_le hlength with hone | hmore
    · rw [← hone, Nat.sub_self, pow_zero]
      exact hc
    · refine not_lt.1 fun hlt => ?_
      have := (Nat.length_toDigits_le_iff (b := 10) (n := c) (by decide) (by omega)).2 hlt
      omega
  generalize (Nat.toDigits 10 c).length = l at hlength hhigh hlow
  constructor
  · have hcast : (l - 1 : ℤ) = ((l - 1 : ℕ) : ℤ) := by omega
    rw [hcast, zpow_natCast]
    exact_mod_cast hlow
  · rw [zpow_natCast]
    exact_mod_cast hhigh

/-- The interval lies between the powers of two at which decimals are told by their size alone. -/
theorem Covers.bounds (hx : x.rank.val ≠ 0) {r : ℚ} (h : x.Covers r) :
    (2 : ℚ) ^ (-1075 : ℤ) ≤ r ∧ r < (2 : ℚ) ^ (1024 : ℤ) := by
  obtain ⟨hpower, hpower'⟩ := x.power_bounds
  have hunit := two_zpow_pos x.power
  have hsig : (1 : ℚ) ≤ x.significand := by exact_mod_cast significand_pos hx
  constructor
  · have hhalf : 1 / 2 ≤ r / (2 : ℚ) ^ x.power := by
      rcases (h.near hx).1 with hlt | ⟨-, heq⟩ <;> linarith
    rw [le_div_iff₀ hunit] at hhalf
    calc (2 : ℚ) ^ (-1075 : ℤ) ≤ (2 : ℚ) ^ (x.power - 1) :=
          zpow_le_zpow_right₀ (by norm_num) (by omega)
      _ = 1 / 2 * (2 : ℚ) ^ x.power := by
        rw [zpow_sub₀ (by norm_num), zpow_one]
        ring
      _ ≤ r := hhalf
  · have hlog := h.log_lt hx
    have hlt := (Int.lt_zpow_iff_log_lt (b := 2) (by decide) (h.pos hx)).2 hlog
    refine lt_of_lt_of_le hlt ?_
    exact_mod_cast zpow_le_zpow_right₀ (by norm_num : (1 : ℚ) ≤ 2) (show x.power + 53 ≤ 1024 by omega)

theorem decimal_eq_div (c : ℕ) (p : ℤ) :
    ((c * Nat.pow 10 p.toNat : ℕ) : ℚ) / ((Nat.pow 10 (-p).toNat : ℕ) : ℚ) = c * (10 : ℚ) ^ p := by
  have hpow : (10 : ℚ) ^ p.toNat = (10 : ℚ) ^ p * (10 : ℚ) ^ (-p).toNat := by
    rw [← zpow_natCast, ← zpow_natCast, ← zpow_add₀ (by norm_num)]
    congr 1
    omega
  push_cast [Nat.pow_eq]
  rw [hpow, div_eq_iff (by positivity)]
  ring

/-- A decimal in the interval of a number is neither too small nor too large to be read. -/
theorem Covers.size_bounds (hx : x.rank.val ≠ 0) {c : ℕ} (hc : 0 < c) {p : ℤ}
    (h : x.Covers ((c : ℚ) * (10 : ℚ) ^ p)) :
    -325 ≤ (Nat.toDigits 10 c).length + p ∧ (Nat.toDigits 10 c).length + p ≤ 310 := by
  have hten : (0 : ℚ) < (10 : ℚ) ^ p := zpow_pos (by norm_num) p
  obtain ⟨hlow, hhigh⟩ := toDigits_bounds hc
  obtain ⟨hleast, hmost⟩ := h.bounds hx
  constructor
  · by_contra hsmall
    have hlt : (c : ℚ) * (10 : ℚ) ^ p < (2 : ℚ) ^ (-1075 : ℤ) := by
      calc (c : ℚ) * (10 : ℚ) ^ p
          < (10 : ℚ) ^ ((Nat.toDigits 10 c).length : ℤ) * (10 : ℚ) ^ p := by gcongr
        _ = (10 : ℚ) ^ ((Nat.toDigits 10 c).length + p) := (zpow_add₀ (by norm_num) _ _).symm
        _ ≤ (10 : ℚ) ^ (-326 : ℤ) := zpow_le_zpow_right₀ (by norm_num) (by omega)
        _ < (2 : ℚ) ^ (-1075 : ℤ) := by
          rw [zpow_neg, zpow_neg, inv_lt_inv₀ (by positivity) (by positivity)]
          exact_mod_cast pow_two_lt_pow_ten
    exact absurd hlt (not_lt.2 hleast)
  · by_contra hlarge
    have hle : (2 : ℚ) ^ (1024 : ℤ) ≤ (c : ℚ) * (10 : ℚ) ^ p := by
      calc (2 : ℚ) ^ (1024 : ℤ) ≤ (10 : ℚ) ^ (310 : ℤ) := by exact_mod_cast pow_two_le_pow_ten
        _ ≤ (10 : ℚ) ^ ((Nat.toDigits 10 c).length - 1 + p : ℤ) :=
          zpow_le_zpow_right₀ (by norm_num) (by omega)
        _ = (10 : ℚ) ^ ((Nat.toDigits 10 c).length - 1 : ℤ) * (10 : ℚ) ^ p :=
          zpow_add₀ (by norm_num) _ _
        _ ≤ (c : ℚ) * (10 : ℚ) ^ p := by gcongr
    exact absurd hmost (not_lt.2 hle)

/-- A decimal in the rounding interval of a number is read as the number. -/
theorem ofDecimal?_eq_of_covers (hx : x.rank.val ≠ 0) {c : ℕ} {p : ℤ}
    (h : x.Covers ((c : ℚ) * (10 : ℚ) ^ p)) : ofDecimal? x.negative c p = some x := by
  have hc : 0 < c := by
    have hcq := (mul_pos_iff_of_pos_right (zpow_pos (by norm_num) p)).1 (h.pos hx)
    exact_mod_cast hcq
  obtain ⟨hsmall, hlarge⟩ := h.size_bounds hx hc
  have hrank : roundedRank (c * Nat.pow 10 p.toNat) (Nat.pow 10 (-p).toNat) = x.rank.val := by
    refine roundedRank_eq_of_covers hx (Nat.pow_pos (by norm_num)) ?_
    rwa [decimal_eq_div]
  unfold ofDecimal?
  dsimp only
  rw [if_neg (not_or.2 ⟨hc.ne', by omega⟩), if_neg (by omega), hrank, ofRank?, dif_pos x.rank.isLt]

/-- The zeros are read as they are. -/
theorem ofDecimal?_zero (negative : Bool) (p : ℤ) :
    ofDecimal? negative 0 p = some (zero negative) := by
  unfold ofDecimal?
  dsimp only
  rw [if_pos (.inl rfl)]

end Double

end ContractInterface
