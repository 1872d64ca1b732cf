/-
The shortest decimal of a finite double lies in its rounding interval (`Double.covers_shortest`), so it is
read back as the number it was taken from. This does not depend on the search: a hit is tested against
the interval, and without a hit all digits are taken.
-/
import ContractInterface.Proofs.Double.Rounding

namespace ContractInterface.Double

variable {x : Double}

/-! ## Comparisons -/

/-- Both sides of a comparison over a common denominator. -/
theorem compareDecimal_sides (a : ℕ) (p : ℤ) (b : ℕ) (q : ℤ) :
    let scale : ℚ := (10 : ℚ) ^ (-p).toNat * (2 : ℚ) ^ (-q).toNat
    (a : ℚ) * (10 : ℚ) ^ p * scale = ((a * Nat.pow 10 p.toNat * Nat.pow 2 (-q).toNat : ℕ) : ℚ) ∧
      (b : ℚ) * (2 : ℚ) ^ q * scale = ((b * Nat.pow 2 q.toNat * Nat.pow 10 (-p).toNat : ℕ) : ℚ) := by
  intro scale
  have hsplit : ∀ (base : ℚ) (e : ℤ), base ≠ 0 → base ^ e.toNat = base ^ e * base ^ (-e).toNat := by
    intro base e hbase
    rw [← zpow_natCast, ← zpow_natCast, ← zpow_add₀ hbase]
    congr 1
    omega
  push_cast [Nat.pow_eq]
  rw [hsplit 10 p (by norm_num), hsplit 2 q (by norm_num)]
  constructor
  · ring
  · ring

theorem compareDecimal_spec (a : ℕ) (p : ℤ) (b : ℕ) (q : ℤ) :
    (compareDecimal a p b q = .lt ↔ (a : ℚ) * (10 : ℚ) ^ p < (b : ℚ) * (2 : ℚ) ^ q) ∧
      (compareDecimal a p b q = .eq ↔ (a : ℚ) * (10 : ℚ) ^ p = (b : ℚ) * (2 : ℚ) ^ q) ∧
      (compareDecimal a p b q = .gt ↔ (b : ℚ) * (2 : ℚ) ^ q < (a : ℚ) * (10 : ℚ) ^ p) := by
  obtain ⟨hleft, hright⟩ := compareDecimal_sides a p b q
  have hscale : (0 : ℚ) < (10 : ℚ) ^ (-p).toNat * (2 : ℚ) ^ (-q).toNat := by positivity
  unfold compareDecimal
  generalize a * Nat.pow 10 p.toNat * Nat.pow 2 (-q).toNat = left at hleft ⊢
  generalize b * Nat.pow 2 q.toNat * Nat.pow 10 (-p).toNat = right at hright ⊢
  rw [← mul_lt_mul_iff_left₀ hscale, ← mul_left_inj' hscale.ne',
    ← mul_lt_mul_iff_left₀ hscale (b := (b : ℚ) * (2 : ℚ) ^ q), hleft, hright]
  refine ⟨?_, ?_, ?_⟩
  · rw [Nat.compare_eq_lt]
    exact_mod_cast Iff.rfl
  · rw [Nat.compare_eq_eq]
    exact_mod_cast Iff.rfl
  · rw [Nat.compare_eq_gt]
    exact_mod_cast Iff.rfl

/-- The test of a decimal is membership in the rounding interval. -/
theorem reads_iff (a : ℕ) (p : ℤ) : x.reads a p = true ↔ x.Covers ((a : ℚ) * (10 : ℚ) ^ p) := by
  obtain ⟨-, hlowEq, hlowGt⟩ := compareDecimal_spec a p x.interval.1 (x.power - 2)
  obtain ⟨hhighLt, hhighEq, -⟩ := compareDecimal_spec a p x.interval.2 (x.power - 2)
  unfold reads Covers
  simp only [Bool.and_eq_true, Bool.or_eq_true, beq_iff_eq, hlowEq, hlowGt, hhighLt, hhighEq]
  exact and_congr_left' (or_congr_right (and_congr_right' eq_comm))

/-! ## The search -/

theorem reads_of_hitOn {tie : Tie} {p : ℤ} {c : ℕ} (h : x.hitOn tie p = some c) :
    x.reads c p = true := by
  unfold hitOn at h
  dsimp only at h
  split at h
  · rename_i hlow hhigh
    cases h
    split
    · exact hlow
    · exact hhigh
  · rename_i hlow _
    cases h
    exact hlow
  · rename_i _ hhigh
    cases h
    exact hhigh
  · cases h

theorem reads_of_search {tie : Tie} {leading : ℤ} {c : ℕ} {p : ℤ} : ∀ {fuel k : ℕ},
    x.search tie leading fuel k = some (c, p) → x.reads c p = true
  | 0, _, h => nomatch h
  | fuel + 1, k, h => by
    rw [search] at h
    split at h
    · rename_i hhit
      cases h
      exact reads_of_hitOn hhit
    · exact reads_of_search h

/-- Dropping zeros keeps the value. -/
theorem dropZeros_value : ∀ (fuel c : ℕ) (p : ℤ),
    ((dropZeros fuel c p).1 : ℚ) * (10 : ℚ) ^ (dropZeros fuel c p).2 = (c : ℚ) * (10 : ℚ) ^ p
  | 0, _, _ => rfl
  | fuel + 1, c, p => by
    rw [dropZeros]
    split
    · rename_i hzero
      have hc : (c : ℚ) = 10 * ((c / 10 : ℕ) : ℚ) := by
        exact_mod_cast (show c = 10 * (c / 10) by omega)
      rw [dropZeros_value fuel (c / 10) (p + 1), zpow_add₀ (by norm_num), hc]
      simp only [zpow_one]
      ring_nf
    · rfl

/-- The number itself lies in its interval. -/
theorem covers_self (hx : x.rank.val ≠ 0) :
    x.Covers ((x.significand : ℚ) * (2 : ℚ) ^ x.power) := by
  have hscaled : (x.significand : ℚ) * (2 : ℚ) ^ x.power / (2 : ℚ) ^ x.power = x.significand := by
    rw [mul_div_assoc, div_self (two_zpow_pos x.power).ne', mul_one]
  refine (covers_iff hx _).2 ?_
  rw [hscaled]
  refine ⟨.inl ?_, .inl (by linarith)⟩
  split_ifs <;> linarith

theorem exactDecimal_value (x : Double) :
    (x.exactDecimal.1 : ℚ) * (10 : ℚ) ^ x.exactDecimal.2 = x.significand * (2 : ℚ) ^ x.power := by
  unfold exactDecimal
  push_cast [Nat.pow_eq]
  have hten : (10 : ℚ) ^ (-x.power).toNat = (2 : ℚ) ^ (-x.power).toNat * (5 : ℚ) ^ (-x.power).toNat := by
    rw [← mul_pow]
    norm_num
  have hpos : (0 : ℚ) < (10 : ℚ) ^ (-x.power).toNat := by positivity
  rw [zpow_neg, zpow_natCast, two_pow_toNat x.power]
  field_simp
  rw [hten]
  ring

/-- The shortest decimal of a number rounds to it. -/
theorem covers_shortest (hx : x.rank.val ≠ 0) (tie : Tie) :
    x.Covers (((x.shortest tie).1 : ℚ) * (10 : ℚ) ^ (x.shortest tie).2) := by
  unfold shortest
  rw [if_neg hx]
  dsimp only
  rw [dropZeros_value]
  cases hsearch : x.search tie x.leadingPower 17 0 with
  | none =>
    rw [Option.getD_none, exactDecimal_value]
    exact covers_self hx
  | some hit => exact (reads_iff hit.1 hit.2).1 (reads_of_search hsearch)

theorem shortest_zero (hx : x.rank.val = 0) (tie : Tie) : x.shortest tie = (0, 0) := by
  unfold shortest
  rw [if_pos hx]

end ContractInterface.Double
