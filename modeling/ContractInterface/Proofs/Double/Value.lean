/-
The exact value of a double, a rational. The order of doubles by sign and rank is that of their values
(`Double.lt_iff_value_lt`), and they are equal if their values are, so both zeros count as one number. The
integer that is read off a double is its value (`Double.toInt?_eq_some_iff`).
-/
import ContractInterface.Proofs.Double.Rounding

namespace ContractInterface.Double

/-! ## Magnitudes -/

/-- The exact value without the sign. -/
def magnitude (x : Double) : ℚ := x.significand * (2 : ℚ) ^ x.power

/-- The exact value. -/
def value (x : Double) : ℚ := if x.negative then -x.magnitude else x.magnitude

variable {x y : Double}

theorem magnitude_nonneg (x : Double) : 0 ≤ x.magnitude :=
  mul_nonneg (Nat.cast_nonneg _) (two_zpow_pos _).le

theorem magnitude_congr (h : x.rank = y.rank) : x.magnitude = y.magnitude := by
  unfold magnitude significand power binade
  rw [h]

/-- The magnitude grows with the rank: within a binade with the significand, and from one binade to a later
one since the power of two at least doubles, while the significand loses less than half. -/
theorem magnitude_lt (h : x.rank < y.rank) : x.magnitude < y.magnitude := by
  have hrank : (x.rank.val : ℤ) < y.rank.val := by exact_mod_cast h
  rw [rank_eq, rank_eq] at hrank
  have hx := significand_lt x
  have hy := significand_lt y
  unfold magnitude
  rcases lt_trichotomy x.power y.power with hlt | heq | hgt
  · have hlow : -1074 < y.power := lt_of_le_of_lt x.power_bounds.1 hlt
    have hsig : (4503599627370496 : ℚ) ≤ y.significand := by exact_mod_cast le_significand hlow
    have hdouble : 2 * (2 : ℚ) ^ x.power ≤ (2 : ℚ) ^ y.power := by
      rw [← zpow_one_add₀ (by norm_num)]
      exact zpow_le_zpow_right₀ (by norm_num) (by omega)
    calc (x.significand : ℚ) * 2 ^ x.power
        < 9007199254740992 * 2 ^ x.power :=
          mul_lt_mul_of_pos_right (by exact_mod_cast hx) (two_zpow_pos _)
      _ = 4503599627370496 * (2 * 2 ^ x.power) := by ring
      _ ≤ y.significand * 2 ^ y.power :=
          mul_le_mul hsig hdouble (by positivity) (Nat.cast_nonneg _)
  · rw [heq] at hrank ⊢
    have hsig : (x.significand : ℚ) < y.significand := by
      exact_mod_cast (show (x.significand : ℤ) < y.significand by omega)
    exact mul_lt_mul_of_pos_right hsig (two_zpow_pos _)
  · have hlow : -1074 < x.power := lt_of_le_of_lt y.power_bounds.1 hgt
    have hsig := le_significand hlow
    omega

theorem magnitude_pos (h : x.rank.val ≠ 0) : 0 < x.magnitude :=
  mul_pos (by exact_mod_cast significand_pos h) (two_zpow_pos _)

theorem magnitude_zero (h : x.rank.val = 0) : x.magnitude = 0 := by
  have hsig : x.significand = 0 := by
    unfold significand binade
    rw [h]
    rfl
  rw [magnitude, hsig, Nat.cast_zero, zero_mul]

/-! ## Order -/

theorem value_lt_of_key_lt (h : x.key < y.key) : x.value < y.value := by
  unfold key at h
  unfold value
  split_ifs at h ⊢ with hx hy hy
  · exact neg_lt_neg (magnitude_lt (Fin.lt_def.2 (by omega)))
  · -- one of the two is no zero
    rcases Nat.eq_zero_or_pos x.rank.val with hzero | hpos
    · rw [magnitude_zero hzero, neg_zero]
      exact magnitude_pos (by omega)
    · exact (neg_lt_zero.2 (magnitude_pos hpos.ne')).trans_le y.magnitude_nonneg
  · omega
  · exact magnitude_lt (Fin.lt_def.2 (by omega))

theorem value_eq_of_key_eq (h : x.key = y.key) : x.value = y.value := by
  unfold key at h
  have hmagnitude : x.magnitude = y.magnitude :=
    magnitude_congr (Fin.ext (by split_ifs at h <;> omega))
  unfold value
  rw [hmagnitude]
  split_ifs at h ⊢ with hx hy hy
  · rfl
  · rw [magnitude_zero (by omega), neg_zero]
  · rw [magnitude_zero (by omega), neg_zero]
  · rfl

theorem value_lt_value_iff : x.value < y.value ↔ x.key < y.key := by
  refine ⟨fun h => ?_, value_lt_of_key_lt⟩
  rcases lt_trichotomy x.key y.key with hlt | heq | hgt
  · exact hlt
  · exact absurd (value_eq_of_key_eq heq) h.ne
  · exact absurd (value_lt_of_key_lt hgt) h.asymm

/-- Doubles are compared by their values. -/
theorem lt_iff_value_lt : x.lt y = true ↔ x.value < y.value := by
  rw [lt, decide_eq_true_eq, value_lt_value_iff]

theorem le_iff_value_le : x.le y = true ↔ x.value ≤ y.value := by
  rw [le, decide_eq_true_eq, ← not_lt, ← not_lt, value_lt_value_iff]

/-- Doubles are equal if they have one value. -/
theorem same_iff_value_eq : x.same y = true ↔ x.value = y.value := by
  rw [same, beq_iff_eq]
  refine ⟨value_eq_of_key_eq, fun h => ?_⟩
  exact le_antisymm (not_lt.1 (mt value_lt_value_iff.2 h.not_gt)) (not_lt.1 (mt value_lt_value_iff.2 h.not_lt))

/-! ## Integers -/

/-- The quotient that integers are read off is the exact value. -/
theorem ratio_eq_value (x : Double) : (x.ratio.1 : ℚ) / x.ratio.2 = x.value := by
  have hpos : (0 : ℚ) < (2 : ℚ) ^ (-x.power).toNat := by positivity
  unfold ratio value magnitude
  push_cast [Nat.pow_eq]
  rw [two_pow_toNat x.power, ← mul_assoc, mul_div_assoc, div_self hpos.ne', mul_one]
  split_ifs <;> ring

/-- The integer that is read off a double is its value. -/
theorem toInt?_eq_some_iff {i : ℤ} : x.toInt? = some i ↔ x.value = i := by
  have hpos : 0 < x.ratio.2 := Nat.pow_pos two_pos
  have hquotient : x.value = i ↔ x.ratio.1 = i * x.ratio.2 := by
    rw [← ratio_eq_value, div_eq_iff (by exact_mod_cast hpos.ne')]
    norm_cast
  rw [hquotient]
  unfold toInt?
  constructor
  · intro h
    split_ifs at h with hmod
    obtain rfl := Option.some.inj h
    exact (Int.ediv_mul_cancel (Int.dvd_of_emod_eq_zero hmod)).symm
  · intro h
    rw [h, if_pos (Int.mul_emod_left ..), Int.mul_ediv_cancel _ (by exact_mod_cast hpos.ne')]

end ContractInterface.Double
