/-
The double nearest to a rational. A greater rational is rounded to a double that is no smaller
(`Double.key_ofRat_mono`), and the value of a double is rounded to the double itself
(`Double.key_ofRat_value`). So are integers of at most 53 bits (`Double.exists_value_eq_intCast`), which are
the values of doubles.
-/
import ContractInterface.Proofs.Double.Shortest
import ContractInterface.Proofs.Double.Value

namespace ContractInterface

/-! ## Rounding to an integer -/

/-- An integer is what is near it. -/
theorem near_self (m : ℕ) : Near m m := ⟨.inl (by linarith), .inl (by linarith)⟩

/-- A greater rational is near an integer that is no smaller. Two neighbours are not near one rational,
since one of them is odd. -/
theorem Near.mono {m k : ℕ} {r s : ℚ} (hm : Near m r) (hk : Near k s) (h : r ≤ s) : m ≤ k := by
  by_contra hlt
  have hnext : (k : ℚ) + 1 ≤ m := by exact_mod_cast (show k + 1 ≤ m by omega)
  rcases hm.1 with hlow | ⟨hmeven, hlow⟩
  · rcases hk.2 with hhigh | ⟨-, hhigh⟩ <;> linarith
  · rcases hk.2 with hhigh | ⟨hkeven, hhigh⟩
    · linarith
    · have heq : (m : ℚ) = (k : ℚ) + 1 := by linarith
      have : m = k + 1 := by exact_mod_cast heq
      omega

/-- Rounding half to even takes a quotient to an integer that is near it. -/
theorem near_roundHalfEven (n : ℕ) {d : ℕ} (hd : 0 < d) : Near (roundHalfEven n d) ((n : ℚ) / d) := by
  have hdq : (0 : ℚ) < d := by exact_mod_cast hd
  obtain ⟨q, hq⟩ : ∃ q, n / d = q := ⟨_, rfl⟩
  obtain ⟨r, hr⟩ : ∃ r, n % d = r := ⟨_, rfl⟩
  have hsplit : (n : ℚ) / d = q + r / d := by
    have hn : (n : ℚ) = d * q + r := by exact_mod_cast hq ▸ hr ▸ (Nat.div_add_mod n d).symm
    rw [hn, add_div, mul_div_cancel_left₀ _ hdq.ne']
  have hnonneg : (0 : ℚ) ≤ (r : ℚ) / d := by positivity
  have hless : (r : ℚ) / d < 1 := by
    rw [div_lt_one hdq]
    exact_mod_cast hr ▸ Nat.mod_lt n hd
  have hbelow : 2 * r < d ↔ (r : ℚ) / d < 1 / 2 := by
    rw [div_lt_div_iff₀ hdq two_pos, one_mul, mul_comm]
    norm_cast
  have habove : d < 2 * r ↔ 1 / 2 < (r : ℚ) / d := by
    rw [div_lt_div_iff₀ two_pos hdq, one_mul, mul_comm]
    norm_cast
  unfold roundHalfEven
  dsimp only
  rw [hq, hr, hsplit]
  split_ifs with hlt hgt
  · rw [hbelow] at hlt
    exact ⟨.inl (by linarith), .inl (by linarith)⟩
  · rw [habove] at hgt
    refine ⟨.inl ?_, .inl ?_⟩ <;> push_cast <;> linarith
  · -- halfway the even one of the two is taken
    rw [hbelow] at hlt
    rw [habove] at hgt
    have hhalf : (r : ℚ) / d = 1 / 2 := le_antisymm (not_lt.1 hgt) (not_lt.1 hlt)
    rw [hhalf]
    rcases Nat.mod_two_eq_zero_or_one q with heven | hodd
    · rw [heven, add_zero]
      exact ⟨.inl (by linarith), .inr ⟨heven, rfl⟩⟩
    · rw [hodd]
      refine ⟨.inr ⟨by omega, ?_⟩, .inl ?_⟩ <;> push_cast <;> linarith

namespace Double

/-! ## Ranks -/

/-- The exponent that a positive rational is scaled by. -/
def unitPower (r : ℚ) : ℤ := max (Int.log 2 r - 52) (-1074)

/-- The rank of a positive rational: all those of the lower binades, and the integer that is near it in its
own. -/
theorem exists_near_of_roundedRank {n d : ℕ} (hn : 0 < n) (hd : 0 < d) :
    let r : ℚ := (n : ℚ) / d
    ∃ m : ℕ, Near m (r / (2 : ℚ) ^ unitPower r) ∧
      (roundedRank n d : ℤ) = (unitPower r + 1074) * 4503599627370496 + m := by
  intro r
  have hpower : -1074 ≤ unitPower r := le_max_right _ _
  have hden : 0 < d * Nat.pow 2 (unitPower r).toNat := Nat.mul_pos hd (Nat.pow_pos two_pos)
  have hnear := near_roundHalfEven (n * Nat.pow 2 (-unitPower r).toNat) hden
  rw [div_scaled] at hnear
  refine ⟨_, hnear, ?_⟩
  unfold roundedRank
  rw [if_neg hn.ne', binadePower_eq hn hd]
  change (((unitPower r + 1074).toNat * 4503599627370496 + _ : ℕ) : ℤ) = _
  push_cast
  rw [Int.toNat_of_nonneg (by omega)]
  rfl

/-- Scaled, a rational lies below the significands of the next binade, and above the lowest binade it has a
leading bit. -/
theorem scaled_bounds {r : ℚ} (hr : 0 < r) : r / (2 : ℚ) ^ unitPower r < (9007199254740992 : ℕ) ∧
    (-1074 < unitPower r → ((4503599627370496 : ℕ) : ℚ) ≤ r / (2 : ℚ) ^ unitPower r) := by
  have hunit := two_zpow_pos (unitPower r)
  constructor
  · rw [div_lt_iff₀ hunit]
    calc r < ((2 : ℕ) : ℚ) ^ (unitPower r + 53) :=
          (Int.lt_zpow_iff_log_lt (b := 2) (by decide) hr).2 (by unfold unitPower; omega)
      _ = (9007199254740992 : ℕ) * (2 : ℚ) ^ unitPower r := by
        push_cast
        rw [zpow_add₀ (by norm_num), mul_comm]
        norm_num
  · intro hlow
    rw [le_div_iff₀ hunit]
    calc ((4503599627370496 : ℕ) : ℚ) * (2 : ℚ) ^ unitPower r
        = ((2 : ℕ) : ℚ) ^ (unitPower r + 52) := by
          push_cast
          rw [zpow_add₀ (by norm_num), mul_comm]
          norm_num
      _ ≤ r := (Int.zpow_le_iff_le_log (b := 2) (by decide) hr).2 (by unfold unitPower at hlow ⊢; omega)

/-- A greater quotient has a rank that is no smaller: in one binade it is near a greater integer, and a
significand of a lower binade is carried into the next one at most. -/
theorem roundedRank_mono {n d n' d' : ℕ} (hd : 0 < d) (hd' : 0 < d')
    (h : (n : ℚ) / d ≤ (n' : ℚ) / d') : roundedRank n d ≤ roundedRank n' d' := by
  rcases Nat.eq_zero_or_pos n with rfl | hn
  · exact Nat.zero_le _
  have hr : (0 : ℚ) < (n : ℚ) / d := div_pos (by exact_mod_cast hn) (by exact_mod_cast hd)
  have hr' : (0 : ℚ) < (n' : ℚ) / d' := hr.trans_le h
  have hn' : 0 < n' := by
    rcases Nat.eq_zero_or_pos n' with rfl | hn'
    · simp at hr'
    · exact hn'
  obtain ⟨m, hm, hrank⟩ := exists_near_of_roundedRank hn hd
  obtain ⟨m', hm', hrank'⟩ := exists_near_of_roundedRank hn' hd'
  generalize (n : ℚ) / d = r at h hr hm hrank
  generalize (n' : ℚ) / d' = s at h hr' hm' hrank'
  have hpower : unitPower r ≤ unitPower s :=
    max_le_max_right _ (sub_le_sub_right (Int.log_mono_right hr h) _)
  rcases lt_or_eq_of_le hpower with hlt | heq
  · have hhigh : m ≤ 9007199254740992 := hm.mono (near_self _) (scaled_bounds hr).1.le
    have hlow : -1074 < unitPower s := lt_of_le_of_lt (le_max_right _ _) hlt
    have hbit : 4503599627370496 ≤ m' := (near_self _).mono hm' ((scaled_bounds hr').2 hlow)
    omega
  · rw [heq] at hm hrank
    have hle : m ≤ m' := hm.mono hm' (div_le_div_of_nonneg_right h (two_zpow_pos _).le)
    omega

/-! ## Rationals -/

/-- The double nearest to a rational. -/
def ofRat (q : ℚ) : Double := nearest (decide (q < 0)) q.num.natAbs q.den

theorem abs_eq_div (q : ℚ) : (q.num.natAbs : ℚ) / q.den = |q| := by
  rw [Rat.abs_def, Rat.divInt_eq_div, Int.cast_natCast, Int.cast_natCast]

theorem roundedRank_abs_mono {p q : ℚ} (h : |p| ≤ |q|) :
    roundedRank p.num.natAbs p.den ≤ roundedRank q.num.natAbs q.den :=
  roundedRank_mono p.den_pos q.den_pos (by rwa [abs_eq_div, abs_eq_div])

theorem key_ofRat (q : ℚ) : (ofRat q).key =
    let rank : ℕ := min (roundedRank q.num.natAbs q.den) 9218868437227405311
    if q < 0 then -(rank : ℤ) else rank := by
  unfold key ofRat nearest
  simp only [decide_eq_true_eq]

/-- Rounding is monotone. -/
theorem key_ofRat_mono {p q : ℚ} (h : p ≤ q) : (ofRat p).key ≤ (ofRat q).key := by
  rw [key_ofRat, key_ofRat]
  dsimp only
  split_ifs with hp hq hq
  · have hrank := roundedRank_abs_mono (p := q) (q := p) (by
      rw [abs_of_neg hp, abs_of_neg hq]
      exact neg_le_neg h)
    omega
  · omega
  · exact absurd (h.trans_lt hq) hp
  · have hrank := roundedRank_abs_mono (p := p) (q := q) (by
      rwa [abs_of_nonneg (not_lt.1 hp), abs_of_nonneg (not_lt.1 hq)])
    omega

theorem abs_value (x : Double) : |x.value| = x.magnitude := by
  unfold value
  split_ifs
  · rw [abs_neg, abs_of_nonneg x.magnitude_nonneg]
  · exact abs_of_nonneg x.magnitude_nonneg

/-- The value of a double is rounded to the double, but for the sign of zero. -/
theorem key_ofRat_value (x : Double) : (ofRat x.value).key = x.key := by
  by_cases hx : x.rank.val = 0
  · have hvalue : x.value = 0 := by
      unfold value
      rw [magnitude_zero hx, neg_zero, ite_self]
    have hkey : x.key = 0 := by
      unfold key
      rw [hx, Nat.cast_zero, neg_zero, ite_self]
    rw [hvalue, hkey]
    rfl
  · have hrank : roundedRank x.value.num.natAbs x.value.den = x.rank.val := by
      refine roundedRank_eq_of_covers hx x.value.den_pos ?_
      rw [abs_eq_div, abs_value]
      exact covers_self hx
    have hsign : x.value < 0 ↔ x.negative = true := by
      unfold value
      split_ifs with hneg
      · simpa [hneg] using magnitude_pos hx
      · simpa [hneg] using x.magnitude_nonneg
    have hlt := x.rank.isLt
    rw [key_ofRat, hrank, key]
    simp only [hsign]
    rw [min_eq_left (by omega)]

/-! ## Integers -/

/-- Every significand with its leading bit set occurs with every power in range. -/
theorem exists_magnitude_eq (negative : Bool) {m : ℕ} {p : ℤ} (hm : 4503599627370496 ≤ m)
    (hm' : m < 9007199254740992) (hp : -1074 ≤ p) (hp' : p ≤ 971) :
    ∃ x : Double, x.negative = negative ∧ x.magnitude = m * (2 : ℚ) ^ p := by
  have hrank : (p + 1074).toNat * 4503599627370496 + m < 9218868437227405312 := by omega
  let x : Double := ⟨negative, ⟨(p + 1074).toNat * 4503599627370496 + m, hrank⟩⟩
  have hbinade : x.binade = (p + 1075).toNat := by
    show ((p + 1074).toNat * 4503599627370496 + m) / 4503599627370496 = _
    omega
  have hsignificand : x.significand = m := by
    unfold significand
    rw [hbinade, if_neg (by omega)]
    show 4503599627370496 + ((p + 1074).toNat * 4503599627370496 + m) % 4503599627370496 = m
    omega
  have hpower : x.power = p := by
    unfold power
    rw [hbinade]
    omega
  exact ⟨x, rfl, by rw [magnitude, hsignificand, hpower]⟩

/-- A natural number of at most 53 bits is a significand with its leading bits dropped, or one of the next
binade. -/
theorem exists_magnitude_eq_natCast (negative : Bool) {k : ℕ} (h : k ≤ 2 ^ 53) :
    ∃ x : Double, x.negative = negative ∧ x.magnitude = k := by
  rcases Nat.eq_zero_or_pos k with rfl | hk
  · exact ⟨zero negative, rfl, by rw [magnitude_zero rfl, Nat.cast_zero]⟩
  rcases lt_or_eq_of_le h with hlt | rfl
  · have hlog : k.log2 ≤ 52 := Nat.lt_succ_iff.1 ((Nat.log2_lt hk.ne').2 hlt)
    have hlow : 2 ^ 52 ≤ k * 2 ^ (52 - k.log2) := by
      calc 2 ^ 52 = 2 ^ k.log2 * 2 ^ (52 - k.log2) := by rw [← pow_add, Nat.add_sub_cancel' hlog]
        _ ≤ k * 2 ^ (52 - k.log2) := Nat.mul_le_mul_right _ (Nat.log2_self_le hk.ne')
    have hhigh : k * 2 ^ (52 - k.log2) < 2 ^ 53 := by
      calc k * 2 ^ (52 - k.log2) < 2 ^ (k.log2 + 1) * 2 ^ (52 - k.log2) :=
            Nat.mul_lt_mul_of_pos_right Nat.lt_log2_self (Nat.pow_pos two_pos)
        _ = 2 ^ 53 := by
          rw [← pow_add]
          congr 1
          omega
    obtain ⟨x, hx, hmagnitude⟩ := exists_magnitude_eq negative hlow hhigh
      (p := -((52 - k.log2 : ℕ) : ℤ)) (by omega) (by omega)
    refine ⟨x, hx, ?_⟩
    rw [hmagnitude, zpow_neg, zpow_natCast, Nat.cast_mul, Nat.cast_pow, Nat.cast_ofNat,
      mul_inv_cancel_right₀ (by positivity)]
  · obtain ⟨x, hx, hmagnitude⟩ := exists_magnitude_eq negative (m := 4503599627370496) (p := 1) le_rfl
      (by norm_num) (by norm_num) (by norm_num)
    refine ⟨x, hx, ?_⟩
    rw [hmagnitude]
    norm_num

/-- Integers of at most 53 bits are the values of doubles. -/
theorem exists_value_eq_intCast {i : ℤ} (h : |i| ≤ 2 ^ 53) : ∃ x : Double, x.value = i := by
  have hnat : i.natAbs ≤ 2 ^ 53 := by
    rw [Int.abs_eq_natAbs] at h
    exact_mod_cast h
  obtain ⟨x, hx, hmagnitude⟩ := exists_magnitude_eq_natCast (decide (i < 0)) hnat
  refine ⟨x, ?_⟩
  unfold value
  rw [hx, hmagnitude, Nat.cast_natAbs, Int.cast_abs]
  simp only [decide_eq_true_eq]
  split_ifs with hneg
  · rw [abs_of_neg (by exact_mod_cast hneg), neg_neg]
  · exact abs_of_nonneg (by exact_mod_cast not_lt.1 hneg)

end Double

end ContractInterface
