/-
The exact value of a JSON number, in each of the three kinds. The integer that is read off a number is its
value (`Number.toInt?_eq_some_iff`). Equal numbers have one value, and so have the doubles nearest to them.
The nearest double is that of the exact value (`Number.key_toDouble`), so it does not matter of which kind a
number is, and a number that is exact keeps its value (`Number.value_toDouble`).
-/
import ContractInterface.Json.Number
import ContractInterface.Proofs.Double.Nearest

namespace ContractInterface.Json.Number

/-- The exact value. -/
def value : Number → ℚ
  | .natural n => n.toNat
  | .negative n => -(n.val + 1)
  | .double x => x.value

variable {m n : Number}

/-- The integer that is read off a number is its value. -/
theorem toInt?_eq_some_iff {i : ℤ} : n.toInt? = some i ↔ n.value = i := by
  cases n with
  | natural n =>
    rw [toInt?, value, Option.some.injEq]
    norm_cast
  | negative n =>
    rw [toInt?, value, Option.some.injEq]
    norm_cast
  | double x => exact Double.toInt?_eq_some_iff

theorem toInt?_eq_of_value_eq (h : m.value = n.value) : m.toInt? = n.toInt? := by
  refine Option.ext fun i => ?_
  rw [toInt?_eq_some_iff, toInt?_eq_some_iff, h]

/-- Equal numbers are identical, but for doubles that are equal. -/
theorem eq_or_doubles_of_same (h : m.same n = true) :
    m = n ∨ ∃ x y, m = .double x ∧ n = .double y ∧ x.same y = true := by
  cases m <;> cases n <;> simp only [same, Bool.false_eq_true, beq_iff_eq] at h
  · exact .inl (congrArg _ h)
  · exact .inl (congrArg _ h)
  · exact .inr ⟨_, _, rfl, rfl, h⟩

theorem value_eq_of_same (h : m.same n = true) : m.value = n.value := by
  obtain rfl | ⟨x, y, rfl, rfl, hxy⟩ := eq_or_doubles_of_same h
  · rfl
  · exact Double.same_iff_value_eq.1 hxy

/-- Bounds do not tell equal numbers apart. -/
theorem key_toDouble_of_same (h : m.same n = true) : m.toDouble.key = n.toDouble.key := by
  obtain rfl | ⟨x, y, rfl, rfl, hxy⟩ := eq_or_doubles_of_same h
  · rfl
  · exact beq_iff_eq.1 hxy

/-! ## The nearest double -/

/-- The nearest double is that of the exact value. -/
theorem key_toDouble (n : Number) : n.toDouble.key = (Double.ofRat n.value).key := by
  cases n with
  | natural n =>
    have hnonneg : ¬ ((n.toNat : ℚ) < 0) := not_lt.2 (Nat.cast_nonneg _)
    rw [toDouble, value, Double.ofNat, Double.ofRat, Rat.num_natCast, Rat.den_natCast, Int.natAbs_natCast,
      decide_eq_false hnonneg]
  | negative n =>
    have hvalue : (-(n.val + 1) : ℚ) = ((-(n.val + 1) : ℤ) : ℚ) := by push_cast; rfl
    rw [toDouble, value, hvalue, Double.ofInt, Double.ofRat, Rat.num_intCast, Rat.den_intCast]
    norm_cast
  | double x => exact (Double.key_ofRat_value x).symm

/-- Rounding brings two numbers together, of whatever kinds, but never past each other. -/
theorem value_toDouble_mono (h : m.value ≤ n.value) : m.toDouble.value ≤ n.toDouble.value := by
  rw [← Double.le_iff_value_le, Double.le, decide_eq_true_eq, key_toDouble, key_toDouble]
  exact Double.key_ofRat_mono h

/-- A number that is written as a double, or an integer of at most 53 bits. -/
def IsExact (n : Number) : Prop := (∃ x, n = .double x) ∨ |n.value| ≤ 2 ^ 53

/-- Such numbers are not rounded. -/
theorem value_toDouble (h : n.IsExact) : n.toDouble.value = n.value := by
  rcases h with ⟨x, rfl⟩ | hsize
  · rfl
  cases hn : n with
  | double x => rfl
  | natural | negative =>
    obtain ⟨i, hi⟩ : ∃ i, n.toInt? = some i := ⟨_, by rw [hn]; rfl⟩
    rw [← hn]
    rw [toInt?_eq_some_iff] at hi
    obtain ⟨x, hx⟩ := Double.exists_value_eq_intCast (i := i) (by exact_mod_cast hi ▸ hsize)
    have hkey : n.toDouble.key = x.key := by rw [key_toDouble, hi, ← hx, Double.key_ofRat_value]
    rw [Double.value_eq_of_key_eq hkey, hx, hi]

end ContractInterface.Json.Number
