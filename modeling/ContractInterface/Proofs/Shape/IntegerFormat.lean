/-
Formats of integers. A number keeps such a format if its exact value is an integer of the width and sign
that the format names, however the number is written (`IntegerFormat.accepts_iff_value`). The greatest
unsigned width is apart: its format ends at half of it (`IntegerFormat.accepts_uint128_iff`). The check can
be made in signed words of 128 bits, with no step that leaves them (`IntegerFormat.holdsInWords?_eq`).
-/
import ContractInterface.Proofs.Json.NumberValue
import ContractInterface.Proofs.Shape.Acceptance
import Mathlib.Tactic.FinCases

namespace ContractInterface

open Json

/-! ## Formats -/

/-- A format of integers: its name, and the sign and the width that the name stands for. -/
structure IntegerFormat where
  name : String
  signed : Bool
  bits : Nat
deriving DecidableEq

namespace IntegerFormat

/-- The formats that are checked against the whole range of their width. -/
def wholeWidths : List IntegerFormat :=
  [⟨"uint8", false, 8⟩, ⟨"uint16", false, 16⟩, ⟨"uint32", false, 32⟩, ⟨"uint64", false, 64⟩,
    ⟨"uint", false, 64⟩, ⟨"int8", true, 8⟩, ⟨"int16", true, 16⟩, ⟨"int32", true, 32⟩,
    ⟨"int64", true, 64⟩, ⟨"int128", true, 128⟩, ⟨"int", true, 64⟩]

/-- The integers of the width, with or without a sign. -/
def Holds (f : IntegerFormat) (i : ℤ) : Prop :=
  if f.signed then -2 ^ (f.bits - 1) ≤ i ∧ i < 2 ^ (f.bits - 1) else 0 ≤ i ∧ i < 2 ^ f.bits

instance (f : IntegerFormat) (i : ℤ) : Decidable (f.Holds i) :=
  inferInstanceAs (Decidable (if f.signed then -2 ^ (f.bits - 1) ≤ i ∧ i < 2 ^ (f.bits - 1)
    else 0 ≤ i ∧ i < 2 ^ f.bits))

/-- The range that the format is checked against. -/
def range (f : IntegerFormat) : IntegerRange := .ofBits f.signed f.bits

/-- The shape of numbers whose only constraint is the format. -/
def shape (f : IntegerFormat) : Shape := .number { Constraints.empty with format := some f.name }

theorem ofFormat?_eq {f : IntegerFormat} (hf : f ∈ wholeWidths) :
    IntegerRange.ofFormat? f.name = some f.range := by
  fin_cases hf <;> rfl

theorem bits_pos {f : IntegerFormat} (hf : f ∈ wholeWidths) : 0 < f.bits := by
  revert f
  decide

theorem signed_of_bits {f : IntegerFormat} (hf : f ∈ wholeWidths) : f.bits = 128 → f.signed = true := by
  revert f
  decide

/-- The range that is checked is that of the width. -/
theorem contains_range_iff {f : IntegerFormat} (hf : f ∈ wholeWidths) (i : ℤ) :
    f.range.contains i = true ↔ f.Holds i := by
  have hpow : (2 : ℤ) ^ f.bits = 2 * 2 ^ (f.bits - 1) := by
    rw [← pow_succ', Nat.sub_add_cancel (bits_pos hf)]
  unfold IntegerRange.contains range IntegerRange.ofBits Holds
  rw [decide_eq_true_eq, hpow]
  push_cast [Nat.pow_eq]
  generalize (2 : ℤ) ^ (f.bits - 1) = half
  cases hsigned : f.signed with
  | true =>
    simp only [if_true]
    omega
  | false =>
    have hbits : f.bits ≠ 128 := fun h => by simp [signed_of_bits hf h] at hsigned
    simp only [Bool.false_eq_true, if_false, hbits]
    omega

end IntegerFormat

/-! ## Words -/

/-- The integer, if a signed word of 128 bits holds it: what a step of arithmetic leaves of its exact
result without overflow, and a conversion without saturation. -/
def word? (i : ℤ) : Option ℤ := if -2 ^ 127 ≤ i ∧ i < 2 ^ 127 then some i else none

theorem word?_eq_some {i : ℤ} (h : -2 ^ 127 ≤ i ∧ i < 2 ^ 127) : word? i = some i := if_pos h

/-- A one that is shifted to the left, by fewer places than a word has. -/
def shiftedOne? (places : Nat) : Option ℤ := if places < 128 then word? (2 ^ places) else none

/-- The doubles at the ends of the words, `2 ^ 127` and its negative. -/
def wordEnd (negative : Bool) : Double := ⟨negative, ⟨5179139571476070400, by decide⟩⟩

theorem value_wordEnd (negative : Bool) :
    (wordEnd negative).value = if negative then -2 ^ 127 else 2 ^ 127 := by
  have hsignificand : (wordEnd negative).significand = 2 ^ 52 := by
    cases negative <;> rfl
  have hpower : (wordEnd negative).power = 75 := by
    cases negative <;> rfl
  have hmagnitude : (wordEnd negative).magnitude = 2 ^ 127 := by
    rw [Double.magnitude, hsignificand, hpower]
    norm_num
  rw [Double.value, hmagnitude]
  rfl

namespace IntegerFormat

/-- The range of a width, computed in words: a one is shifted by the width, negated and made one less. -/
def rangeInWords? (f : IntegerFormat) : Option IntegerRange :=
  if f.bits = 128 then some ⟨if f.signed then -2 ^ 127 else 0, 2 ^ 127 - 1⟩
  else if f.signed then do
    let half ← shiftedOne? (f.bits - 1)
    let least ← word? (-half)
    let greatest ← word? (half - 1)
    some ⟨least, greatest⟩
  else do
    let past ← shiftedOne? f.bits
    let greatest ← word? (past - 1)
    some ⟨0, greatest⟩

/-- Whether a number lies in a range, with the number converted to a word. A double that is an integer is
converted only if it is no less than the least word and less than what is past the greatest. -/
def liesInWords? (r : IntegerRange) : Number → Option Bool
  | .natural n => (word? n.toNat).map r.contains
  | .negative n => (word? (-(n.val + 1))).map r.contains
  | .double x =>
    match x.toInt? with
    | none => some false
    | some i =>
      if (wordEnd true).le x && x.lt (wordEnd false) then (word? i).map r.contains else some false

/-- The check of a number against the format, in words. -/
def holdsInWords? (f : IntegerFormat) (n : Number) : Option Bool := do
  let range ← f.rangeInWords?
  liesInWords? range n

theorem rangeInWords?_eq {f : IntegerFormat} (hf : f ∈ wholeWidths) : f.rangeInWords? = some f.range := by
  fin_cases hf <;> rfl

theorem range_bounds {f : IntegerFormat} (hf : f ∈ wholeWidths) :
    -2 ^ 127 ≤ f.range.least ∧ f.range.greatest < 2 ^ 127 := by
  fin_cases hf <;> decide

/-- No conversion leaves the words, and no double is left out that the range holds. -/
theorem liesInWords?_eq {r : IntegerRange} (hr : -2 ^ 127 ≤ r.least ∧ r.greatest < 2 ^ 127) (n : Number) :
    liesInWords? r n = some (n.toInt?.any r.contains) := by
  cases n with
  | natural n =>
    have hn : n.toNat < 2 ^ 64 := n.toNat_lt
    rw [liesInWords?, word?_eq_some (by omega)]
    rfl
  | negative n =>
    have hn := n.isLt
    rw [liesInWords?, word?_eq_some (by omega)]
    rfl
  | double x =>
    rw [liesInWords?, Number.toInt?]
    cases hi : x.toInt? with
    | none => rfl
    | some i =>
      have hguard : ((wordEnd true).le x && x.lt (wordEnd false)) = true ↔ -2 ^ 127 ≤ i ∧ i < 2 ^ 127 := by
        rw [Bool.and_eq_true, Double.le_iff_value_le, Double.lt_iff_value_lt, value_wordEnd,
          value_wordEnd, Double.toInt?_eq_some_iff.1 hi]
        norm_cast
      simp only [hguard, Option.any_some]
      split_ifs with hword
      · rw [word?_eq_some hword, Option.map_some]
      · have hout : r.contains i = false := decide_eq_false (by omega)
        rw [hout]

/-- In words the check comes to the same, and every step of it has its exact result. -/
theorem holdsInWords?_eq {f : IntegerFormat} (hf : f ∈ wholeWidths) (n : Number) :
    f.holdsInWords? n = some (n.toInt?.any f.range.contains) := by
  rw [holdsInWords?, rangeInWords?_eq hf]
  exact liesInWords?_eq (range_bounds hf) n

/-! ## Acceptance -/

theorem accepts_of_ofFormat? {f : IntegerFormat} {r : IntegerRange}
    (hr : IntegerRange.ofFormat? f.name = some r) (n : Number) :
    f.shape.accepts (.number n) = n.toInt?.any r.contains := by
  rw [Bool.eq_iff_iff, shape, Shape.accepts_number_iff, Option.any_eq_true]
  constructor
  · rintro ⟨_, ⟨⟩, h⟩
    exact h.format _ rfl _ hr
  · intro h
    refine ⟨n, rfl, nofun, nofun, nofun, nofun, ?_⟩
    rintro _ ⟨⟩ range hrange
    obtain rfl := Option.some.inj (hr.symm.trans hrange)
    exact h

theorem accepts_shape {f : IntegerFormat} (hf : f ∈ wholeWidths) (n : Number) :
    f.shape.accepts (.number n) = n.toInt?.any f.range.contains :=
  accepts_of_ofFormat? (ofFormat?_eq hf) n

/-- A format of integers admits a number if its exact value is an integer of the width. So numbers of one
value are treated alike, in whatever kind they are written; and the check that is made in words admits the
same, with no step that overflows or saturates. -/
theorem accepts_iff_value {f : IntegerFormat} (hf : f ∈ wholeWidths) :
    (∀ n : Number, f.shape.accepts (.number n) = true ↔ ∃ i : ℤ, n.value = i ∧ f.Holds i) ∧
      (∀ m n : Number, m.value = n.value →
        f.shape.accepts (.number m) = f.shape.accepts (.number n)) ∧
      ∀ n : Number, f.holdsInWords? n = some (f.shape.accepts (.number n)) := by
  refine ⟨fun n => ?_, fun m n h => ?_, fun n => ?_⟩
  · rw [accepts_shape hf, Option.any_eq_true]
    refine exists_congr fun i => ?_
    rw [Number.toInt?_eq_some_iff, contains_range_iff hf]
  · rw [accepts_shape hf, accepts_shape hf, Number.toInt?_eq_of_value_eq h]
  · rw [accepts_shape hf, holdsInWords?_eq hf]

/-- The least word keeps the format of its width, and what is past the greatest does not. -/
theorem accepts_iff_value_wordEnd :
    let f : IntegerFormat := ⟨"int128", true, 128⟩
    f ∈ wholeWidths ∧ f.shape.accepts (.number (.double (wordEnd true))) = true ∧
      f.shape.accepts (.number (.double (wordEnd false))) = false := by
  intro f
  have hf : f ∈ wholeWidths := by decide
  have haccepts := (accepts_iff_value hf).1
  refine ⟨hf, (haccepts _).2 ⟨-2 ^ 127, ?_, by decide⟩, Bool.eq_false_iff.2 fun h => ?_⟩
  · rw [Number.value, value_wordEnd]
    norm_num
  · obtain ⟨i, hi, hholds⟩ := (haccepts _).1 h
    rw [Number.value, value_wordEnd] at hi
    obtain rfl : 2 ^ 127 = i := by exact_mod_cast hi
    exact absurd hholds (by decide)

/-- The doubles around `2 ^ 64`. -/
example : [4895412794951729151, 4895412794951729152].map (fun rank =>
    (IntegerFormat.mk "uint64" false 64).shape.accepts (.number (.double ⟨false, rank⟩))) =
      [true, false] := by
  rfl

/-! ## The greatest unsigned width -/

/-- The format of unsigned integers of 128 bits, which a signed word holds only half of. -/
def uint128 : IntegerFormat := ⟨"uint128", false, 128⟩

theorem ofFormat?_uint128 : IntegerRange.ofFormat? uint128.name = some uint128.range := rfl

theorem range_uint128 : uint128.range = ⟨0, 2 ^ 127 - 1⟩ := rfl

theorem rangeInWords?_uint128 : uint128.rangeInWords? = some uint128.range := rfl

/-- The format of the greatest unsigned width admits a number if its exact value is a natural number that a
signed word of that width holds. The check that is made in words admits the same. -/
theorem accepts_uint128_iff (n : Number) :
    (uint128.shape.accepts (.number n) = true ↔ ∃ i : ℤ, n.value = i ∧ 0 ≤ i ∧ i < 2 ^ 127) ∧
      uint128.holdsInWords? n = some (uint128.shape.accepts (.number n)) := by
  rw [accepts_of_ofFormat? ofFormat?_uint128]
  constructor
  · rw [Option.any_eq_true]
    refine exists_congr fun i => and_congr Number.toInt?_eq_some_iff ?_
    rw [range_uint128, IntegerRange.contains, decide_eq_true_eq]
    dsimp only
    omega
  · rw [holdsInWords?, rangeInWords?_uint128]
    exact liesInWords?_eq (by rw [range_uint128]; decide) n

/-- What is past the greatest signed word is no number of the format, though it has no more than 128 bits. -/
theorem not_accepts_uint128_wordEnd :
    let n : Number := .double (wordEnd false)
    ¬ (uint128.shape.accepts (.number n) = true ↔ ∃ i : ℤ, n.value = i ∧ 0 ≤ i ∧ i < 2 ^ 128) := by
  intro n h
  have hvalue : n.value = (2 ^ 127 : ℤ) := by
    show (wordEnd false).value = _
    rw [value_wordEnd]
    norm_num
  have haccepts := h.2 ⟨2 ^ 127, hvalue, by norm_num, by norm_num⟩
  have hrejects : uint128.shape.accepts (.number n) = false := rfl
  rw [hrejects] at haccepts
  cases haccepts

end IntegerFormat

end ContractInterface
