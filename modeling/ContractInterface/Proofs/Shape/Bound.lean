/-
Bounds of numbers. A number and its bound are compared as the doubles that are nearest to them, so two that
are close together may come to one. Then an inclusive bound lets the number pass and an exclusive one does
not: bounds err on one side only, and not at all where neither of the two is rounded
(`Bound.errs_one_sidedly`).
-/
import ContractInterface.Proofs.Json.NumberValue
import ContractInterface.Proofs.Shape.Acceptance

namespace ContractInterface

open Json

theorem Constraints.bound?_eq_some_iff {members : Members} {key : String} {l : Double} :
    bound? members key = some l ↔
      ∃ limit, members.lookup key = some (.number limit) ∧ limit.toDouble = l := by
  unfold bound?
  rcases members.lookup key with _ | v
  · simp
  · cases v <;> simp [Value.asNumber?]

namespace Bound

/-- A value is out of bounds: what the keyword rules out, for exact values of the bound and the number. -/
def Excludes : Bound → ℚ → ℚ → Prop
  | .minimum, m, x => x < m
  | .maximum, m, x => m < x
  | .exclusiveMinimum, m, x => x ≤ m
  | .exclusiveMaximum, m, x => m ≤ x

/-- The bound that constraints set by the keyword. -/
def limit? (c : Constraints) : Bound → Option Double
  | .minimum => c.minimum
  | .maximum => c.maximum
  | .exclusiveMinimum => c.exclusiveMinimum
  | .exclusiveMaximum => c.exclusiveMaximum

/-- The shape of numbers that one bound is set for and nothing else. -/
def shape (k : Bound) (limit : Number) : Shape := .number (.ofMembers [(k.name, .number limit)])

theorem limit?_ofMembers (k : Bound) (members : Members) :
    k.limit? (.ofMembers members) = Constraints.bound? members k.name := by
  cases k <;> rfl

theorem limit?_shape_eq_some_iff {k j : Bound} {limit : Number} {l : Double} :
    j.limit? (.ofMembers [(k.name, .number limit)]) = some l ↔ j = k ∧ limit.toDouble = l := by
  rw [limit?_ofMembers, Constraints.bound?_eq_some_iff, List.lookup_cons]
  cases k <;> cases j <;> simp [name]

end Bound

/-! ## Numbers -/

/-- A number is allowed if its nearest double is within each bound, and the number is of the format. -/
theorem Constraints.allowsNumber_iff {c : Constraints} {n : Number} : c.AllowsNumber n ↔
    (∀ k : Bound, ∀ l ∈ k.limit? c, ¬ k.Excludes l.value n.toDouble.value) ∧
      ({ Constraints.empty with format := c.format }).AllowsNumber n := by
  constructor
  · intro h
    refine ⟨fun k l hl => ?_, nofun, nofun, nofun, nofun, h.format⟩
    cases k with
    | minimum => exact not_lt.2 (Double.le_iff_value_le.1 (h.minimum l hl))
    | maximum => exact not_lt.2 (Double.le_iff_value_le.1 (h.maximum l hl))
    | exclusiveMinimum => exact not_le.2 (Double.lt_iff_value_lt.1 (h.exclusiveMinimum l hl))
    | exclusiveMaximum => exact not_le.2 (Double.lt_iff_value_lt.1 (h.exclusiveMaximum l hl))
  · rintro ⟨h, hformat⟩
    exact {
      minimum := fun l hl => Double.le_iff_value_le.2 (not_lt.1 (h .minimum l hl))
      maximum := fun l hl => Double.le_iff_value_le.2 (not_lt.1 (h .maximum l hl))
      exclusiveMinimum := fun l hl => Double.lt_iff_value_lt.2 (not_le.1 (h .exclusiveMinimum l hl))
      exclusiveMaximum := fun l hl => Double.lt_iff_value_lt.2 (not_le.1 (h .exclusiveMaximum l hl))
      format := hformat.format }

theorem Shape.accepts_number_number_iff {c : Constraints} {n : Number} :
    (number c).accepts (.number n) = true ↔ c.AllowsNumber n := by
  rw [accepts_number_iff]
  constructor
  · rintro ⟨_, ⟨⟩, h⟩
    exact h
  · exact fun h => ⟨n, rfl, h⟩

namespace Bound

/-- A single bound rejects the numbers whose nearest double is out of it, as a double itself. -/
theorem accepts_shape_iff {k : Bound} {limit n : Number} : (k.shape limit).accepts (.number n) = true ↔
    ¬ k.Excludes limit.toDouble.value n.toDouble.value := by
  have hformat : (Constraints.ofMembers [(k.name, .number limit)]).format = none := by
    cases k <;> rfl
  rw [shape, Shape.accepts_number_number_iff, Constraints.allowsNumber_iff, hformat]
  constructor
  · exact fun h => h.1 k _ (limit?_shape_eq_some_iff.2 ⟨rfl, rfl⟩)
  · intro h
    refine ⟨fun j l hl => ?_, nofun, nofun, nofun, nofun, nofun⟩
    obtain ⟨rfl, rfl⟩ := limit?_shape_eq_some_iff.1 hl
    exact h

theorem rejects_shape_iff {k : Bound} {limit n : Number} : (k.shape limit).accepts (.number n) = false ↔
    k.Excludes limit.toDouble.value n.toDouble.value := by
  rw [← Bool.not_eq_true, accepts_shape_iff, not_not]

/-- The bounds of a schema are checked each by itself, and its format apart from them. -/
theorem accepts_ofMembers_iff {members : Members} {n : Number} :
    (Shape.number (.ofMembers members)).accepts (.number n) = true ↔
      (∀ (k : Bound) (limit : Number), members.lookup k.name = some (.number limit) →
        (k.shape limit).accepts (.number n) = true) ∧
      (Shape.number { Constraints.empty with
        format := Constraints.text? members "format" }).accepts (.number n) = true := by
  rw [Shape.accepts_number_number_iff, Constraints.allowsNumber_iff, Shape.accepts_number_number_iff]
  refine and_congr_left fun _ => forall_congr' fun k => ?_
  rw [limit?_ofMembers]
  constructor
  · intro h limit hlimit
    exact accepts_shape_iff.2 (h _ (Constraints.bound?_eq_some_iff.2 ⟨limit, hlimit, rfl⟩))
  · intro h l hl
    obtain ⟨limit, hlimit, rfl⟩ := Constraints.bound?_eq_some_iff.1 hl
    exact accepts_shape_iff.1 (h limit hlimit)

/-! ## Rounding -/

/-- The bounds of a number schema are checked one by one. By the exact values of the bound and the number, an
inclusive bound rejects no number that is within it, and an exclusive one rejects every number that is not.
If each of the two is a double, or an integer of at most 53 bits, then what is rejected is what is out of
bounds. -/
theorem errs_one_sidedly (n : Number) :
    (∀ members : Members, (Shape.number (.ofMembers members)).accepts (.number n) = true ↔
      (∀ (k : Bound) (limit : Number), members.lookup k.name = some (.number limit) →
        (k.shape limit).accepts (.number n) = true) ∧
      (Shape.number { Constraints.empty with
        format := Constraints.text? members "format" }).accepts (.number n) = true) ∧
    ∀ limit : Number,
      let rejects (k : Bound) : Prop := (k.shape limit).accepts (.number n) = false
      (limit.value ≤ n.value → ¬ rejects .minimum) ∧ (n.value ≤ limit.value → ¬ rejects .maximum) ∧
      (n.value ≤ limit.value → rejects .exclusiveMinimum) ∧
      (limit.value ≤ n.value → rejects .exclusiveMaximum) ∧
      (n.IsExact → limit.IsExact → ∀ k : Bound, rejects k ↔ k.Excludes limit.value n.value) := by
  refine ⟨fun members => accepts_ofMembers_iff, ?_⟩
  intro limit rejects
  have hrejects : ∀ k, rejects k ↔ k.Excludes limit.toDouble.value n.toDouble.value :=
    fun k => rejects_shape_iff
  refine ⟨fun h => ?_, fun h => ?_, fun h => ?_, fun h => ?_, fun hn hlimit k => ?_⟩
  · rw [hrejects]
    exact not_lt.2 (Number.value_toDouble_mono h)
  · rw [hrejects]
    exact not_lt.2 (Number.value_toDouble_mono h)
  · rw [hrejects]
    exact Number.value_toDouble_mono h
  · rw [hrejects]
    exact Number.value_toDouble_mono h
  · rw [hrejects, Number.value_toDouble hn, Number.value_toDouble hlimit]

/-- The least integer that is no double is halfway between two of them. It comes to the even one, so a bound
at that one is not exact: the inclusive bound admits the integer, and the exclusive one does not. -/
example :
    let n : Number := .natural 9007199254740993
    let limit : Number := .natural 9007199254740992
    (shape .maximum limit).accepts (.number n) = true ∧
      (shape .exclusiveMinimum limit).accepts (.number n) = false := by
  decide

end Bound

end ContractInterface
