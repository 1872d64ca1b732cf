/-
Laws of the equality of JSON values. It is transitive, so a list from which values that equal an
earlier one are left out has the values of the list up to equality (`Value.any_same_distinct`).
-/
import ContractInterface.Json.Value
import ContractInterface.Proofs.Lists

namespace ContractInterface

/-! ## Numbers -/

theorem Double.same_trans {x y z : Double} (h : x.same y) (k : y.same z) : x.same z := by
  simp only [Double.same, beq_iff_eq] at *
  rw [h, k]

namespace Json

theorem Number.same_trans {a b c : Number} (h : a.same b) (k : b.same c) : a.same c := by
  cases a <;> cases b <;> simp only [same, Bool.false_eq_true] at h <;>
    cases c <;> simp only [same, Bool.false_eq_true] at k ⊢
  · simp only [beq_iff_eq] at *
    rw [h, k]
  · simp only [beq_iff_eq] at *
    rw [h, k]
  · exact Double.same_trans h k

/-! ## Values -/

namespace Value

theorem sameMembers_iff {others : Members} : ∀ {members : Members},
    sameMembers members others = true ↔
      ∀ key x, (key, x) ∈ members → ∃ y, others.lookup key = some y ∧ x.same y = true
  | [] => by simp [sameMembers]
  | (key, x) :: rest => by
    have ih := @sameMembers_iff others rest
    simp only [sameMembers, Bool.and_eq_true, ih, List.mem_cons]
    constructor
    · rintro ⟨hx, hrest⟩ key' x' (h | h)
      · cases h
        cases hl : others.lookup key with
        | none => rw [hl] at hx; cases hx
        | some y => rw [hl] at hx; exact ⟨y, rfl, hx⟩
      · exact hrest key' x' h
    · intro h
      obtain ⟨y, hy, hs⟩ := h key x (.inl rfl)
      rw [hy]
      exact ⟨hs, fun key' x' hm => h key' x' (.inr hm)⟩

mutual

theorem same_trans : ∀ {a b c : Value}, a.same b = true → b.same c = true → a.same c = true
  | .null, b, c, h, k => by
    cases b <;> simp only [same, Bool.false_eq_true] at h
    exact k
  | .bool x, b, c, h, k => by
    cases b <;> simp only [same, Bool.false_eq_true, beq_iff_eq] at h
    exact h ▸ k
  | .number x, b, c, h, k => by
    cases b <;> simp only [same, Bool.false_eq_true] at h
    cases c <;> simp only [same, Bool.false_eq_true] at k ⊢
    exact Number.same_trans h k
  | .string x, b, c, h, k => by
    cases b <;> simp only [same, Bool.false_eq_true, beq_iff_eq] at h
    exact h ▸ k
  | .array xs, b, c, h, k => by
    cases b <;> simp only [same, Bool.false_eq_true] at h
    cases c <;> simp only [same, Bool.false_eq_true] at k ⊢
    exact sameItems_trans h k
  | .object xs, b, c, h, k => by
    cases b <;> simp only [same, Bool.false_eq_true, Bool.and_eq_true, beq_iff_eq] at h
    cases c <;> simp only [same, Bool.false_eq_true, Bool.and_eq_true, beq_iff_eq] at k ⊢
    exact ⟨h.1.trans k.1, sameMembers_trans h.2 k.2⟩

theorem sameItems_trans : ∀ {xs ys zs : List Value},
    sameItems xs ys = true → sameItems ys zs = true → sameItems xs zs = true
  | [], ys, zs, h, k => by
    cases ys <;> simp only [sameItems, Bool.false_eq_true] at h
    exact k
  | x :: xs, ys, zs, h, k => by
    cases ys <;> simp only [sameItems, Bool.false_eq_true, Bool.and_eq_true] at h
    cases zs <;> simp only [sameItems, Bool.false_eq_true, Bool.and_eq_true] at k ⊢
    exact ⟨same_trans h.1 k.1, sameItems_trans h.2 k.2⟩

theorem sameMembers_trans : ∀ {xs ys zs : List (String × Value)},
    sameMembers xs ys = true → sameMembers ys zs = true → sameMembers xs zs = true
  | [], ys, zs, h, k => by simp [sameMembers]
  | (key, x) :: xs, ys, zs, h, k => by
    rw [sameMembers_iff] at k
    have htail : sameMembers xs ys = true := by
      simp only [sameMembers, Bool.and_eq_true] at h
      exact h.2
    obtain ⟨y, hy, hxy⟩ := sameMembers_iff.1 h key x (List.mem_cons_self ..)
    obtain ⟨z, hz, hyz⟩ := k key y (mem_of_lookup_eq_some hy)
    simp only [sameMembers, hz, Bool.and_eq_true]
    exact ⟨same_trans hxy hyz, sameMembers_trans htail (sameMembers_iff.2 k)⟩

end

theorem forall₂_of_sameItems : ∀ {xs ys : List Value}, sameItems xs ys = true →
    List.Forall₂ (fun x y => x.same y = true) xs ys
  | [], [], _ => .nil
  | x :: xs, y :: ys, h => by
    simp only [sameItems, Bool.and_eq_true] at h
    exact .cons h.1 (forall₂_of_sameItems h.2)

/-- A value that equals one of the list equals, from the left, one that is kept. -/
theorem any_same_distinct (values : List Value) (v : Value) :
    (∃ c ∈ distinct values, c.same v = true) ↔ ∃ c ∈ values, c.same v = true := by
  obtain ⟨hsub, -, hall⟩ := @foldl_distinct _ same values []
  constructor
  · rintro ⟨c, hc, hs⟩
    exact ⟨c, (hsub c hc).resolve_left (by simp), hs⟩
  · rintro ⟨c, hc, hs⟩
    rcases hall c hc with hc | ⟨k, hk, hkc⟩
    · exact ⟨c, hc, hs⟩
    · exact ⟨k, hk, same_trans hkc hs⟩

theorem distinct_subset (values : List Value) : distinct values ⊆ values := fun v hv =>
  ((@foldl_distinct _ same values []).1 v hv).resolve_left List.not_mem_nil

theorem pairwise_distinct (values : List Value) :
    (distinct values).Pairwise fun v w => v.same w = false :=
  pairwise_foldl_distinct values .nil

end Value

end Json

end ContractInterface
