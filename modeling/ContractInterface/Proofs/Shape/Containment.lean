/-
The shapes in a shape. Shapes are taken apart by their children here, so that an argument about all kinds
of shape is one induction (`Shape.childInduction`).
-/
import ContractInterface.Proofs.Schema.Reach
import ContractInterface.Shape.Basic

namespace ContractInterface.Shape

/-! ## Children -/

/-- The shapes that stand directly in a shape. -/
def children : Shape → List Shape
  | .object properties additional => properties.map (·.shape) ++ additional.toList
  | .tuple ss | .union ss | .intersection ss => ss
  | .list items _ => [items]
  | .any | .null | .bool | .number _ | .string _ | .literal _ | .enum _ => []

theorem sizeOf_lt_of_mem_properties {ps : List (Property Shape)} {p : Property Shape} (h : p ∈ ps) :
    sizeOf p.shape < sizeOf ps := by
  have := List.sizeOf_lt_of_mem h
  cases p
  simp only [Property.mk.sizeOf_spec] at this ⊢
  omega

theorem sizeOf_lt_of_mem_additional {a : Additional Shape} {s : Shape} (h : s ∈ a.toList) :
    sizeOf s < sizeOf a := by
  cases a with
  | typed t =>
    obtain rfl := List.mem_singleton.1 h
    simp
  | forbidden | untyped => cases h

theorem sizeOf_lt_of_mem_children {s t : Shape} (h : t ∈ s.children) : sizeOf t < sizeOf s := by
  cases s with
  | tuple ss | union ss | intersection ss =>
    have : sizeOf t < sizeOf ss := List.sizeOf_lt_of_mem h
    simp only [tuple.sizeOf_spec, union.sizeOf_spec, intersection.sizeOf_spec]
    omega
  | object ps a =>
    simp only [object.sizeOf_spec]
    rcases List.mem_append.1 h with h | h
    · obtain ⟨p, hp, rfl⟩ := List.mem_map.1 h
      have := sizeOf_lt_of_mem_properties hp
      omega
    · have := sizeOf_lt_of_mem_additional h
      omega
  | list items c =>
    obtain rfl := List.mem_singleton.1 h
    simp only [list.sizeOf_spec]
    omega
  | any | null | bool | number | string | literal | enum => cases h

/-- What holds of a shape once it holds of its children holds of every shape. -/
@[elab_as_elim]
theorem childInduction {P : Shape → Prop} (step : ∀ s : Shape, (∀ t ∈ s.children, P t) → P s)
    (s : Shape) : P s :=
  step s fun t _ => childInduction step t
termination_by sizeOf s
decreasing_by exact sizeOf_lt_of_mem_children ‹_›

/-! ## Containment -/

/-- The shape `t` stands in `s` at some depth, or is `s`. -/
def Contains (s t : Shape) : Prop := Relation.ReflTransGen (fun a b => b ∈ a.children) s t

theorem Contains.refl (s : Shape) : s.Contains s := Relation.ReflTransGen.refl

theorem contains_iff {s t : Shape} : s.Contains t ↔ s = t ∨ ∃ u ∈ s.children, u.Contains t :=
  Relation.ReflTransGen.cases_head_iff

/-- What holds at every depth holds of the shape and, at every depth, of its children. -/
theorem forall_contains_iff {P : Shape → Prop} {s : Shape} : (∀ t, s.Contains t → P t) ↔
    P s ∧ ∀ t ∈ s.children, ∀ u, t.Contains u → P u := by
  constructor
  · intro h
    exact ⟨h s (.refl s), fun t ht u hu => h u (contains_iff.2 (.inr ⟨t, ht, hu⟩))⟩
  · rintro ⟨hs, hc⟩ u hu
    rcases contains_iff.1 hu with rfl | ⟨t, ht, hu⟩
    · exact hs
    · exact hc t ht u hu

end ContractInterface.Shape
