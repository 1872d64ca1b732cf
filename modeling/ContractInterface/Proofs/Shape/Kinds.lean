/-
The kinds of shapes that type tags ask for. Equal shapes are of one kind, so the shape of an object or of
an array equals the shape of no other tag: which alternatives of a type list are equal is a matter of the
remaining tags (`Shape.same_eq_of_ofKind`).
-/
import ContractInterface.Proofs.Shape.Traversal

namespace ContractInterface

namespace Shape

def isArray : Shape → Bool
  | .tuple _ | .list .. => true
  | _ => false

/-- Equal shapes are of one kind. -/
theorem kind_eq_of_same {s t : Shape} (h : s.same t = true) :
    s.isObject = t.isObject ∧ s.isArray = t.isArray := by
  cases s <;> cases t <;> first | exact ⟨rfl, rfl⟩ | cases h

/-- The shape is of the kind that the tag asks for: an object or an array for its own tag only. -/
structure OfKind (tag : String) (s : Shape) : Prop where
  object : s.isObject = (tag == "object")
  array : s.isArray = (tag == "array")

/-- Whether the shapes of two tags are equal does not depend on what they are beyond their kinds, if that
is so for tags that are neither of objects nor of arrays. -/
theorem same_eq_of_ofKind {tag tag' : String} {s t s' t' : Shape} (htags : tag ≠ tag')
    (hs : OfKind tag s) (ht : OfKind tag t) (hs' : OfKind tag' s') (ht' : OfKind tag' t')
    (hflat : tag ≠ "object" → tag ≠ "array" → tag' ≠ "object" → tag' ≠ "array" →
      s.same s' = t.same t') : s.same s' = t.same t' := by
  have hfalse : ∀ {u u' : Shape}, OfKind tag u → OfKind tag' u' →
      ¬ ((tag == "object") = (tag' == "object") ∧ (tag == "array") = (tag' == "array")) →
      u.same u' = false := fun hu hu' hkind => Bool.eq_false_iff.2 fun hsame => hkind <| by
    rw [← hu.object, ← hu.array, ← hu'.object, ← hu'.array]
    exact kind_eq_of_same hsame
  by_cases hkind : (tag == "object") = (tag' == "object") ∧ (tag == "array") = (tag' == "array")
  · have hneither : ∀ {name : String}, (tag == name) = (tag' == name) → tag ≠ name ∧ tag' ≠ name := by
      intro name heq
      constructor
      · rintro rfl
        exact htags (beq_iff_eq.1 (heq.symm.trans (beq_self_eq_true tag))).symm
      · rintro rfl
        exact htags (beq_iff_eq.1 (heq.trans (beq_self_eq_true tag')))
    obtain ⟨hobject, hobject'⟩ := hneither hkind.1
    obtain ⟨harray, harray'⟩ := hneither hkind.2
    exact hflat hobject harray hobject' harray'
  · rw [hfalse hs hs' hkind, hfalse ht ht' hkind]

end Shape

namespace Node

variable {ε : Type} {f : String → Except ε Shape} {n : Node} {s : Shape}

/-- The node of an object gives the shape of one. -/
theorem ofKind_of_object (hn : ∃ ps r a, n = .object ps r a) (h : n.resolveWith f = .ok s) :
    s.OfKind "object" := by
  obtain ⟨ps, r, a, rfl⟩ := hn
  obtain ⟨_, -, h⟩ := bind_eq_ok.1 h
  obtain ⟨_, -, ⟨⟩⟩ := bind_eq_ok.1 h
  exact ⟨rfl, rfl⟩

/-- The node of an array gives the shape of one. -/
theorem ofKind_of_array (hn : (∃ ns, n = .tuple ns) ∨ ∃ items c, n = .list items c)
    (h : n.resolveWith f = .ok s) : s.OfKind "array" := by
  rcases hn with ⟨ns, rfl⟩ | ⟨_ | item, c, rfl⟩
  · obtain ⟨_, -, ⟨⟩⟩ := bind_eq_ok.1 h
    exact ⟨rfl, rfl⟩
  · cases h
    exact ⟨rfl, rfl⟩
  · obtain ⟨_, -, ⟨⟩⟩ := bind_eq_ok.1 h
    exact ⟨rfl, rfl⟩

end Node

end ContractInterface
