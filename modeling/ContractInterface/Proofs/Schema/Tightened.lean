/-
Nodes that differ in constraints (`Node.Tightened`): where following the references of both fails in the
same way or gives shapes that differ in their constraints only, so does resolving the nodes. Every kind of
node keeps this. The alternatives of a type list have one set of constraints, so two of them are equal or
not whatever the constraints are (`Shape.OfTightenedTag.same_eq`).
-/
import ContractInterface.Proofs.Shape.Kinds
import ContractInterface.Proofs.Shape.Tightened

namespace ContractInterface

open Json

namespace Node

/-! ## Nodes -/

/-- What follows references fails in the same way, or gives shapes that differ in their constraints. -/
def FollowedTightened (f g : String → Except ResolveError Shape) : Prop :=
  ∀ pointer, Parallel Shape.Tightened (f pointer) (g pointer)

/-- Both nodes fail in the same way, or their shapes differ in constraints only. -/
structure Tightened (n m : Node) : Prop where
  parallel : ∀ {f g : String → Except ResolveError Shape}, FollowedTightened f g →
    Parallel Shape.Tightened (n.resolveWith f) (m.resolveWith g)

section Parts

variable {f g : String → Except ResolveError Shape} (hfg : FollowedTightened f g)

include hfg

theorem parallel_resolveAll {ns ms : List Node} (h : List.Forall₂ Tightened ns ms) :
    Parallel (List.Forall₂ Shape.Tightened) (resolveAll f ns) (resolveAll g ms) := by
  induction h with
  | nil => exact .ok .nil
  | cons hnm _ ih =>
    exact (hnm.parallel hfg).bind fun s t hst => ih.bind fun ss ts h => .ok (.cons hst h)

theorem parallel_resolveProperties (required : Option (List String)) {ps qs : List (String × Node)}
    (h : List.Forall₂ (fun p q => p.1 = q.1 ∧ p.2.Tightened q.2) ps qs) :
    Parallel (List.Forall₂ (Property.Rel Shape.Tightened)) (resolveProperties f required ps)
      (resolveProperties g required qs) := by
  induction h with
  | nil => exact .ok .nil
  | @cons p q ps qs hpq _ ih =>
    obtain ⟨name, n⟩ := p
    obtain ⟨_, m⟩ := q
    obtain ⟨rfl, hnm⟩ := hpq
    exact (hnm.parallel hfg).bind fun s t hst => ih.bind fun ss ts h => .ok (.cons ⟨rfl, rfl, hst⟩ h)

theorem parallel_resolveAdditional {a b : Additional Node} (h : Additional.Rel Tightened a b) :
    Parallel (Additional.Rel Shape.Tightened) (resolveAdditional f a) (resolveAdditional g b) := by
  cases h with
  | forbidden => exact .ok .forbidden
  | untyped => exact .ok .untyped
  | typed h => exact (h.parallel hfg).bind fun s t hst => .ok (.typed hst)

end Parts

namespace Tightened

variable {ns ms : List Node}

theorem reference (pointer : String) : Tightened (.reference pointer) (.reference pointer) :=
  ⟨fun hfg => hfg pointer⟩

theorem constant (v : Value) : Tightened (.constant v) (.constant v) :=
  ⟨fun _ => .ok (.literal v)⟩

theorem enumeration (vs : List Value) : Tightened (.enumeration vs) (.enumeration vs) :=
  ⟨fun _ => .ok (.enum _)⟩

theorem intersection (h : List.Forall₂ Tightened ns ms) :
    Tightened (.intersection ns) (.intersection ms) :=
  ⟨fun hfg => (parallel_resolveAll hfg h).bind fun _ _ h => .ok (.ofConjunction h)⟩

theorem object {ps qs : List (String × Node)} {a b : Additional Node}
    (hps : List.Forall₂ (fun p q => p.1 = q.1 ∧ p.2.Tightened q.2) ps qs)
    (required : Option (List String)) (hab : Additional.Rel Tightened a b) :
    Tightened (.object ps required a) (.object qs required b) :=
  ⟨fun hfg => (parallel_resolveProperties hfg required hps).bind fun _ _ hps =>
    (parallel_resolveAdditional hfg hab).bind fun _ _ hab => .ok (.object_of_forall₂ hps hab)⟩

theorem tuple (h : List.Forall₂ Tightened ns ms) : Tightened (.tuple ns) (.tuple ms) :=
  ⟨fun hfg => (parallel_resolveAll hfg h).bind fun _ _ h => .ok (.tuple_of_forall₂ h)⟩

theorem list {x y : Option Node} (h : Option.Rel Tightened x y) {c d : Constraints}
    (hcd : c.Tightened d) : Tightened (.list x c) (.list y d) := by
  refine ⟨fun {f g} hfg => ?_⟩
  cases h with
  | none => exact .ok (.list .any hcd)
  | some h => exact (h.parallel hfg).bind fun _ _ h => .ok (.list h hcd)

theorem union (h : List.Forall₂ Tightened ns ms) : Tightened (.union ns) (.union ms) :=
  ⟨fun hfg => (parallel_resolveAll hfg h).bind fun _ _ h => .ok (.ofAlternatives h)⟩

theorem unknown : Tightened .unknown .unknown := ⟨fun _ => .ok .any⟩

end Tightened

end Node

/-! ## Type tags -/

theorem Constraints.same_refl (c : Constraints) : c.same c = true := by
  have hbound : ∀ x : Option Double, sameBound x x = true := by
    rintro (_ | x)
    · rfl
    · exact x.same_refl
  simp [same, hbound]

namespace Shape

/-- The shape of a tag that is neither of objects nor of arrays; one that is not known permits
everything. -/
def ofFlatTag (tag : String) (c : Constraints) : Shape :=
  ((Primitive.ofTag? tag).map fun p => p.shape c).getD .any

theorem ofFlatTag_ofKind {tag : String} (hobject : tag ≠ "object") (harray : tag ≠ "array")
    (c : Constraints) : (ofFlatTag tag c).OfKind tag := by
  have hkind : (ofFlatTag tag c).isObject = false ∧ (ofFlatTag tag c).isArray = false := by
    unfold ofFlatTag
    rcases Primitive.ofTag? tag with _ | p
    · exact ⟨rfl, rfl⟩
    · cases p <;> exact ⟨rfl, rfl⟩
  rw [← beq_eq_false_iff_ne] at hobject harray
  exact ⟨hkind.1.trans hobject.symm, hkind.2.trans harray.symm⟩

/-- With one set of constraints, two tags have equal shapes or not whatever is in the set. -/
theorem same_ofFlatTag_eq (tag tag' : String) (c d : Constraints) :
    (ofFlatTag tag c).same (ofFlatTag tag' c) = (ofFlatTag tag d).same (ofFlatTag tag' d) := by
  unfold ofFlatTag
  rcases Primitive.ofTag? tag with _ | p <;> rcases Primitive.ofTag? tag' with _ | q
  · rfl
  · cases q <;> rfl
  · cases p <;> rfl
  · cases p <;> cases q <;> simp [Primitive.shape, same, Constraints.same_refl]

theorem Tightened.ofFlatTag (tag : String) {c d : Constraints} (hcd : c.Tightened d) :
    (ofFlatTag tag c).Tightened (ofFlatTag tag d) := by
  unfold Shape.ofFlatTag
  rcases Primitive.ofTag? tag with _ | p
  · exact .any
  · cases p with
    | string => exact .string hcd
    | integer | number => exact .number hcd
    | boolean => exact .bool
    | null => exact .null

/-- Shapes that one tag stands for in schemas with the constraints `c` and `d`. -/
structure OfTightenedTag (c d : Constraints) (tag : String) (s t : Shape) : Prop where
  left : s.OfKind tag
  right : t.OfKind tag
  flat : tag ≠ "object" → tag ≠ "array" → s = ofFlatTag tag c ∧ t = ofFlatTag tag d
  tightened : s.Tightened t

theorem OfTightenedTag.same_eq {c d : Constraints} {tag tag' : String} {s t s' t' : Shape}
    (h : OfTightenedTag c d tag s t) (h' : OfTightenedTag c d tag' s' t') (htags : tag ≠ tag') :
    s.same s' = t.same t' := by
  refine same_eq_of_ofKind htags h.left h.right h'.left h'.right
    fun hobject harray hobject' harray' => ?_
  obtain ⟨rfl, rfl⟩ := h.flat hobject harray
  obtain ⟨rfl, rfl⟩ := h'.flat hobject' harray'
  exact same_ofFlatTag_eq tag tag' c d

end Shape

namespace Node

/-- The nodes of a tag in schemas with the constraints `c` and `d`. -/
structure OfTightenedTag (c d : Constraints) (tag : String) (n m : Node) : Prop where
  parallel : ∀ {f g : String → Except ResolveError Shape}, FollowedTightened f g →
    Parallel (Shape.OfTightenedTag c d tag) (n.resolveWith f) (m.resolveWith g)

namespace OfTightenedTag

variable {c d : Constraints} {n m : Node}

theorem tightened {tag : String} (h : OfTightenedTag c d tag n m) : n.Tightened m :=
  ⟨fun hfg => (h.parallel hfg).imp_of_ok fun _ _ _ _ h => h.tightened⟩

theorem object (h : n.Tightened m) (hn : ∃ ps r a, n = .object ps r a)
    (hm : ∃ ps r a, m = .object ps r a) : OfTightenedTag c d "object" n m :=
  ⟨fun hfg => (h.parallel hfg).imp_of_ok fun _ _ hs ht hst =>
    ⟨ofKind_of_object hn hs, ofKind_of_object hm ht, fun h => absurd rfl h, hst⟩⟩

theorem array (h : n.Tightened m) (hn : (∃ ns, n = .tuple ns) ∨ ∃ items c, n = .list items c)
    (hm : (∃ ns, m = .tuple ns) ∨ ∃ items c, m = .list items c) : OfTightenedTag c d "array" n m :=
  ⟨fun hfg => (h.parallel hfg).imp_of_ok fun _ _ hs ht hst =>
    ⟨ofKind_of_array hn hs, ofKind_of_array hm ht, fun _ h => absurd rfl h, hst⟩⟩

theorem flat {tag : String} (hobject : tag ≠ "object") (harray : tag ≠ "array")
    (hcd : c.Tightened d) : OfTightenedTag c d tag
      (((Primitive.ofTag? tag).map fun p => .primitive p c).getD .unknown)
      (((Primitive.ofTag? tag).map fun p => .primitive p d).getD .unknown) := by
  have hresolve : ∀ (c : Constraints) (f : String → Except ResolveError Shape),
      (((Primitive.ofTag? tag).map fun p => .primitive p c).getD .unknown : Node).resolveWith f =
        .ok (Shape.ofFlatTag tag c) := fun c f => by
    unfold Shape.ofFlatTag
    cases Primitive.ofTag? tag <;> rfl
  refine ⟨fun {f g} _ => ?_⟩
  rw [hresolve c f, hresolve d g]
  exact .ok ⟨Shape.ofFlatTag_ofKind hobject harray c, Shape.ofFlatTag_ofKind hobject harray d,
    fun _ _ => ⟨rfl, rfl⟩, .ofFlatTag tag hcd⟩

end OfTightenedTag

theorem Tightened.typeList {tags : List String} (hnodup : tags.Nodup) {c d : Constraints}
    {a b : String → Node} (h : ∀ tag, OfTightenedTag c d tag (a tag) (b tag)) :
    Tightened (.typeList (tags.map a)) (.typeList (tags.map b)) := by
  refine ⟨fun {f g} hfg => ?_⟩
  have hall : ∀ tags : List String, Parallel (Shape.Abreast (Shape.OfTightenedTag c d) tags)
      (resolveAll f (tags.map a)) (resolveAll g (tags.map b)) := fun tags => by
    induction tags with
    | nil => exact .ok .nil
    | cons tag tags ih =>
      exact ((h tag).parallel hfg).bind fun s t hst => ih.bind fun ss ts h => .ok (.cons hst h)
  refine (hall tags).bind fun ss ts h => .ok ?_
  exact Shape.rel_ofTypeList .any .union_of_forall₂ h (fun _ _ _ h => h.tightened) <|
    hnodup.imp fun hne s t s' t' h h' => h.same_eq h' hne

end Node

end ContractInterface
