/-
Nodes that cannot be told apart: whatever follows their references, if one has a
shape, the other one has a shape that cannot be told from it (`Node.Alike`). Every kind of node respects
this. Properties may stand in different orders (`Node.NamedAlike`); the alternatives of a type list are
compared to each other, which comes out the same for both (`Shape.OfTag.same_eq`).
-/
import ContractInterface.Proofs.Json.Reordered
import ContractInterface.Proofs.Shape.Alike
import ContractInterface.Proofs.Shape.Kinds

namespace ContractInterface

open Json

/-! ## Literals -/

namespace Shape

theorem Alike.literal {v w : Value} (h : v.Reordered w) : Alike (.literal v) (.literal w) := by
  refine .of_other rfl rfl rfl rfl (.of_iff fun x => ?_)
  rw [accepts_literal_iff, accepts_literal_iff]
  exact ⟨Value.same_trans h.symm.same, Value.same_trans h.same⟩

theorem Alike.enum {vs ws : List Value} (h : List.Forall₂ Value.Reordered vs ws) :
    Alike (.enum (Value.distinct vs)) (.enum (Value.distinct ws)) := by
  have himp : ∀ {vs ws : List Value} {x : Value}, List.Forall₂ Value.Reordered vs ws →
      (∃ c ∈ vs, c.same x = true) → ∃ c ∈ ws, c.same x = true := by
    rintro vs ws x h ⟨c, hc, hx⟩
    obtain ⟨d, hd, hcd⟩ := exists_mem_of_forall₂ h c hc
    exact ⟨d, hd, Value.same_trans hcd.symm.same hx⟩
  refine .of_other rfl rfl rfl rfl (.of_iff fun x => ?_)
  rw [accepts_enum_iff, accepts_enum_iff, Value.any_same_distinct, Value.any_same_distinct]
  exact ⟨himp h, himp (h.flip.imp fun _ _ h => h.symm)⟩

end Shape

namespace Node

/-! ## Nodes that cannot be told apart -/

/-- What follows references gives the second shapes that cannot be told from those of the first, if
the first gives any. -/
def Followed (f g : String → Except ResolveError Shape) : Prop :=
  ∀ pointer, Follows Shape.Alike (f pointer) (g pointer)

/-- Where the first node has a shape, the second one has a shape that cannot be told from it. -/
structure Alike (n m : Node) : Prop where
  follows : ∀ {f g : String → Except ResolveError Shape}, Followed f g →
    Follows Shape.Alike (n.resolveWith f) (m.resolveWith g)

section Parts

variable {f g : String → Except ResolveError Shape} (hfg : Followed f g)

include hfg

theorem follows_resolveAll {ns ms : List Node} (h : List.Forall₂ Alike ns ms) :
    Follows (List.Forall₂ Shape.Alike) (resolveAll f ns) (resolveAll g ms) := by
  induction h with
  | nil => exact .ok .nil
  | cons hnm _ ih => exact (hnm.follows hfg).bind fun s t hst => ih.bind fun ss ts h => .ok (.cons hst h)

theorem follows_resolveAdditional {a b : Additional Node} (h : Additional.Rel Alike a b) :
    Follows (Additional.Rel Shape.Equivalent) (resolveAdditional f a) (resolveAdditional g b) := by
  cases h with
  | forbidden => exact .ok .forbidden
  | untyped => exact .ok .untyped
  | typed h => exact (h.follows hfg).bind fun s t hst => .ok (.typed hst.equivalent)

end Parts

/-! ### Properties -/

/-- The same names, each once, with nodes that cannot be told apart. -/
structure NamedAlike (ps qs : List (String × Node)) : Prop where
  left : (ps.map Prod.fst).Nodup
  right : (qs.map Prod.fst).Nodup
  rel : ∀ name, Option.Rel Alike (ps.lookup name) (qs.lookup name)

/-- A name is declared as its node says. -/
theorem declaration?_of_resolves {f : String → Except ResolveError Shape}
    {required : Option (List String)} {ps : List (String × Node)} {qs : List (Property Shape)}
    (h : List.Forall₂ (ResolvesProperty f required) ps qs) (name : String) :
    Option.Rel (fun n q => ResolvesProperty f required (name, n) q) (ps.lookup name)
      (Shape.declaration? qs name) := by
  induction h with
  | nil => exact .none
  | @cons p q ps qs hpq _ ih =>
    obtain ⟨key, n⟩ := p
    rw [List.lookup_cons, Shape.declaration?_cons, hpq.name]
    by_cases hname : name = key
    · subst hname
      simpa using Option.Rel.some hpq
    · rwa [beq_eq_false_iff_ne.2 hname, if_neg hname]

theorem follows_resolveProperties {f g : String → Except ResolveError Shape} (hfg : Followed f g)
    (required : Option (List String)) {ps qs : List (String × Node)} (h : NamedAlike ps qs) :
    Follows Shape.SameDeclarations (resolveProperties f required ps)
      (resolveProperties g required qs) := by
  intro ss hss
  have hps := resolveProperties_eq_ok.1 hss
  -- each property on the right has its like on the left, which has a shape
  have hexists : ∀ q ∈ qs, ∃ t, ResolvesProperty g required q t := by
    rintro ⟨name, m⟩ hq
    have hrel := h.rel name
    rw [(lookup_eq_some_iff_mem h.right).2 hq] at hrel
    have hdeclared := declaration?_of_resolves hps name
    generalize ps.lookup name = x at hrel hdeclared
    generalize Shape.declaration? ss name = y at hdeclared
    cases hrel with
    | some hnm =>
      cases hdeclared with
      | some hs =>
        obtain ⟨t, ht, -⟩ := hnm.follows hfg _ hs.shape
        exact ⟨⟨name, required.all (·.contains name), t⟩, rfl, rfl, ht⟩
  obtain ⟨ts, hqs⟩ := exists_forall₂ hexists
  refine ⟨ts, resolveProperties_eq_ok.2 hqs, ?_, ?_, fun name => ?_⟩
  · exact map_name_of_resolves hps ▸ h.left
  · exact map_name_of_resolves hqs ▸ h.right
  · have hrel := h.rel name
    have hleft := declaration?_of_resolves hps name
    have hright := declaration?_of_resolves hqs name
    generalize ps.lookup name = x at hrel hleft
    generalize qs.lookup name = y at hrel hright
    generalize Shape.declaration? ss name = s at hleft
    generalize Shape.declaration? ts name = t at hright
    cases hrel with
    | none =>
      cases hleft
      cases hright
      exact .none
    | some hnm =>
      cases hleft with
      | some hs =>
        cases hright with
        | some ht =>
          obtain ⟨u, hu, hsu⟩ := hnm.follows hfg _ hs.shape
          obtain rfl := Except.ok.inj (hu.symm.trans ht.shape)
          exact .some ⟨hs.name.trans ht.name.symm, hs.required.trans ht.required.symm, hsu.equivalent⟩

/-! ### Kinds of nodes -/

namespace Alike

variable {ns ms : List Node}

theorem reference (pointer : String) : Alike (.reference pointer) (.reference pointer) :=
  ⟨fun hfg => hfg pointer⟩

theorem constant {v w : Value} (h : v.Reordered w) : Alike (.constant v) (.constant w) :=
  ⟨fun _ => .ok (.literal h)⟩

theorem enumeration {vs ws : List Value} (h : List.Forall₂ Value.Reordered vs ws) :
    Alike (.enumeration vs) (.enumeration ws) :=
  ⟨fun _ => .ok (.enum h)⟩

theorem intersection (h : List.Forall₂ Alike ns ms) : Alike (.intersection ns) (.intersection ms) :=
  ⟨fun hfg => (follows_resolveAll hfg h).bind fun _ _ h => .ok (.ofConjunction h)⟩

theorem object {ps qs : List (String × Node)} {a b : Additional Node} (hps : NamedAlike ps qs)
    (required : Option (List String)) (ha : Additional.Rel Alike a b) :
    Alike (.object ps required a) (.object qs required b) :=
  ⟨fun hfg => (follows_resolveProperties hfg required hps).bind fun _ _ hps =>
    (follows_resolveAdditional hfg ha).bind fun _ _ ha => .ok (.object hps ha)⟩

theorem tuple (h : List.Forall₂ Alike ns ms) : Alike (.tuple ns) (.tuple ms) :=
  ⟨fun hfg => (follows_resolveAll hfg h).bind fun _ _ h => .ok (.tuple h)⟩

theorem list {x y : Option Node} (h : Option.Rel Alike x y) (c : Constraints) :
    Alike (.list x c) (.list y c) := by
  refine ⟨fun {f g} hfg => ?_⟩
  cases h with
  | none => exact .ok (.list .any c)
  | some h => exact (h.follows hfg).bind fun _ _ h => .ok (.list h c)

theorem union (h : List.Forall₂ Alike ns ms) : Alike (.union ns) (.union ms) :=
  ⟨fun hfg => (follows_resolveAll hfg h).bind fun _ _ h => .ok (.ofAlternatives h)⟩

theorem unknown : Alike .unknown .unknown := ⟨fun _ => .ok .any⟩

end Alike

end Node

/-! ## Type lists -/

namespace Shape

/-- Shapes that one type tag stands for, in schemas that cannot be told apart. -/
structure OfTag (tag : String) (s t : Shape) : Prop where
  object_left : s.isObject = (tag == "object")
  object_right : t.isObject = (tag == "object")
  array_left : s.isArray = (tag == "array")
  array_right : t.isArray = (tag == "array")
  eq : tag ≠ "object" → tag ≠ "array" → s = t
  alike : s.Alike t

/-- Whether the shapes of two tags are equal is not a matter of the order of members. -/
theorem OfTag.same_eq {tag tag' : String} {s t s' t' : Shape} (h : OfTag tag s t)
    (h' : OfTag tag' s' t') (htags : tag ≠ tag') : s.same s' = t.same t' := by
  refine same_eq_of_ofKind htags ⟨h.object_left, h.array_left⟩ ⟨h.object_right, h.array_right⟩
    ⟨h'.object_left, h'.array_left⟩ ⟨h'.object_right, h'.array_right⟩
    fun hobject harray hobject' harray' => ?_
  rw [h.eq hobject harray, h'.eq hobject' harray']

end Shape

namespace Node

/-- The nodes of a type tag, in schemas that cannot be told apart. -/
structure OfTag (tag : String) (n m : Node) : Prop where
  follows : ∀ {f g : String → Except ResolveError Shape}, Followed f g →
    Follows (Shape.OfTag tag) (n.resolveWith f) (m.resolveWith g)

namespace OfTag

theorem alike {tag : String} {n m : Node} (h : OfTag tag n m) : n.Alike m :=
  ⟨fun hfg => (h.follows hfg).imp fun _ _ h => h.alike⟩

theorem object {n m : Node} (h : n.Alike m) (hn : ∃ ps r a, n = .object ps r a)
    (hm : ∃ ps r a, m = .object ps r a) : OfTag "object" n m := by
  refine ⟨fun {f g} hfg s hs => ?_⟩
  obtain ⟨t, ht, hst⟩ := h.follows hfg s hs
  have hleft := ofKind_of_object hn hs
  have hright := ofKind_of_object hm ht
  exact ⟨t, ht, hleft.object, hright.object, hleft.array, hright.array, by simp, hst⟩

theorem array {n m : Node} (h : n.Alike m)
    (hn : (∃ ns, n = .tuple ns) ∨ ∃ items c, n = .list items c)
    (hm : (∃ ns, m = .tuple ns) ∨ ∃ items c, m = .list items c) : OfTag "array" n m := by
  refine ⟨fun {f g} hfg s hs => ?_⟩
  obtain ⟨t, ht, hst⟩ := h.follows hfg s hs
  have hleft := ofKind_of_array hn hs
  have hright := ofKind_of_array hm ht
  exact ⟨t, ht, hleft.object, hright.object, hleft.array, hright.array, by simp, hst⟩

/-- A tag that is neither of objects nor of arrays stands for the same shape in both. -/
theorem flat {tag : String} {n : Node} {s : Shape} (hobject : tag ≠ "object") (harray : tag ≠ "array")
    (hn : ∀ f : String → Except ResolveError Shape, n.resolveWith f = .ok s)
    (hs : s.isObject = false) (hs' : s.isArray = false) (h : s.Alike s) : OfTag tag n n := by
  refine ⟨fun {f g} _ => ?_⟩
  rw [hn f, hn g]
  have hobject := beq_eq_false_iff_ne.2 hobject
  have harray := beq_eq_false_iff_ne.2 harray
  exact .ok ⟨hs.trans hobject.symm, hs.trans hobject.symm, hs'.trans harray.symm,
    hs'.trans harray.symm, fun _ _ => rfl, h⟩

end OfTag

theorem Alike.typeList {tags : List String} (hnodup : tags.Nodup) {a b : String → Node}
    (h : ∀ tag, OfTag tag (a tag) (b tag)) :
    Alike (.typeList (tags.map a)) (.typeList (tags.map b)) := by
  refine ⟨fun {f g} hfg => ?_⟩
  have hall : ∀ tags : List String, Follows (Shape.Abreast Shape.OfTag tags)
      (resolveAll f (tags.map a)) (resolveAll g (tags.map b)) := fun tags => by
    induction tags with
    | nil => exact .ok .nil
    | cons tag tags ih =>
      exact ((h tag).follows hfg).bind fun s t hst => ih.bind fun ss ts h => .ok (.cons hst h)
  refine (hall tags).bind fun ss ts h => .ok ?_
  exact Shape.rel_ofTypeList .any .union h (fun _ _ _ h => h.alike) <|
    hnodup.imp fun hne s t s' t' h h' => h.same_eq h' hne

end Node

end ContractInterface
