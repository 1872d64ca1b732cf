/-
Schemas that are read as related nodes. A relation of nodes that every kind of node keeps, from its parts to
itself (`Node.Congruence`), holds of two schemas if it holds of what is read under each of their keywords
(`Schema.ReadsAs.of_lookup`).
-/
import ContractInterface.Proofs.Schema.Keywords

namespace ContractInterface

open Json

namespace Node

/-! ## Congruences -/

/-- A relation of nodes that holds of two nodes of one kind if it holds of their parts. -/
structure Congruence (R : Node → Node → Prop) : Prop where
  refl : ∀ n, R n n
  intersection : ∀ {ns ms}, List.Forall₂ R ns ms → R (.intersection ns) (.intersection ms)
  typeList : ∀ {ns ms}, List.Forall₂ R ns ms → R (.typeList ns) (.typeList ms)
  object : ∀ {ps qs} required {a b}, List.Forall₂ (fun p q => p.1 = q.1 ∧ R p.2 q.2) ps qs →
    Additional.Rel R a b → R (.object ps required a) (.object qs required b)
  tuple : ∀ {ns ms}, List.Forall₂ R ns ms → R (.tuple ns) (.tuple ms)
  list : ∀ {x y} c, Option.Rel R x y → R (.list x c) (.list y c)
  union : ∀ {ns ms}, List.Forall₂ R ns ms → R (.union ns) (.union ms)

theorem Congruence.keptByKinds {R : Node → Node → Prop} (hR : Congruence R) :
    KeptByKinds R fun _ => R where
  reference _ := hR.refl _
  unknown := hR.refl _
  intersection := hR.intersection
  union := hR.union
  ofTag h := h
  typeList _ h := by
    apply hR.typeList
    rw [List.forall₂_map_left_iff, List.forall₂_map_right_iff]
    exact List.forall₂_same.2 fun tag _ => h tag

end Node

namespace Schema

/-! ## Values in their place -/

/-- The keywords that a schema is read by. -/
def keywords : List String :=
  ["$ref", "const", "enum", "allOf", "oneOf", "anyOf", "type"] ++ Node.tagKeywords

/-- Two values that are read as related nodes in their place. -/
structure ReadsAs (R : Node → Node → Prop) (place : Place) (v w : Value) : Prop where
  node : place = .schema → R (Node.roles v).node (Node.roles w).node
  elements : place = .schema → List.Forall₂ R (Node.roles v).elements (Node.roles w).elements
  named : place = .named →
    List.Forall₂ (fun p q => p.1 = q.1 ∧ R p.2 q.2) (Node.roles v).named (Node.roles w).named
  eq_of_other : place = .other → v = w
  kind : v = w ∨ (∃ vs ws, v = .array vs ∧ w = .array ws) ∨ ∃ ms ns, v = .object ms ∧ w = .object ns

namespace ReadsAs

variable {R : Node → Node → Prop} {place : Place} {v w : Value}

theorem refl (hR : Node.Congruence R) (place : Place) (v : Value) : ReadsAs R place v v where
  node _ := hR.refl _
  elements _ := List.forall₂_same.2 fun n _ => hR.refl n
  named _ := List.forall₂_same.2 fun p _ => ⟨rfl, hR.refl p.2⟩
  eq_of_other _ := rfl
  kind := .inl rfl

theorem isArray_eq (h : ReadsAs R place v w) : v.asArray?.isSome = w.asArray?.isSome := by
  obtain rfl | ⟨vs, ws, rfl, rfl⟩ | ⟨ms, ns, rfl, rfl⟩ := h.kind
  · rfl
  · rfl
  · rfl

/-- Lists of schemas are read item by item. -/
theorem array (hR : Node.Congruence R) {vs ws : List Value}
    (h : List.Forall₂ (ReadsAs R .schema) vs ws) : ReadsAs R .schema (.array vs) (.array ws) where
  node _ := hR.refl .unknown
  elements _ := by
    show List.Forall₂ R (Node.nodes vs) (Node.nodes ws)
    rw [Node.nodes_eq_map, Node.nodes_eq_map, List.forall₂_map_left_iff, List.forall₂_map_right_iff]
    exact h.imp fun v w h => h.node rfl
  named := nofun
  eq_of_other := nofun
  kind := .inr (.inl ⟨vs, ws, rfl, rfl⟩)

/-- Schemas by name are read one by one. -/
theorem named_object {ms ns : Members}
    (h : List.Forall₂ (fun m n => m.1 = n.1 ∧ ReadsAs R .schema m.2 n.2) ms ns) :
    ReadsAs R .named (.object ms) (.object ns) where
  node := nofun
  elements := nofun
  named _ := by
    show List.Forall₂ _ ((Node.rolesOfMembers ms).map fun part => (part.1, part.2.node))
      ((Node.rolesOfMembers ns).map fun part => (part.1, part.2.node))
    simp only [Node.rolesOfMembers_eq_map, List.map_map, List.forall₂_map_left_iff,
      List.forall₂_map_right_iff]
    exact h.imp fun m n h => ⟨h.1, h.2.node rfl⟩
  eq_of_other := nofun
  kind := .inr (.inr ⟨ms, ns, rfl, rfl⟩)

end ReadsAs

end Schema

namespace Node

/-! ## Members -/

/-- Parts that are read as related in a role. -/
theorem rel_map_rolesOfMembers {R : Value → Value → Prop} {β : Type} {S : β → β → Prop} {role : Roles → β}
    {ms ns : Members} {key : String} (h : Option.Rel R (ms.lookup key) (ns.lookup key))
    (hrole : ∀ v w, R v w → S (role (roles v)) (role (roles w))) :
    Option.Rel S (((rolesOfMembers ms).lookup key).map role) (((rolesOfMembers ns).lookup key).map role) := by
  rw [lookup_rolesOfMembers, lookup_rolesOfMembers, Option.map_map, Option.map_map]
  exact rel_map h hrole

section Members

variable {R : Node → Node → Prop} {ms ns : Members}
  (h : ∀ key ∈ Schema.keywords, Option.Rel (Schema.ReadsAs R (.under key)) (ms.lookup key) (ns.lookup key))

include h

/-- What is no schema is the same value. -/
theorem lookup_eq_of_readsAs : ∀ key ∈ ["$ref", "const", "enum", "type", "required"] ++ Constraints.keywords,
    ms.lookup key = ns.lookup key := by
  have hother : ∀ key ∈ ["$ref", "const", "enum", "type", "required"] ++ Constraints.keywords,
      key ∈ Schema.keywords ∧ Place.under key = .other := by decide
  intro key hkey
  exact eq_of_rel (h key (hother key hkey).1) fun _ _ h => h.eq_of_other (hother key hkey).2

/-- Under these keywords stand schemas and lists of schemas. -/
theorem part_of_readsAs : ∀ key ∈ ["allOf", "oneOf", "anyOf", "items", "additionalProperties"],
    Option.Rel (Schema.ReadsAs R .schema) (ms.lookup key) (ns.lookup key) := by
  have hschema : ∀ key ∈ ["allOf", "oneOf", "anyOf", "items", "additionalProperties"],
      key ∈ Schema.keywords ∧ Place.under key = .schema := by decide
  intro key hkey
  exact (hschema key hkey).2 ▸ h key (hschema key hkey).1

theorem isArrayAt_eq_of_readsAs {key : String} (hkey : key ∈ Schema.keywords) :
    isArrayAt ms key = isArrayAt ns key := by
  unfold isArrayAt
  rcases rel_cases (h key hkey) with ⟨hv, hw⟩ | ⟨v, w, hv, hw, hvw⟩
  · rw [hv, hw]
  · rw [hv, hw]
    exact hvw.isArray_eq

theorem elementsAt_of_readsAs : ∀ key ∈ ["allOf", "oneOf", "anyOf", "items"],
    List.Forall₂ R (elementsAt (rolesOfMembers ms) key) (elementsAt (rolesOfMembers ns) key) := by
  intro key hkey
  have hpart := part_of_readsAs h key (List.mem_append_left ["additionalProperties"] hkey)
  exact getD_of_rel (rel_map_rolesOfMembers hpart fun _ _ h => h.elements rfl) .nil

theorem constraints_eq_of_readsAs : Constraints.ofMembers ms = Constraints.ofMembers ns :=
  Constraints.ofMembers_congr fun key hkey =>
    lookup_eq_of_readsAs h key (List.mem_append_right _ hkey)

variable (hR : Congruence R)

include hR

theorem additional_of_readsAs :
    Additional.Rel R (additional ms (rolesOfMembers ms)) (additional ns (rolesOfMembers ns)) := by
  unfold additional
  rw [lookup_rolesOfMembers, lookup_rolesOfMembers]
  have hpart := part_of_readsAs h "additionalProperties" (by simp)
  rcases rel_cases hpart with ⟨hv, hw⟩ | ⟨v, w, hv, hw, hvw⟩
  · rw [hv, hw]
    exact .untyped
  · rw [hv, hw]
    obtain rfl | ⟨vs, ws, rfl, rfl⟩ | ⟨inner, others, rfl, rfl⟩ := hvw.kind
    · cases v with
      | object inner => exact .typed (hR.refl _)
      | bool b =>
        cases b
        · exact .forbidden
        · exact .untyped
      | null | number | string | array => exact .untyped
    · exact .untyped
    · exact .typed (hvw.node rfl)

theorem objectOf_of_readsAs : R (objectOf ms (rolesOfMembers ms)) (objectOf ns (rolesOfMembers ns)) := by
  have hunder : Place.under "properties" = .named := by decide
  have hproperties := hunder ▸ h "properties" (by decide)
  have hrequired : requiredNames? ms = requiredNames? ns := by
    unfold requiredNames?
    rw [lookup_eq_of_readsAs h "required" (by decide)]
  unfold objectOf
  rw [hrequired]
  apply hR.object
  · exact getD_of_rel (rel_map_rolesOfMembers hproperties fun _ _ h => h.named rfl) .nil
  · exact additional_of_readsAs h hR

theorem arrayOf_of_readsAs : R (arrayOf ms (rolesOfMembers ms)) (arrayOf ns (rolesOfMembers ns)) := by
  unfold arrayOf
  rw [isArrayAt_eq_of_readsAs h (by decide), constraints_eq_of_readsAs h]
  split
  · exact hR.tuple (elementsAt_of_readsAs h "items" (by simp))
  · have hitems := part_of_readsAs h "items" (by simp)
    exact hR.list _ (rel_map_rolesOfMembers hitems fun _ _ h => h.node rfl)

theorem readAlike_of_readsAs : ReadAlike R (fun _ => R) ms ns (rolesOfMembers ms) (rolesOfMembers ns) where
  pointer_eq := by rw [lookup_eq_of_readsAs h "$ref" (by decide)]
  constant := by
    unfold constant?
    rw [lookup_eq_of_readsAs h "const" (by decide)]
    exact rel_self fun n _ => hR.refl n
  enumeration := by
    unfold enumeration?
    rw [lookup_eq_of_readsAs h "enum" (by decide)]
    exact rel_self fun n _ => hR.refl n
  isArrayAt_eq key hkey := isArrayAt_eq_of_readsAs h <| by
    revert key
    decide
  elementsAt key hkey := elementsAt_of_readsAs h key (List.mem_append_left ["items"] hkey)
  hasKey_eq key hkey := isSome_eq_of_rel <| h key <| by
    revert key
    decide
  tag_eq := by rw [lookup_eq_of_readsAs h "type" (by decide)]
  tags_eq := by rw [lookup_eq_of_readsAs h "type" (by decide)]
  object := objectOf_of_readsAs h hR
  array := arrayOf_of_readsAs h hR
  flat tag _ _ := by
    unfold flatOf
    rw [constraints_eq_of_readsAs h]
    exact hR.refl _

end Members

end Node

/-- Schemas are read as related nodes if what stands under each keyword is read so. -/
theorem Schema.ReadsAs.of_lookup {R : Node → Node → Prop} (hR : Node.Congruence R) {ms ns : Members}
    (h : ∀ key ∈ keywords, Option.Rel (ReadsAs R (.under key)) (ms.lookup key) (ns.lookup key)) :
    ReadsAs R .schema (.object ms) (.object ns) where
  node _ := (Node.readAlike_of_readsAs h hR).classify_rel hR.keptByKinds
  elements _ := .nil
  named := nofun
  eq_of_other := nofun
  kind := .inr (.inr ⟨ms, ns, rfl, rfl⟩)

end ContractInterface
