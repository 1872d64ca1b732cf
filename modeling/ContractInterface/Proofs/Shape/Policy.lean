/-
The policy of a conjunction of object schemas. It is the one that the last schema declares which declares
one that restricts anything (`policyOfLast_restricting`). A schema that permits every member of an object
in so many words is merged like one that says nothing of them, so the last declaration alone does not
decide (`not_policyOfLast_declared`).
-/
import ContractInterface.Proofs.Schema.Reading
import ContractInterface.Proofs.Shape.Conjunction

namespace ContractInterface

open Json

/-! ## Policies -/

/-- The policy, if it restricts anything. -/
def Additional.restriction? {α : Type} : Additional α → Option (Additional α)
  | .untyped => none
  | policy => some policy

theorem Additional.Rel.restriction? {α β : Type} {R : α → β → Prop} {a : Additional α} {b : Additional β}
    (h : Additional.Rel R a b) : Option.Rel (Additional.Rel R) a.restriction? b.restriction? := by
  cases h with
  | forbidden => exact .some .forbidden
  | typed h => exact .some (.typed h)
  | untyped => exact .none

theorem Additional.Rel.comp {α β γ : Type} {R : α → β → Prop} {S : β → γ → Prop} {T : α → γ → Prop}
    (hT : ∀ x y z, R x y → S y z → T x z) {a : Additional α} {b : Additional β} {c : Additional γ}
    (hab : Additional.Rel R a b) (hbc : Additional.Rel S b c) : Additional.Rel T a c := by
  cases hab with
  | forbidden =>
    cases hbc
    exact .forbidden
  | typed hxy =>
    cases hbc with
    | typed hyz => exact .typed (hT _ _ _ hxy hyz)
  | untyped =>
    cases hbc
    exact .untyped

namespace Shape

theorem policy?_object (ps : List (Property Shape)) (a : Additional Shape) :
    policy? (.object ps a) = a.restriction? := by
  cases a <;> rfl

/-- Whatever names are repeated, the last restriction prevails. -/
theorem exists_foldl_mergeInto {objects : List Shape} (hobjects : ∀ o ∈ objects, o.isObject = true)
    (hne : objects ≠ []) : ∃ ps, objects.foldl mergeInto none =
      some (.object ps ((objects.reverse.findSome? policy?).getD .untyped)) := by
  induction objects using List.reverseRecOn with
  | nil => exact absurd rfl hne
  | append_singleton objects o ih =>
    obtain ⟨qs, b, rfl⟩ := exists_eq_object (hobjects o (by simp))
    rw [List.foldl_append, List.foldl_cons, List.foldl_nil, getD_policy?_snoc]
    by_cases hnil : objects = []
    · rw [hnil]
      cases b <;> exact ⟨qs, rfl⟩
    · obtain ⟨ps, hps⟩ := ih (fun o ho => hobjects o (List.mem_append_left _ ho)) hnil
      rw [hps]
      exact ⟨overlayAll ps qs, rfl⟩

/-- A conjunction of objects is one object. -/
theorem exists_ofConjunction_eq_object {objects : List Shape}
    (hobjects : ∀ o ∈ objects, o.isObject = true) (hne : objects ≠ []) :
    ∃ ps, ofConjunction objects =
      .object ps ((objects.reverse.findSome? policy?).getD .untyped) := by
  have hparts : partsOfAll objects = objects :=
    partsOfAll_of_parts fun o ho => (IsPart.of_isObject (hobjects o ho)).parts_eq
  have hothers : objects.filter (fun o => !o.isObject) = [] :=
    List.filter_eq_nil_iff.2 fun o ho => by simp [hobjects o ho]
  obtain ⟨ps, hmerged⟩ := exists_foldl_mergeInto hobjects hne
  refine ⟨ps, ?_⟩
  rw [ofConjunction_eq, hparts, gather, hmerged, hothers]
  rfl

end Shape

/-! ## Declarations -/

namespace Node

/-- The policy that a schema declares by its keyword, in so many words. -/
def declaredPolicy? (schema : Value) : Option (Additional Value) :=
  match schema.asObject?.bind (·.lookup "additionalProperties") with
  | some (.bool false) => some .forbidden
  | some (.bool true) => some .untyped
  | some (.object members) => some (.typed (.object members))
  | _ => none

/-- The policy that a schema declares, if it restricts anything. -/
def restrictingPolicy? (schema : Value) : Option (Additional Value) :=
  (declaredPolicy? schema).bind Additional.restriction?

theorem restrictingPolicy?_eq (schema : Value) :
    restrictingPolicy? schema = ((declaredPolicy? schema).getD .untyped).restriction? := by
  unfold restrictingPolicy?
  cases declaredPolicy? schema <;> rfl

/-- An object schema is read with the policy that it declares, and as permitting everything if it declares
none. -/
theorem additional_rel (members : Members) : Additional.Rel (fun w n => n = ofValue w)
    ((declaredPolicy? (.object members)).getD .untyped)
    (additional members (rolesOfMembers members)) := by
  have hdeclared : declaredPolicy? (.object members) =
      match members.lookup "additionalProperties" with
      | some (.bool false) => some .forbidden
      | some (.bool true) => some .untyped
      | some (.object members) => some (.typed (.object members))
      | _ => none := rfl
  unfold additional
  rw [hdeclared, lookup_rolesOfMembers]
  cases members.lookup "additionalProperties" with
  | none => exact .untyped
  | some v =>
    cases v with
    | bool b => cases b with
      | true => exact .untyped
      | false => exact .forbidden
    | object inner => exact .typed rfl
    | null | number | string | array => exact .untyped

/-! ## Object schemas -/

section Object

variable {members : Members} {parts : Parts} {ps : List (String × Node)} {r : Option (List String)}
  {a : Additional Node}

theorem objectOf_of_ofTag? {tag : String} (h : ofTag? members parts tag = some (.object ps r a)) :
    objectOf members parts = .object ps r a := by
  unfold ofTag? at h
  split at h
  · exact Option.some.inj h
  · split at h
    · unfold arrayOf at h
      split at h <;> cases h
    · obtain ⟨p, -, hp⟩ := Option.map_eq_some_iff.1 h
      cases hp

theorem objectOf_of_typed? (h : typed? members parts = some (.object ps r a)) :
    objectOf members parts = .object ps r a := by
  unfold typed? at h
  split at h
  · exact objectOf_of_ofTag? h
  · split at h
    · exact Option.some.inj h
    · cases h

/-- Only as a single type is a schema read as one of objects. -/
theorem objectOf_of_classify (h : classify members parts = .object ps r a) :
    objectOf members parts = .object ps r a := by
  rw [classify_eq] at h
  rcases getD_orElse_cases h with h | h
  · obtain ⟨_, ⟨⟩⟩ | ⟨_, ⟨⟩⟩ | ⟨_, ⟨⟩⟩ | ⟨_, ⟨⟩⟩ | ⟨_, ⟨⟩⟩ | htyped := firstKind?_cases h
    exact objectOf_of_typed? htyped
  · cases hunion : union? members parts with
    | none =>
      rw [hunion] at h
      cases h
    | some n =>
      obtain ⟨ns, rfl⟩ := union?_cases hunion
      rw [hunion] at h
      cases h

theorem exists_objectOf_of_ofValue {schema : Value} (h : ofValue schema = .object ps r a) :
    ∃ members, schema = .object members ∧
      objectOf members (rolesOfMembers members) = .object ps r a := by
  cases schema with
  | object members => exact ⟨members, rfl, objectOf_of_classify h⟩
  | null | bool | number | string | array => cases h

end Object

end Node

/-! ## Conjunctions -/

/-- The shape of an object has the policy of the object, resolved. -/
theorem exists_eq_object_of_resolve {d : Definitions} {ps : List (String × Node)}
    {r : Option (List String)} {a : Additional Node} {s : Shape} (h : resolve d (.object ps r a) = .ok s) :
    ∃ qs b, s = .object qs b ∧ Additional.Rel (fun n t => resolve d n = .ok t) a b := by
  rw [Resolver.resolve_eq_expand] at h
  obtain ⟨qs, -, h⟩ := bind_eq_ok.1 h
  obtain ⟨b, hb, h⟩ := bind_eq_ok.1 h
  cases h
  refine ⟨qs, b, rfl, ?_⟩
  cases Node.resolveAdditional_eq_ok.1 hb with
  | forbidden => exact .forbidden
  | untyped => exact .untyped
  | typed hn => exact .typed ((Resolver.resolve_eq_expand d _).trans hn)

/-- The shape of an object schema has the restriction that the schema declares, resolved, if it declares
one. -/
theorem restriction_of_resolve {d : Definitions} {schema : Value} {s : Shape}
    (hobject : ∃ ps r a, Node.ofValue schema = .object ps r a)
    (hs : resolve d (.ofValue schema) = .ok s) :
    s.isObject = true ∧ Option.Rel (Additional.Rel fun w t => resolve d (.ofValue w) = .ok t)
      (Node.restrictingPolicy? schema) s.policy? := by
  obtain ⟨ps, r, a, hnode⟩ := hobject
  obtain ⟨members, rfl, hread⟩ := Node.exists_objectOf_of_ofValue hnode
  obtain ⟨qs, b, rfl, hb⟩ := exists_eq_object_of_resolve (hnode ▸ hs)
  cases hread
  have hpolicy := (Node.additional_rel members).comp (fun w n t hn ht => hn ▸ ht) hb
  rw [Node.restrictingPolicy?_eq, Shape.policy?_object]
  exact ⟨rfl, hpolicy.restriction?⟩

/-- The conjunction of the schemas is an object, whose policy is the one that the last of them declares
which declares one, resolved; it permits everything if none does. -/
def PolicyOfLast (declares : Value → Option (Additional Value)) (d : Definitions) (schemas : List Value) :
    Prop :=
  ∃ ps a, resolve d (.intersection (schemas.map Node.ofValue)) = .ok (.object ps a) ∧
    Additional.Rel (fun w s => resolve d (.ofValue w) = .ok s)
      ((schemas.reverse.findSome? declares).getD .untyped) a

/-- The policy of a conjunction of object schemas, each of which has a shape, is the one that the last of
them declares which declares a restriction: no other members, or members of a schema. If none does,
everything is permitted. -/
theorem policyOfLast_restricting (d : Definitions) {schemas : List Value} (hne : schemas ≠ [])
    (hobjects : ∀ w ∈ schemas, ∃ ps r a, Node.ofValue w = .object ps r a)
    (hresolve : ∀ w ∈ schemas, ∃ s, resolve d (.ofValue w) = .ok s) :
    PolicyOfLast Node.restrictingPolicy? d schemas := by
  have heach : ∀ w ∈ schemas, ∃ s, resolve d (.ofValue w) = .ok s ∧ s.isObject = true ∧
      Option.Rel (Additional.Rel fun w t => resolve d (.ofValue w) = .ok t)
        (Node.restrictingPolicy? w) s.policy? := fun w hw => by
    obtain ⟨s, hs⟩ := hresolve w hw
    exact ⟨s, hs, restriction_of_resolve (hobjects w hw) hs⟩
  obtain ⟨shapes, hshapes⟩ := exists_forall₂ heach
  have hisObject : ∀ s ∈ shapes, s.isObject = true := fun s hs => by
    obtain ⟨w, -, -, ho, -⟩ := exists_mem_of_forall₂ hshapes.flip s hs
    exact ho
  have hmembers : (schemas.map Node.ofValue).mapM (resolve d) = .ok shapes :=
    mapM_eq_ok.2 (List.forall₂_map_left_iff.2 (hshapes.imp fun _ _ h => h.1))
  have hnonempty : shapes ≠ [] := by
    rintro rfl
    cases hshapes
    exact hne rfl
  obtain ⟨ps, hmerged⟩ := Shape.exists_ofConjunction_eq_object hisObject hnonempty
  have hlast := rel_findSome? (fun w s h => h.2.2) (List.rel_reverse hshapes)
  refine ⟨ps, _, ?_, getD_of_rel hlast .untyped⟩
  rw [resolve_intersection_eq, hmembers]
  exact congrArg Except.ok hmerged

/-- A restriction between one that it replaces and two schemas that restrict nothing. -/
theorem policyOfLast_restricting_text :
    let text : Value := .object [("type", .string "string")]
    let schemas : List Value := [.object [("additionalProperties", .bool false)],
      .object [("additionalProperties", text)], .object [("additionalProperties", .bool true)],
      .object [("type", .string "object")]]
    schemas ≠ [] ∧ (∀ w ∈ schemas, ∃ ps r a, Node.ofValue w = .object ps r a) ∧
      (∀ w ∈ schemas, ∃ s, resolve .empty (.ofValue w) = .ok s) ∧
      schemas.reverse.findSome? Node.restrictingPolicy? = some (.typed text) ∧
      ∃ ps, resolve .empty (.ofValue (.object [("allOf", .array schemas)])) =
        .ok (.object ps (.typed (.string .empty))) := by
  intro text schemas
  have hobjects : ∀ w ∈ schemas, ∃ ps r a, Node.ofValue w = .object ps r a := by
    simp only [schemas, List.forall_mem_cons]
    exact ⟨⟨_, _, _, rfl⟩, ⟨_, _, _, rfl⟩, ⟨_, _, _, rfl⟩, ⟨_, _, _, rfl⟩, List.forall_mem_nil _⟩
  have hresolve : ∀ w ∈ schemas, ∃ s, resolve .empty (.ofValue w) = .ok s := by
    simp only [schemas, List.forall_mem_cons]
    exact ⟨⟨_, rfl⟩, ⟨_, rfl⟩, ⟨_, rfl⟩, ⟨_, rfl⟩, List.forall_mem_nil _⟩
  have hlast : schemas.reverse.findSome? Node.restrictingPolicy? = some (.typed text) := rfl
  have hread : Node.ofValue (.object [("allOf", .array schemas)]) =
      .intersection (schemas.map Node.ofValue) := rfl
  obtain ⟨ps, a, hs, ha⟩ := policyOfLast_restricting .empty (by simp [schemas]) hobjects hresolve
  rw [hlast] at ha
  cases ha with
  | typed htext =>
    cases htext
    exact ⟨by simp [schemas], hobjects, hresolve, hlast, ps, hread ▸ hs⟩

/-- The last declaration alone does not decide: a schema that permits everything does not lift what one
before it forbids. -/
theorem not_policyOfLast_declared :
    let schemas : List Value := [.object [("additionalProperties", .bool false)],
      .object [("additionalProperties", .bool true)]]
    schemas ≠ [] ∧ (∀ w ∈ schemas, ∃ ps r a, Node.ofValue w = .object ps r a) ∧
      (∀ w ∈ schemas, ∃ s, resolve .empty (.ofValue w) = .ok s) ∧
      ¬ PolicyOfLast Node.declaredPolicy? .empty schemas := by
  intro schemas
  have hobjects : ∀ w ∈ schemas, ∃ ps r a, Node.ofValue w = .object ps r a := by
    simp only [schemas, List.forall_mem_cons]
    exact ⟨⟨_, _, _, rfl⟩, ⟨_, _, _, rfl⟩, List.forall_mem_nil _⟩
  have hresolve : ∀ w ∈ schemas, ∃ s, resolve .empty (.ofValue w) = .ok s := by
    simp only [schemas, List.forall_mem_cons]
    exact ⟨⟨_, rfl⟩, ⟨_, rfl⟩, List.forall_mem_nil _⟩
  refine ⟨by simp [schemas], hobjects, hresolve, ?_⟩
  rintro ⟨ps, a, hs, ha⟩
  have hforbidden : resolve .empty (.intersection (schemas.map Node.ofValue)) =
      .ok (.object [] .forbidden) := rfl
  cases hforbidden.symm.trans hs
  cases ha

end ContractInterface
