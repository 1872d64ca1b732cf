/-
Conjunctions of objects that agree. Where the objects among the members limit nothing that they do not
declare, and say the same of every name that two of them declare, nothing is lost by merging them: the
conjunction accepts what all of its members accept (`accepts_iff_all_accept`).
-/
import ContractInterface.Proofs.Shape.Conjunction

namespace ContractInterface

open Json

namespace Shape

/-! ## Members -/

theorem Flattens.accepts_iff {ss flat : List Shape} {v : Value} (h : Flattens ss flat) :
    (∀ t ∈ flat, t.accepts v = true) ↔ ∀ s ∈ ss, s.accepts v = true := by
  induction h with
  | nil => rfl
  | any _ ih => rw [List.forall_mem_cons, ih, accepts_any, eq_self, true_and]
  | intersection _ _ ihMembers ihRest =>
    rw [List.forall_mem_append, List.forall_mem_cons, ihMembers, ihRest, accepts_intersection_iff]
  | part _ _ ih => rw [List.forall_mem_cons, List.forall_mem_cons, ih]

theorem accepts_ofParts_iff : ∀ {ss : List Shape} {v : Value},
    (ofParts ss).accepts v = true ↔ ∀ s ∈ ss, s.accepts v = true
  | [], v => iff_of_true (accepts_any v) (List.forall_mem_nil _)
  | [_], _ => by
    rw [List.forall_mem_singleton]
    rfl
  | _ :: _ :: _, _ => accepts_intersection_iff

/-! ## Objects -/

/-- What is found under the name of the property is permitted: a value of its shape, or none if it is not
required. -/
structure Permits (p : Property Shape) (found : Option Value) : Prop where
  present : ∀ v ∈ found, p.shape.accepts v = true
  absent : found = none → p.required = false

/-- An object that limits nothing else accepts objects alone, by what each name declares. -/
theorem accepts_open_iff {o : Shape} (ho : ∃ ps, o = object ps .untyped) (hnames : o.names.Nodup)
    {v : Value} : o.accepts v = true ↔ ∃ members, v = .object members ∧
      ∀ name, ∀ p ∈ o.property? name, Permits p (members.lookup name) := by
  obtain ⟨ps, rfl⟩ := ho
  have hps : (ps.map (·.name)).Nodup := hnames
  rw [accepts_object_iff]
  refine exists_congr fun members => and_congr_right fun _ => ⟨fun h name p hp => ?_, fun h => ?_⟩
  · obtain ⟨hmem, rfl⟩ := (declaration?_eq_some_iff hps).1 hp
    exact ⟨h.present p hmem, h.absent p hmem⟩
  · have hpermits : ∀ p ∈ ps, Permits p (members.lookup p.name) := fun p hp =>
      h p.name p ((declaration?_eq_some_iff hps).2 ⟨hp, rfl⟩)
    exact ⟨fun p hp => (hpermits p hp).present, fun p hp => (hpermits p hp).absent,
      fun _ _ _ => nofun, fun _ _ _ => nofun⟩

/-- Where both declare a name, they say the same of it. -/
def Agree (s t : Shape) : Prop := ∀ name, ∀ p ∈ s.property? name, ∀ q ∈ t.property? name,
  p.required = q.required ∧ p.shape.same q.shape = true

theorem Permits.of_same {p q : Property Shape} {found : Option Value}
    (hrequired : p.required = q.required) (hsame : p.shape.same q.shape = true) (h : Permits q found) :
    Permits p found where
  present v hv := refines_of_same hsame v (h.present v hv)
  absent hv := hrequired ▸ h.absent hv

namespace IsMerge

variable {objects : List Shape} {ps : List (Property Shape)} {a : Additional Shape}
  (h : IsMerge objects ps a)

include h

theorem policy_eq_untyped (hopen : ∀ o ∈ objects, ∃ qs, o = object qs .untyped) : a = .untyped := by
  have hnone : objects.reverse.findSome? policy? = none := List.findSome?_eq_none_iff.2 fun o ho => by
    obtain ⟨qs, rfl⟩ := hopen o (List.mem_reverse.1 ho)
    rfl
  rw [h.policy, hnone]
  rfl

/-- A name of the merge is what the last object says of it, which is what they all say. -/
theorem permits_iff (hagree : objects.Pairwise Agree) (name : String) (found : Option Value) :
    (∀ p ∈ (object ps a).property? name, Permits p found) ↔
      ∀ o ∈ objects, ∀ p ∈ o.property? name, Permits p found := by
  rw [h.property name]
  refine forall_findSome?_reverse_iff (hagree.imp fun hst p hp q hq => ?_)
  obtain ⟨hrequired, hsame⟩ := hst name p hp q hq
  exact .of_same hrequired hsame

/-- A merge of objects that agree and limit nothing else accepts what all of them accept. -/
theorem accepts_iff (hne : objects ≠ []) (hopen : ∀ o ∈ objects, ∃ qs, o = object qs .untyped)
    (hnames : ∀ o ∈ objects, o.names.Nodup) (hagree : objects.Pairwise Agree) {v : Value} :
    (object ps a).accepts v = true ↔ ∀ o ∈ objects, o.accepts v = true := by
  have hmerged : (object ps a).names.Nodup := h.nodup
  rw [accepts_open_iff ⟨ps, h.policy_eq_untyped hopen ▸ rfl⟩ hmerged]
  constructor
  · rintro ⟨members, rfl, hv⟩ o ho
    refine (accepts_open_iff (hopen o ho) (hnames o ho)).2 ⟨members, rfl, fun name => ?_⟩
    exact (h.permits_iff hagree name _).1 (hv name) o ho
  · intro hv
    -- an object among them tells the members of the value, and the others speak of the same
    have hobject : ∀ o ∈ objects, ∃ members, v = .object members ∧
        ∀ name, ∀ p ∈ o.property? name, Permits p (members.lookup name) := fun o ho =>
      (accepts_open_iff (hopen o ho) (hnames o ho)).1 (hv o ho)
    obtain ⟨o, ho⟩ := List.exists_mem_of_ne_nil _ hne
    obtain ⟨members, rfl, -⟩ := hobject o ho
    refine ⟨members, rfl, fun name => (h.permits_iff hagree name _).2 fun o ho => ?_⟩
    obtain ⟨_, heq, hpermits⟩ := hobject o ho
    cases heq
    exact hpermits name

end IsMerge

/-! ## Conjunctions -/

/-- The parts of a conjunction are gathered without loss. -/
theorem accepts_gather_iff {parts : List Shape} (hopen : ∀ ps a, .object ps a ∈ parts → a = .untyped)
    (hnames : ∀ s ∈ parts, s.names.Nodup) (hagree : (parts.filter isObject).Pairwise Agree) {v : Value} :
    (∀ s ∈ gather parts, s.accepts v = true) ↔ ∀ s ∈ parts, s.accepts v = true := by
  have hmerged : (∀ s ∈ (parts.foldl mergeInto none).toList, s.accepts v = true) ↔
      ∀ s ∈ parts.filter isObject, s.accepts v = true := by
    rw [← foldl_mergeInto_filter]
    by_cases hne : parts.filter isObject = []
    · rw [hne]
      rfl
    · have hobjects : ∀ o ∈ parts.filter isObject, o ∈ parts ∧ o.isObject = true := fun o ho =>
        List.mem_filter.1 ho
      have hsub : ∀ o ∈ parts.filter isObject, o.names.Nodup := fun o ho => hnames o (hobjects o ho).1
      obtain ⟨ps, a, hfold, hmerge⟩ := exists_isMerge (fun o ho => (hobjects o ho).2) hsub hne
      rw [hfold, Option.toList_some, List.forall_mem_singleton]
      refine hmerge.accepts_iff hne (fun o ho => ?_) hsub hagree
      obtain ⟨qs, b, rfl⟩ := exists_eq_object (hobjects o ho).2
      exact ⟨qs, hopen qs b (hobjects _ ho).1 ▸ rfl⟩
  unfold gather
  rw [List.forall_mem_append, hmerged]
  constructor
  · rintro ⟨hobjects, hothers⟩ s hs
    cases h : s.isObject with
    | true => exact hobjects s (List.mem_filter.2 ⟨hs, h⟩)
    | false => exact hothers s (List.mem_filter.2 ⟨hs, by rw [h]; rfl⟩)
  · exact fun h => ⟨fun s hs => h s (List.mem_of_mem_filter hs),
      fun s hs => h s (List.mem_of_mem_filter hs)⟩

end Shape

/-- A conjunction has a shape if its members have, and accepts exactly what all of them accept, if the
objects among them, however deep in other conjunctions, limit nothing that they do not declare and say the
same of each name that two of them declare. -/
theorem accepts_iff_all_accept {d : Definitions} (hd : d.IsRead) {members : List Node}
    (hns : ∀ n ∈ members, n.IsRead) {shapes flat : List Shape}
    (hshapes : List.Forall₂ (fun n s => resolve d n = .ok s) members shapes)
    (hflat : Shape.Flattens shapes flat) (hopen : ∀ ps a, .object ps a ∈ flat → a = .untyped)
    (hagree : (flat.filter Shape.isObject).Pairwise Shape.Agree) :
    ∃ s, resolve d (.intersection members) = .ok s ∧
      ∀ v, s.accepts v = true ↔ ∀ t ∈ shapes, t.accepts v = true := by
  have hnormal : ∀ s ∈ Shape.partsOfAll shapes, s.Normal :=
    Shape.Normal.of_mem_partsOfAll (normal_of_resolveEach hd (fun n hn => (hns n hn).unrepeated) hshapes)
  refine ⟨.ofConjunction shapes, ?_, fun v => ?_⟩
  · rw [resolve_intersection_eq, mapM_eq_ok.2 hshapes]
    rfl
  · rw [← hflat.accepts_iff, Shape.ofConjunction_eq, Shape.accepts_ofParts_iff, ← hflat.eq_partsOfAll]
    rw [← hflat.eq_partsOfAll] at hnormal
    exact Shape.accepts_gather_iff hopen (fun s hs => (hnormal s hs).nodup_names) hagree

/-- Two objects that agree on a name, the second one a definition in a conjunction with something else. -/
theorem accepts_iff_all_accept_sized :
    let text : Value := .object [("type", .string "string")]
    let sized : Value := .object [("properties", .object [("id", text), ("size", .null)]),
      ("required", .array [.string "id"])]
    let d : Definitions := .ofRaw [("Sized", sized)]
    let named : Value := .object [("id", .string "a")]
    let members : List Node := [.object [("id", .primitive .string .empty)] none .untyped,
      .intersection [.enumeration [named, .null], .reference "#/definitions/Sized"]]
    let objects : List Shape := [.object [⟨"id", true, .string .empty⟩] .untyped,
      .object [⟨"id", true, .string .empty⟩, ⟨"size", false, .any⟩] .untyped]
    d.IsRead ∧ (∀ n ∈ members, n.IsRead) ∧ objects.Pairwise Shape.Agree ∧
      ∃ s, resolve d (.intersection members) = .ok s ∧ s.accepts named = true ∧
        s.accepts .null = false ∧
        ∀ v, s.accepts v = true ↔ (∀ o ∈ objects, o.accepts v = true) ∧
          (Shape.enum [named, .null]).accepts v = true := by
  intro text sized d named members objects
  have hd : d.IsRead := ⟨[("Sized", sized)], by simp [sized, text], rfl⟩
  have hns : ∀ n ∈ members, n.IsRead := by
    refine List.forall_mem_cons.2 ⟨⟨.object [("properties", .object [("id", text)])], ?_, rfl⟩,
      List.forall_mem_singleton.2 ⟨.object [("allOf", .array [.object [("enum", .array [named, .null])],
        .object [("$ref", .string "#/definitions/Sized")]])], ?_, rfl⟩⟩
    · simp [text]
    · simp [named]
  have hagree : objects.Pairwise Shape.Agree := by
    refine List.pairwise_pair.2 fun name p hp q hq => ?_
    obtain ⟨rfl, rfl⟩ : "id" = name ∧ (⟨"id", true, .string .empty⟩ : Property Shape) = p := by
      simpa [Shape.property?, Shape.properties?] using hp
    cases hq
    exact ⟨rfl, rfl⟩
  have hshapes : List.Forall₂ (fun n s => resolve d n = .ok s) members
      [objects[0], .intersection [objects[1], .enum [named, .null]]] := by
    have htable : d = ⟨[("Sized", Node.ofValue sized)]⟩ := by
      simp [d, Definitions.ofRaw, Value.orderMembers]
    have hdefinition : Node.ofValue sized = .object [("id", .primitive .string .empty),
      ("size", .unknown)] (some ["id"]) .untyped := rfl
    refine .cons rfl (.cons ?_ .nil)
    rw [htable, hdefinition]
    simp only [named, objects]
    cbv
  have hopen : ∀ ps a, .object ps a ∈ objects ++ [.enum [named, .null]] → a = .untyped := by
    intro ps a h
    simp only [objects, List.cons_append, List.nil_append, List.mem_cons, Shape.object.injEq,
      reduceCtorEq, List.not_mem_nil, or_false] at h
    rcases h with ⟨-, rfl⟩ | ⟨-, rfl⟩ <;> rfl
  obtain ⟨s, hs, hv⟩ := accepts_iff_all_accept hd hns hshapes (Shape.flattens_iff.2 rfl) hopen hagree
  have hall : ∀ v, s.accepts v = true ↔ (∀ o ∈ objects, o.accepts v = true) ∧
      (Shape.enum [named, .null]).accepts v = true := fun v => by
    rw [hv v]
    simp [objects, Shape.accepts_intersection_iff, and_assoc]
  refine ⟨hd, hns, hagree, s, hs, (hall named).2 ⟨?_, rfl⟩, ?_, hall⟩
  · simp only [objects, List.forall_mem_cons]
    exact ⟨rfl, rfl, List.forall_mem_nil _⟩
  · exact Bool.eq_false_iff.2 fun h => absurd (((hall .null).1 h).1 objects[0] (by simp)) (by decide)

end ContractInterface
