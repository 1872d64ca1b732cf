/-
Shapes in normal form (`Shape.Normal`): at every depth, a conjunction has two or more members, which are
conjunctions no more, and merges its objects into one that comes first; a union has alternatives, no
enumeration repeats a value and no object a name. Type lists, unions and conjunctions of shapes in normal
form are in normal form. So is every shape that a resolver answers or remembers
(`Resolver.normal_resolveEach`), if no name is repeated in what it reads.
-/
import Mathlib
import ContractInterface.Proofs.Schema.Unrepeated
import ContractInterface.Proofs.Shape.Containment
import ContractInterface.Proofs.Shape.Memo
import ContractInterface.Proofs.Shape.Merging

namespace ContractInterface

open Json

namespace Shape

/-! ## Normal forms -/

/-- The members of a conjunction that cannot be taken apart or merged any further. -/
structure Conjoined (members : List Shape) : Prop where
  two_le : 2 ≤ members.length
  isPart : ∀ s ∈ members, s.IsPart
  /-- Only the first member can be an object. -/
  others : ∀ s ∈ members.tail, s.isObject = false

/-- The shape is in normal form, whatever the shapes in it are. -/
def Reduced : Shape → Prop
  | .enum values => values.Pairwise fun v w => v.same w = false ∧ w.same v = false
  | .object properties _ => (properties.map (·.name)).Nodup
  | .union alternatives => alternatives ≠ []
  | .intersection members => Conjoined members
  | _ => True

/-- The shape is in normal form, at every depth. -/
def Normal (s : Shape) : Prop := ∀ t, s.Contains t → t.Reduced

theorem normal_iff {s : Shape} : s.Normal ↔ s.Reduced ∧ ∀ t ∈ s.children, t.Normal :=
  forall_contains_iff

namespace Normal

variable {s t : Shape} {ss : List Shape}

theorem reduced (h : s.Normal) : s.Reduced := (normal_iff.1 h).1

theorem child (h : s.Normal) (ht : t ∈ s.children) : t.Normal := (normal_iff.1 h).2 t ht

/-! ### Kinds of shapes -/

theorem any : Normal .any := normal_iff.2 ⟨trivial, nofun⟩

theorem literal (v : Value) : Normal (.literal v) := normal_iff.2 ⟨trivial, nofun⟩

theorem primitive (p : Primitive) (c : Constraints) : (p.shape c).Normal := by
  cases p <;> exact normal_iff.2 ⟨trivial, nofun⟩

theorem enum {vs : List Value} (h : ∀ v ∈ vs, v.Unrepeated) : Normal (.enum (Value.distinct vs)) := by
  refine normal_iff.2 ⟨?_, nofun⟩
  refine (Value.pairwise_distinct vs).imp_of_mem fun {v w} hv hw hvw => ⟨hvw, ?_⟩
  have hv := h v (Value.distinct_subset vs hv)
  have hw := h w (Value.distinct_subset vs hw)
  exact Bool.eq_false_iff.2 fun hwv => by simp [hw.same_symm hv hwv] at hvw

theorem object {ps : List (Property Shape)} {a : Additional Shape} (hnodup : (ps.map (·.name)).Nodup)
    (hps : ∀ p ∈ ps, p.shape.Normal) (ha : ∀ s ∈ a.toList, s.Normal) : Normal (.object ps a) := by
  refine normal_iff.2 ⟨hnodup, fun s hs => ?_⟩
  rcases List.mem_append.1 hs with hs | hs
  · obtain ⟨p, hp, rfl⟩ := List.mem_map.1 hs
    exact hps p hp
  · exact ha s hs

theorem tuple (h : ∀ s ∈ ss, s.Normal) : Normal (.tuple ss) := normal_iff.2 ⟨trivial, h⟩

theorem list (h : s.Normal) (c : Constraints) : Normal (.list s c) :=
  normal_iff.2 ⟨trivial, List.forall_mem_singleton.2 h⟩

theorem union (h : ∀ s ∈ ss, s.Normal) (hne : ss ≠ []) : Normal (.union ss) := normal_iff.2 ⟨hne, h⟩

theorem intersection (h : ∀ s ∈ ss, s.Normal) (hss : Conjoined ss) : Normal (.intersection ss) :=
  normal_iff.2 ⟨hss, h⟩

theorem ofAlternatives (h : ∀ s ∈ ss, s.Normal) : (ofAlternatives ss).Normal := by
  cases ss with
  | nil => exact any
  | cons s ss => exact union h (List.cons_ne_nil s ss)

theorem ofTypeList (h : ∀ s ∈ ss, s.Normal) : (ofTypeList ss).Normal := by
  have hdistinct : ∀ s ∈ distinct ss, s.Normal := fun s hs =>
    h s (((@foldl_distinct _ same ss []).1 s hs).resolve_left List.not_mem_nil)
  unfold Shape.ofTypeList
  generalize distinct ss = kept at hdistinct
  match kept with
  | [] => exact any
  | [s] => exact hdistinct s (List.mem_singleton_self s)
  | _ :: _ :: _ => exact union hdistinct (List.cons_ne_nil _ _)

/-! ### Conjunctions -/

theorem nodup_names (h : s.Normal) : s.names.Nodup := by
  cases s with
  | object => exact h.reduced
  | any | null | bool | number | string | literal | enum | tuple | list | union | intersection =>
    exact List.nodup_nil

/-- Each part of a shape in normal form is in normal form. -/
theorem of_mem_parts (h : s.Normal) (ht : t ∈ s.parts) : t.Normal := by
  cases s with
  | any => cases ht
  | intersection members =>
    rw [Shape.parts, partsOfAll_of_parts fun u hu => (h.reduced.isPart u hu).parts_eq] at ht
    exact h.child ht
  | null | bool | number | string | literal | enum | object | tuple | list | union =>
    exact List.mem_singleton.1 ht ▸ h

theorem of_mem_partsOfAll (h : ∀ s ∈ ss, s.Normal) : ∀ t ∈ partsOfAll ss, t.Normal := by
  induction ss with
  | nil => nofun
  | cons s ss ih =>
    obtain ⟨hs, hss⟩ := List.forall_mem_cons.1 h
    intro t ht
    exact (List.mem_append.1 ht).elim hs.of_mem_parts (ih hss t)

/-- What is merged of objects in normal form is in normal form. -/
theorem merge {ps qs : List (Property Shape)} {a b : Additional Shape} (h : Normal (.object ps a))
    (h' : Normal (.object qs b)) : Normal (.object (overlayAll ps qs) (laterPolicy a b)) := by
  have hps : ∀ p ∈ ps, p.shape.Normal := fun p hp =>
    h.child (List.mem_append_left _ (List.mem_map_of_mem hp))
  have hqs : ∀ q ∈ qs, q.shape.Normal := fun q hq =>
    h'.child (List.mem_append_left _ (List.mem_map_of_mem hq))
  have hearlier : (ps.map (·.name)).Nodup := h.reduced
  have hlater : (qs.map (·.name)).Nodup := h'.reduced
  have hnodup := nodup_overlayAll hearlier qs
  refine object hnodup (fun p hp => ?_) fun s hs => ?_
  · -- a property of the merged object is one of the two
    have hfind := (declaration?_eq_some_iff hnodup).2 ⟨hp, rfl⟩
    rw [declaration?_overlayAll hlater] at hfind
    rcases Option.or_eq_some_iff.1 hfind with hp | ⟨-, hp⟩
    · exact hqs p (List.mem_of_find?_eq_some hp)
    · exact hps p (List.mem_of_find?_eq_some hp)
  · cases b with
    | untyped => exact h.child (List.mem_append_right _ hs)
    | forbidden | typed => exact h'.child (List.mem_append_right _ hs)

theorem of_mem_gather (h : ∀ s ∈ ss, s.Normal) : ∀ s ∈ gather ss, s.Normal := by
  intro s hs
  rcases List.mem_append.1 hs with hs | hs
  · obtain ⟨ps, a, rfl, hnormal⟩ := exists_eq_object_of_foldl
      (P := fun ps a => Normal (.object ps a)) merge (fun ps a => h _) (Option.mem_toList.1 hs)
    exact hnormal
  · exact h s (List.mem_of_mem_filter hs)

theorem ofConjunction (h : ∀ s ∈ ss, s.Normal) : (ofConjunction ss).Normal := by
  have hnormal := of_mem_gather (of_mem_partsOfAll h)
  have hparts := isPart_of_mem_gather fun s (hs : s ∈ partsOfAll ss) => isPart_of_mem_partsOfAll hs
  have hothers : ∀ s ∈ (gather (partsOfAll ss)).tail, s.isObject = false :=
    isObject_of_mem_tail_gather
  rw [ofConjunction_eq]
  generalize gather (partsOfAll ss) = members at hnormal hparts hothers
  match members with
  | [] => exact any
  | [s] => exact hnormal s (List.mem_singleton_self s)
  | _ :: _ :: _ => exact intersection hnormal ⟨by simp, hparts, hothers⟩

/-- A shape in normal form is the conjunction of its parts. -/
theorem ofConjunction_singleton (h : s.Normal) : Shape.ofConjunction [s] = s := by
  rw [ofConjunction_eq, partsOfAll_singleton]
  cases s with
  | any => rfl
  | intersection members =>
    -- there is nothing to take apart, nothing to merge, and more than one member
    have hmembers : Conjoined members := h.reduced
    rw [Shape.parts, partsOfAll_of_parts fun u hu => (hmembers.isPart u hu).parts_eq,
      gather_eq_self hmembers.others]
    exact ofParts_of_two_le hmembers.two_le
  | null | bool | number | string | literal | enum | object | tuple | list | union => rfl

end Normal

end Shape

/-! ## Resolution -/

namespace Node

/-- If following a reference in a node gives shapes in normal form, resolving the node does. -/
theorem normal_resolveWith {f : String → Except ResolveError Shape} (n : Node) (hn : n.Unrepeated)
    (hf : ∀ pointer s, n.Contains (.reference pointer) → f pointer = .ok s → s.Normal) :
    ∀ s, n.resolveWith f = .ok s → s.Normal := by
  induction n using Node.childInduction with
  | step n ih =>
    have hc : ∀ m ∈ n.children, ∀ s, m.resolveWith f = .ok s → s.Normal := fun m hm =>
      ih m hm (hn.child hm) fun pointer s hp => hf pointer s (.of_child hm hp)
    have hall : ∀ {ns : List Node} {ss : List Shape}, ns ⊆ n.children →
        resolveAll f ns = .ok ss → ∀ s ∈ ss, s.Normal := fun hns h s hs => by
      obtain ⟨m, hm, hms⟩ := exists_mem_of_forall₂ (resolveAll_eq_ok.1 h).flip s hs
      exact hc m (hns hm) s hms
    intro s h
    cases n with
    | reference pointer => exact hf pointer s (.refl _) h
    | constant v =>
      cases h
      exact .literal v
    | enumeration vs =>
      cases h
      exact .enum ((unrepeated_iff.1 hn).1.listed vs rfl)
    | intersection ns =>
      obtain ⟨ss, hss, ⟨⟩⟩ := bind_eq_ok.1 h
      exact .ofConjunction (hall (List.Subset.refl _) hss)
    | typeList ns =>
      obtain ⟨ss, hss, ⟨⟩⟩ := bind_eq_ok.1 h
      exact .ofTypeList (hall (List.Subset.refl _) hss)
    | object ps required a =>
      obtain ⟨qs, hqs, h⟩ := bind_eq_ok.1 h
      obtain ⟨b, hb, ⟨⟩⟩ := bind_eq_ok.1 h
      have hqs := resolveProperties_eq_ok.1 hqs
      refine .object ?_ (fun q hq => ?_) fun t ht => ?_
      · rw [map_name_of_resolves hqs]
        exact (unrepeated_iff.1 hn).1.declared ps required a rfl
      · obtain ⟨p, hp, hpq⟩ := exists_mem_of_forall₂ hqs.flip q hq
        exact hc p.2 (List.mem_append_left _ (List.mem_map_of_mem hp)) _ hpq.shape
      · cases resolveAdditional_eq_ok.1 hb with
        | forbidden | untyped => cases ht
        | typed hmt =>
          obtain rfl := List.mem_singleton.1 ht
          exact hc _ (List.mem_append_right _ (List.mem_singleton_self _)) _ hmt
    | tuple ns =>
      obtain ⟨ss, hss, ⟨⟩⟩ := bind_eq_ok.1 h
      exact .tuple (hall (List.Subset.refl _) hss)
    | list items c =>
      cases items with
      | none =>
        cases h
        exact .list .any c
      | some item =>
        obtain ⟨t, ht, ⟨⟩⟩ := bind_eq_ok.1 h
        exact .list (hc item (List.mem_singleton_self item) t ht) c
    | primitive p c =>
      cases h
      exact .primitive p c
    | union ns =>
      obtain ⟨ss, hss, ⟨⟩⟩ := bind_eq_ok.1 h
      exact .ofAlternatives (hall (List.Subset.refl _) hss)
    | unknown =>
      cases h
      exact .any

end Node

namespace Definitions

variable {d : Definitions}

/-- Whatever names are open: a reference that is followed opens one more of them. -/
theorem normal_expand (hd : d.IsRead) (stack : List String) {n : Node} (hn : n.Unrepeated) {s : Shape}
    (h : d.expand stack n = .ok s) : s.Normal := by
  refine n.normal_resolveWith hn (fun pointer t _ ht => ?_) s h
  obtain ⟨name, target, hname, htarget⟩ := Expands.leads ⟨t, ht⟩
  rw [expandPointer_of_leads hname htarget] at ht
  split at ht
  · cases ht
  · rename_i hs
    have hdecreases := unopened_append_lt htarget hs
    exact normal_expand hd (stack ++ [name]) (hd.unrepeated htarget) ht
termination_by d.unopened stack

end Definitions

namespace Resolver

/-- Whatever schemas a resolver has answered before, and whether or not they had shapes, each shape that
it answers is in normal form, and so is each shape that it then remembers. -/
theorem normal_resolveEach {raw : Members} (hraw : (Value.object raw).Unrepeated)
    {schemas : List Value} (hschemas : ∀ schema ∈ schemas, schema.Unrepeated) :
    let answers := resolveEach (.ofRaw raw) (schemas.map Node.ofValue) .empty
    (∀ s, .ok s ∈ answers.map Prod.fst → s.Normal) ∧
      ∀ left ∈ answers.map Prod.snd, ∀ name s, (name, s) ∈ left.resolved → s.Normal := by
  have hd : (Definitions.ofRaw raw).IsRead := ⟨raw, hraw, rfl⟩
  obtain ⟨hanswers, hleft⟩ := resolveEach_sound (schemas.map Node.ofValue) .empty
    (Sound.empty (.ofRaw raw)) rfl
  refine ⟨fun s hs => ?_, fun left hl name s hs => ?_⟩
  · rw [hanswers] at hs
    obtain ⟨n, hn, hs⟩ := List.mem_map.1 hs
    obtain ⟨schema, hschema, rfl⟩ := List.mem_map.1 hn
    exact Definitions.normal_expand hd [] (Node.unrepeated_ofValue (hschemas schema hschema)) hs
  · obtain ⟨target, htarget, hshape⟩ := (hleft left hl).1.shapes name s hs
    exact Definitions.normal_expand hd [] (hd.unrepeated htarget) (hshape [] (by simp))

/-- A definition and a conjunction, in which there is an object as well, are taken apart and merged. -/
theorem normal_resolveEach_record :
    let record : Value := .object [("properties", .object [("id", .object [])])]
    let raw : Members := [("Record", record)]
    let schema : Value := .object [("allOf", .array [.object [("allOf", .array [.object [("enum",
      .array [.null, .null])], record])], .object [("$ref", .string "#/$defs/Record")]])]
    let s : Shape := .intersection [.object [⟨"id", true, .any⟩] .untyped, .enum [.null]]
    (Value.object raw).Unrepeated ∧ schema.Unrepeated ∧
      ContractInterface.resolve (.ofRaw raw) (.ofValue schema) = .ok s ∧ s.Normal := by
  intro record raw schema s
  have hraw : (Value.object raw).Unrepeated := by simp [raw, record]
  have hschema : schema.Unrepeated := by simp [schema, record]
  have hresolve : ContractInterface.resolve (.ofRaw raw) (.ofValue schema) = .ok s := by
    let node : Node := .object [("id", .unknown)] none .untyped
    have htable : Definitions.ofRaw raw = ⟨[("Record", Node.ofValue record)]⟩ := by
      simp [Definitions.ofRaw, Value.orderMembers, raw]
    have hdefinition : Node.ofValue record = node := rfl
    have hnode : Node.ofValue schema = .intersection [.intersection [.enumeration [.null, .null], node],
      .reference "#/$defs/Record"] := rfl
    rw [htable, hdefinition, hnode]
    simp only [s, node]
    cbv
  obtain ⟨hanswers, -⟩ := normal_resolveEach hraw (List.forall_mem_singleton.2 hschema)
  refine ⟨hraw, hschema, hresolve, hanswers s ?_⟩
  rw [(resolveEach_sound _ .empty (Sound.empty _) rfl).1, List.map_singleton, List.map_singleton,
    ← resolve_eq_expand, hresolve]
  exact List.mem_singleton_self _

end Resolver

end ContractInterface
