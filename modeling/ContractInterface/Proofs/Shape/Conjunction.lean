/-
What conjunctions resolve to. The shapes of the members are flattened (`Shape.Flattens`) and the objects
among them merged, and that is all (`resolve_intersection`). So a conjunction may be written in groups,
one member alone is itself, a member that permits everything may be left out, and a group may be a
definition of its own (`resolve_of_regrouped`).
-/
import ContractInterface.Proofs.Shape.Inlining
import ContractInterface.Proofs.Shape.Normal

namespace ContractInterface

open Json

namespace Shape

/-! ## Flattening -/

/-- The second list is the first one without what permits everything, and with what each conjunction
flattens to in its place. -/
inductive Flattens : List Shape → List Shape → Prop
  | nil : Flattens [] []
  | any {rest flat : List Shape} : Flattens rest flat → Flattens (.any :: rest) flat
  | intersection {members inner rest flat : List Shape} : Flattens members inner →
      Flattens rest flat → Flattens (.intersection members :: rest) (inner ++ flat)
  | part {s : Shape} {rest flat : List Shape} : s.IsPart → Flattens rest flat →
      Flattens (s :: rest) (s :: flat)

theorem Flattens.eq_partsOfAll {ss flat : List Shape} (h : Flattens ss flat) : flat = partsOfAll ss := by
  induction h with
  | nil => rfl
  | any _ ih => exact ih
  | intersection _ _ ihMembers ihRest => rw [partsOfAll, parts, ← ihMembers, ← ihRest]
  | part hs _ ih => rw [partsOfAll, hs.parts_eq, ← ih, List.singleton_append]

mutual

theorem flattens_cons : ∀ (s : Shape) {rest flat : List Shape}, Flattens rest flat →
    Flattens (s :: rest) (s.parts ++ flat)
  | .any, _, _, h => .any h
  | .intersection members, _, _, h => .intersection (flattens_partsOfAll members) h
  | .null, _, _, h | .bool, _, _, h | .number _, _, _, h | .string _, _, _, h | .literal _, _, _, h
  | .enum _, _, _, h | .object .., _, _, h | .tuple _, _, _, h | .list .., _, _, h
  | .union _, _, _, h => .part ⟨nofun, nofun⟩ h

theorem flattens_partsOfAll : ∀ ss : List Shape, Flattens ss (partsOfAll ss)
  | [] => .nil
  | s :: rest => flattens_cons s (flattens_partsOfAll rest)

end

theorem flattens_iff {ss flat : List Shape} : Flattens ss flat ↔ flat = partsOfAll ss :=
  ⟨Flattens.eq_partsOfAll, fun h => h ▸ flattens_partsOfAll ss⟩

end Shape

/-! ## Resolution -/

section Resolution

variable {d : Definitions}

theorem resolve_intersection_eq (d : Definitions) (ns : List Node) :
    resolve d (.intersection ns) = ns.mapM (resolve d) >>= fun ss => .ok (.ofConjunction ss) := by
  have hall : ns.mapM (resolve d) = Node.resolveAll (d.expandPointer []) ns := by
    rw [Node.resolveAll_eq_mapM]
    exact congrArg ns.mapM (funext (Resolver.resolve_eq_expand d))
  rw [hall, Resolver.resolve_eq_expand]
  rfl

theorem normal_of_resolve (hd : d.IsRead) {n : Node} (hn : n.Unrepeated) {s : Shape}
    (h : resolve d n = .ok s) : s.Normal :=
  Definitions.normal_expand hd [] hn (Resolver.resolve_eq_expand d n ▸ h)

theorem normal_of_resolveEach (hd : d.IsRead) {ns : List Node} (hns : ∀ n ∈ ns, n.Unrepeated)
    {ss : List Shape} (h : List.Forall₂ (fun n s => resolve d n = .ok s) ns ss) :
    ∀ s ∈ ss, s.Normal := fun s hs => by
  obtain ⟨n, hn, hs⟩ := exists_mem_of_forall₂ h.flip s hs
  exact normal_of_resolve hd (hns n hn) hs

/-- The shape of a conjunction, from the shapes of its members: these are flattened, which can be done in
one way, their objects merged into one, if there are any, and the others put behind it. -/
theorem resolve_intersection (hd : d.IsRead) {members : List Node}
    (hn : (Node.intersection members).IsRead) {shapes : List Shape}
    (hshapes : List.Forall₂ (fun n s => resolve d n = .ok s) members shapes) :
    ∃ flat merged, (∀ other, Shape.Flattens shapes other ↔ other = flat) ∧
      let objects := flat.filter Shape.isObject
      let others := flat.filter fun s => !s.isObject
      resolve d (.intersection members) = .ok (.ofParts (merged ++ others)) ∧
        (objects = [] → merged = []) ∧
        (objects ≠ [] → ∃ ps a, merged = [.object ps a] ∧ Shape.IsMerge objects ps a) := by
  have hnormal : ∀ s ∈ Shape.partsOfAll shapes, s.Normal :=
    Shape.Normal.of_mem_partsOfAll (normal_of_resolveEach hd (fun n => hn.unrepeated.child) hshapes)
  refine ⟨_, ((Shape.partsOfAll shapes).foldl Shape.mergeInto none).toList,
    fun other => Shape.flattens_iff, ?_, fun hnone => ?_, fun hsome => ?_⟩
  · rw [resolve_intersection_eq, mapM_eq_ok.2 hshapes]
    rfl
  · rw [← Shape.foldl_mergeInto_filter, hnone]
    rfl
  · obtain ⟨ps, a, hmerged, hmerge⟩ := Shape.exists_isMerge
      (fun o ho => (List.mem_filter.1 ho).2)
      (fun o ho => (hnormal o (List.mem_of_mem_filter ho)).nodup_names) hsome
    rw [Shape.foldl_mergeInto_filter] at hmerged
    exact ⟨ps, a, by rw [hmerged]; rfl, hmerge⟩

/-- Two objects that declare the same name, the second one in a conjunction with something else. -/
theorem resolve_intersection_records :
    let first : Node := .object [("id", .unknown), ("name", .unknown)] none .forbidden
    let second : Node := .object [("name", .primitive .string .empty)] (some []) .untyped
    let members : List Node := [first, .intersection [.primitive .null .empty, second], .unknown]
    let objects : List Shape := [.object [⟨"id", true, .any⟩, ⟨"name", true, .any⟩] .forbidden,
      .object [⟨"name", false, .string .empty⟩] .untyped]
    let d : Definitions := .ofRaw []
    d.IsRead ∧ (Node.intersection members).IsRead ∧ ∃ ps a,
      resolve d (.intersection members) = .ok (.intersection [.object ps a, .null]) ∧
        Shape.IsMerge objects ps a := by
  intro first second members objects d
  have hd : d.IsRead := ⟨[], by simp, rfl⟩
  have hn : (Node.intersection members).IsRead := by
    refine ⟨.object [("allOf", .array [.object [("additionalProperties", .bool false), ("properties",
        .object [("id", .null), ("name", .null)])], .object [("allOf", .array [.object [("type",
        .string "null")], .object [("properties", .object [("name", .object [("type",
        .string "string")])]), ("required", .array [])]])], .bool true])], by simp, rfl⟩
  have hshapes : List.Forall₂ (fun n s => resolve d n = .ok s) members
      [.object [⟨"id", true, .any⟩, ⟨"name", true, .any⟩] .forbidden,
        .intersection [.object [⟨"name", false, .string .empty⟩] .untyped, .null], .any] := by
    refine .cons ?_ (.cons ?_ (.cons rfl .nil))
    · rfl
    · simp only [second, d]
      cbv
  obtain ⟨flat, merged, hflat, hresolve, -, hmerged⟩ := resolve_intersection hd hn hshapes
  obtain rfl := (hflat (objects ++ [.null])).1 (Shape.flattens_iff.2 rfl)
  obtain ⟨ps, a, rfl, hmerge⟩ := hmerged (by simp [objects, Shape.isObject])
  exact ⟨hd, hn, ps, a, hresolve, hmerge⟩

/-! ## Groups of members -/

/-- A reference has the shape that the definition has. -/
theorem resolve_reference_eq_ok_iff {pointer name : String} {target : Node}
    (hname : definitionName? pointer = some name) (htarget : d.get? name = some target) {s : Shape} :
    resolve d (.reference pointer) = .ok s ↔ resolve d target = .ok s := by
  rw [Resolver.resolve_eq_expand, Resolver.resolve_eq_expand]
  have hfollow : ∀ s, d.expand [] (.reference pointer) = .ok s → d.expand [] target = .ok s :=
    fun s hs => (Definitions.Inlines.follow hname htarget (.refl target)).expand hs
  refine ⟨hfollow s, fun hs => ?_⟩
  obtain ⟨t, ht⟩ := Definitions.Expands.of_target hname htarget ⟨s, hs⟩
  rwa [Except.ok.inj (hs.symm.trans (hfollow t ht))]

/-- A member gives way to one that has a shape exactly when it does, and the same. -/
theorem resolve_intersection_congr {n m : Node}
    (h : ∀ s, resolve d n = .ok s ↔ resolve d m = .ok s) (before after : List Node) (s : Shape) :
    resolve d (.intersection (before ++ [n] ++ after)) = .ok s ↔
      resolve d (.intersection (before ++ [m] ++ after)) = .ok s := by
  have hmembers : ∀ ss, (before ++ [n] ++ after).mapM (resolve d) = .ok ss ↔
      (before ++ [m] ++ after).mapM (resolve d) = .ok ss := fun ss => by
    simp only [List.mapM_append, List.mapM_cons, List.mapM_nil, bind_eq_ok, h]
  simp only [resolve_intersection_eq, bind_eq_ok, hmembers]

/-- A conjunction in a conjunction resolves as its members in its place do, and fails as they do. -/
theorem resolve_intersection_group (hd : d.IsRead) {before group after : List Node}
    (hns : ∀ n ∈ before ++ group ++ after, n.Unrepeated) :
    resolve d (.intersection (before ++ [.intersection group] ++ after)) =
      resolve d (.intersection (before ++ group ++ after)) := by
  rw [resolve_intersection_eq, resolve_intersection_eq, List.mapM_append, List.mapM_append,
    List.mapM_append, List.mapM_append, List.mapM_cons, List.mapM_nil, resolve_intersection_eq]
  -- the first failure stands in the same place on both sides
  cases hbefore : before.mapM (resolve d) with
  | error e => rfl
  | ok ss =>
    cases hgroup : group.mapM (resolve d) with
    | error e => rfl
    | ok ts =>
      cases hafter : after.mapM (resolve d) with
      | error e => rfl
      | ok us =>
        have hall := List.rel_append (List.rel_append (mapM_eq_ok.1 hbefore) (mapM_eq_ok.1 hgroup))
          (mapM_eq_ok.1 hafter)
        have hnormal := Shape.Normal.of_mem_partsOfAll (normal_of_resolveEach hd hns hall)
        exact congrArg Except.ok (Shape.ofConjunction_group fun s hs => (hnormal s hs).nodup_names)

/-- A conjunction of one member is that member. -/
theorem resolve_intersection_singleton (hd : d.IsRead) {n : Node} (hn : n.Unrepeated) :
    resolve d (.intersection [n]) = resolve d n := by
  rw [resolve_intersection_eq, List.mapM_cons, List.mapM_nil]
  cases h : resolve d n with
  | error e => rfl
  | ok s => exact congrArg Except.ok (normal_of_resolve hd hn h).ofConjunction_singleton

/-- A member that permits everything may be left out. -/
theorem resolve_intersection_any {n : Node} (hn : resolve d n = .ok .any) (before after : List Node) :
    resolve d (.intersection (before ++ [n] ++ after)) =
      resolve d (.intersection (before ++ after)) := by
  rw [resolve_intersection_eq, resolve_intersection_eq, List.mapM_append, List.mapM_append,
    List.mapM_append, List.mapM_cons, List.mapM_nil, hn]
  cases before.mapM (resolve d) with
  | error e => rfl
  | ok ss =>
    cases after.mapM (resolve d) with
    | error e => rfl
    | ok us =>
      refine congrArg Except.ok ?_
      rw [Shape.ofConjunction_eq, Shape.ofConjunction_eq (ss ++ us)]
      simp only [Shape.partsOfAll_append, Shape.partsOfAll_singleton, Shape.parts, List.append_nil]

/-- Conjunctions can be regrouped. Where a member is a conjunction itself, its members may stand in its
place, with the same shape or the same error; one member alone is itself; a member that permits everything
counts for nothing; and a group has the shape that it has as a definition. -/
theorem resolve_of_regrouped (hd : d.IsRead) {before group after : List Node} {n : Node}
    (hns : ∀ m ∈ before ++ group ++ after, m.IsRead) (hn : n.IsRead) :
    resolve d (.intersection (before ++ [.intersection group] ++ after)) =
        resolve d (.intersection (before ++ group ++ after)) ∧
      resolve d (.intersection [n]) = resolve d n ∧
      (∀ u, resolve d u = .ok .any → resolve d (.intersection (before ++ [u] ++ after)) =
        resolve d (.intersection (before ++ after))) ∧
      ∀ pointer name, definitionName? pointer = some name →
        d.get? name = some (.intersection group) → ∀ s,
          (resolve d (.intersection (before ++ [.intersection group] ++ after)) = .ok s ↔
            resolve d (.intersection (before ++ [.reference pointer] ++ after)) = .ok s) := by
  refine ⟨resolve_intersection_group hd fun m hm => (hns m hm).unrepeated,
    resolve_intersection_singleton hd hn.unrepeated,
    fun u hu => resolve_intersection_any hu before after,
    fun pointer name hname htarget s => ?_⟩
  exact resolve_intersection_congr (fun s => (resolve_reference_eq_ok_iff hname htarget).symm) before
    after s

/-- A group that is a definition as well. -/
theorem resolve_of_regrouped_named :
    let record : Node := .object [("id", .unknown)] none .untyped
    let group : List Node := [.primitive .null .empty, record]
    let pointer := "#/definitions/Group"
    let groupValue : Value := .object [("allOf", .array [.object [("type", .string "null")],
      .object [("properties", .object [("id", .null)])]])]
    let d : Definitions := .ofRaw [("Group", groupValue)]
    d.IsRead ∧ (∀ m ∈ record :: group, m.IsRead) ∧ d.get? "Group" = some (.intersection group) ∧
      resolve d (.intersection [record, .intersection group]) =
        resolve d (.intersection (record :: group)) ∧
      resolve d (.intersection [record]) = resolve d record ∧
      resolve d (.intersection [record, .unknown]) = resolve d (.intersection [record]) ∧
      ∀ s, resolve d (.intersection [record, .intersection group]) = .ok s ↔
        resolve d (.intersection [record, .reference pointer]) = .ok s := by
  intro record group pointer groupValue d
  have hd : d.IsRead := ⟨[("Group", groupValue)], by simp [groupValue], rfl⟩
  have hrecord : record.IsRead :=
    ⟨.object [("properties", .object [("id", .null)])], by simp, rfl⟩
  have hnull : (Node.primitive .null .empty).IsRead :=
    ⟨.object [("type", .string "null")], by simp, rfl⟩
  have hns : ∀ m ∈ record :: group, m.IsRead := by simp [group, hrecord, hnull]
  have hgroup : d.get? "Group" = some (.intersection group) := by
    rw [Definitions.get?_ofRaw]
    rfl
  have hname : definitionName? pointer = some "Group" := by
    simp only [pointer]
    cbv
  have hall : ∀ m ∈ [record] ++ group ++ [], m.IsRead := by simpa using hns
  obtain ⟨hflat, hone, hany, hreference⟩ := resolve_of_regrouped hd hall hrecord
  exact ⟨hd, hns, hgroup, hflat, hone, hany .unknown rfl, hreference pointer "Group" hname hgroup⟩

end Resolution

end ContractInterface
