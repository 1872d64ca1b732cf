/-
Reading schemas. The order of members, at any depth, does not matter for what a schema is read as: the
keywords have the same values, the kind of node is the same, and its parts cannot be told apart
(`Node.alike_ofValue`).
-/
import ContractInterface.Proofs.Schema.Alike
import ContractInterface.Proofs.Schema.Reading

namespace ContractInterface

open Json

/-! ## Keywords -/

section Keywords

variable {ms ns : Members} (h : ms.Reordered ns) (key : String)

include h

theorem bind_asString?_eq :
    (ms.lookup key).bind Value.asString? = (ns.lookup key).bind Value.asString? :=
  bind_eq_of_rel (h.lookup key) fun _ _ h => h.asString?_eq

theorem bind_asArray?_rel : Option.Rel (List.Forall₂ Value.Reordered)
    ((ms.lookup key).bind Value.asArray?) ((ns.lookup key).bind Value.asArray?) :=
  rel_bind (h.lookup key) fun _ _ h => h.asArray?_rel

theorem Constraints.ofMembers_eq : ofMembers ms = ofMembers ns := by
  have hbound : ∀ key, bound? ms key = bound? ns key := fun key =>
    congrArg _ (bind_eq_of_rel (h.lookup key) fun _ _ h => h.asNumber?_eq)
  have hcount : ∀ key, count? ms key = count? ns key := fun key =>
    bind_eq_of_rel (h.lookup key) fun _ _ h => h.asNatural?_eq
  have htext : ∀ key, text? ms key = text? ns key := bind_asString?_eq h
  simp only [ofMembers, hbound, hcount, htext]

namespace Node

theorem hasKey_eq : hasKey ms key = hasKey ns key := isSome_eq_of_rel (h.lookup key)

theorem isArrayAt_eq : isArrayAt ms key = isArrayAt ns key :=
  isSome_eq_of_rel (bind_asArray?_rel h key)

theorem requiredNames?_eq : requiredNames? ms = requiredNames? ns :=
  map_eq_of_rel (bind_asArray?_rel h "required") fun _ _ h => Value.Reordered.filterMap_asString? h

end Node

end Keywords

namespace Node

/-! ## Parts -/

/-- Roles that cannot be told apart. -/
structure Roles.Alike (r s : Roles) : Prop where
  node : r.node.Alike s.node
  elements : List.Forall₂ Node.Alike r.elements s.elements
  named : NamedAlike r.named s.named

theorem keptByKinds_alike : KeptByKinds Alike OfTag where
  reference := .reference
  unknown := .unknown
  intersection := .intersection
  union := .union
  ofTag h := h.alike
  typeList hnodup h := .typeList hnodup h

section Kinds

variable {ms ns : Members} (h : ms.Reordered ns) {ps qs : Parts}
  (hparts : ∀ key, Option.Rel Roles.Alike (ps.lookup key) (qs.lookup key))

include hparts in
theorem elementsAt_alike (key : String) : List.Forall₂ Alike (elementsAt ps key) (elementsAt qs key) :=
  getD_of_rel (rel_map (hparts key) fun _ _ h => h.elements) .nil

include h in
/-- The node of any other tag; one that is not known permits everything. -/
theorem flatOf_alike {tag : String} (hobject : tag ≠ "object") (harray : tag ≠ "array") :
    OfTag tag (flatOf ms tag) (flatOf ns tag) := by
  unfold flatOf
  rw [Constraints.ofMembers_eq h]
  cases Primitive.ofTag? tag with
  | none => exact .flat hobject harray (fun _ => rfl) rfl rfl .any
  | some p =>
    refine .flat hobject harray (fun _ => rfl) ?_ ?_ (.primitive p _)
    · cases p <;> rfl
    · cases p <;> rfl

include h hparts

theorem additional_alike : Additional.Rel Alike (additional ms ps) (additional ns qs) := by
  unfold additional
  rcases rel_cases (h.lookup "additionalProperties") with ⟨hv, hw⟩ | ⟨v, w, hv, hw, hvw⟩
  · rw [hv, hw]
    exact .untyped
  rw [hv, hw]
  cases v with
  | object members =>
    obtain ⟨others, rfl, -⟩ := hvw.object
    rcases rel_cases (hparts "additionalProperties") with ⟨hr, hs⟩ | ⟨r, s, hr, hs, hrs⟩
    · rw [hr, hs]
      exact .untyped
    · rw [hr, hs]
      exact .typed hrs.node
  | array items =>
    obtain ⟨others, rfl, -⟩ := hvw.array
    exact .untyped
  | bool b =>
    cases w with
    | bool c =>
      cases hvw.ordered
      cases b
      · exact .forbidden
      · exact .untyped
    | null | number | string | array | object => cases hvw.ordered
  | null | number | string =>
    cases w with
    | null | number | string => exact .untyped
    | bool | array | object => cases hvw.ordered

theorem objectOf_alike : OfTag "object" (objectOf ms ps) (objectOf ns qs) := by
  refine .object ?_ ⟨_, _, _, rfl⟩ ⟨_, _, _, rfl⟩
  unfold objectOf
  rw [requiredNames?_eq h]
  refine .object (getD_of_rel (rel_map (hparts "properties") fun _ _ h => h.named) ?_) _
    (additional_alike h hparts)
  exact ⟨List.nodup_nil, List.nodup_nil, fun _ => .none⟩

theorem arrayOf_alike : OfTag "array" (arrayOf ms ps) (arrayOf ns qs) := by
  unfold arrayOf
  rw [isArrayAt_eq h, Constraints.ofMembers_eq h]
  split
  · exact .array (.tuple (elementsAt_alike hparts "items")) (.inl ⟨_, rfl⟩) (.inl ⟨_, rfl⟩)
  · refine .array (.list (rel_map (hparts "items") fun _ _ h => h.node) _) ?_ ?_
    · exact .inr ⟨_, _, rfl⟩
    · exact .inr ⟨_, _, rfl⟩

theorem readAlike_of_reordered : ReadAlike Alike OfTag ms ns ps qs where
  pointer_eq := bind_asString?_eq h "$ref"
  constant := rel_map (h.lookup "const") fun _ _ h => .constant h
  enumeration := rel_map (bind_asArray?_rel h "enum") fun _ _ h => .enumeration h
  isArrayAt_eq key _ := isArrayAt_eq h key
  elementsAt key _ := elementsAt_alike hparts key
  hasKey_eq key _ := hasKey_eq h key
  tag_eq := bind_asString?_eq h "type"
  tags_eq := map_eq_of_rel (bind_asArray?_rel h "type") fun vs ws hvw => by
    unfold distinctTags
    rw [Value.Reordered.filterMap_asString? hvw]
  object := objectOf_alike h hparts
  array := arrayOf_alike h hparts
  flat _ hobject harray := flatOf_alike h hobject harray

end Kinds

/-! ## Reading -/

/-- Values that differ in the order of members only are read alike in every role. -/
theorem alike_roles {v w : Value} (h : v.Reordered w) : (roles v).Alike (roles w) := by
  -- a value is read in terms of what its parts are in every role, so all roles go together
  induction v using Value.partInduction generalizing w with
  | step v ih =>
    have hnil : NamedAlike [] [] := ⟨List.nodup_nil, List.nodup_nil, fun _ => .none⟩
    cases v with
    | array items =>
      obtain ⟨others, rfl, hothers⟩ := h.array
      refine ⟨.unknown, ?_, hnil⟩
      show List.Forall₂ Node.Alike (nodes items) (nodes others)
      rw [nodes_eq_map, nodes_eq_map, List.forall₂_map_left_iff, List.forall₂_map_right_iff]
      have hboth := (List.forall₂_and_left items others).2 ⟨fun v hv => hv, hothers⟩
      exact hboth.imp fun v w h => (ih v h.1 h.2).node
    | object members =>
      obtain ⟨others, rfl, hothers⟩ := h.object
      have hparts : ∀ key, Option.Rel Roles.Alike ((rolesOfMembers members).lookup key)
          ((rolesOfMembers others).lookup key) := fun key => by
        rw [lookup_rolesOfMembers, lookup_rolesOfMembers]
        rcases rel_cases (hothers.lookup key) with ⟨hv, hw⟩ | ⟨v, w, hv, hw, hvw⟩
        · rw [hv, hw]
          exact .none
        · rw [hv, hw]
          exact .some (ih v (List.mem_map_of_mem (mem_of_lookup_eq_some hv)) hvw)
      have hnames : ∀ members : Members, ((rolesOfMembers members).map fun part =>
          (part.1, part.2.node)).map Prod.fst = members.map Prod.fst := fun members => by
        rw [rolesOfMembers_eq_map, List.map_map, List.map_map]
        rfl
      refine ⟨(readAlike_of_reordered hothers hparts).classify_rel keptByKinds_alike, .nil, ?_, ?_,
        fun name => ?_⟩
      · exact (hnames members).symm ▸ hothers.nodup_left
      · exact (hnames others).symm ▸ hothers.nodup_right
      · show Option.Rel Node.Alike (((rolesOfMembers members).map fun part =>
          (part.1, part.2.node)).lookup name) (((rolesOfMembers others).map fun part =>
          (part.1, part.2.node)).lookup name)
        rw [lookup_map_snd, lookup_map_snd]
        exact rel_map (hparts name) fun _ _ h => h.node
    | null | bool | number | string =>
      cases w with
      | null | bool | number | string => exact ⟨.unknown, .nil, hnil⟩
      | array | object => cases h.ordered

theorem alike_ofValue {v w : Value} (h : v.Reordered w) : (ofValue v).Alike (ofValue w) :=
  (alike_roles h).node

end Node

end ContractInterface
