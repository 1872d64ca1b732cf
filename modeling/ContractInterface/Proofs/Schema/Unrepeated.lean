/-
Nodes in which nothing is repeated that JSON does not let repeat: no object declares a name twice, and no
name is repeated in a listed value. What is read off a schema in which no name is repeated is such a node
(`Node.unrepeated_ofValue`), and so are the entries of a table that is read (`Definitions.IsRead`).
-/
import ContractInterface.Proofs.Json.Reordered
import ContractInterface.Proofs.Schema.Reach
import ContractInterface.Proofs.Schema.Reading

namespace ContractInterface

open Json

/-! ## Values -/

namespace Json.Value

/-- No name is repeated in an object, at any depth. The room is no limit: every value has some depth. -/
def Unrepeated (v : Value) : Prop := ∃ room, v.Fits room

variable {v w : Value}

theorem Unrepeated.same_symm (hv : v.Unrepeated) (hw : w.Unrepeated) (h : v.same w = true) :
    w.same v = true := by
  obtain ⟨room, hv⟩ := hv
  obtain ⟨room', hw⟩ := hw
  exact hv.same_symm hw h

theorem Fits.mono {room room' : Nat} (h : v.Fits room) (hle : room ≤ room') : v.Fits room' := by
  induction h generalizing room' with
  | null => exact .null
  | bool b => exact .bool b
  | number n => exact .number n
  | string s => exact .string s
  | array _ ih =>
    cases room' with
    | zero => omega
    | succ room' => exact .array fun w hw => ih w hw (by omega)
  | object hnodup _ ih =>
    cases room' with
    | zero => omega
    | succ room' => exact .object hnodup fun m hm => ih m hm (by omega)

/-- There is room enough for all values of a list. -/
theorem exists_fits {vs : List Value} (h : ∀ v ∈ vs, v.Unrepeated) : ∃ room, ∀ v ∈ vs, v.Fits room := by
  induction vs with
  | nil => exact ⟨0, List.forall_mem_nil _⟩
  | cons v vs ih =>
    obtain ⟨⟨room, hv⟩, hvs⟩ := List.forall_mem_cons.1 h
    obtain ⟨room', hvs⟩ := ih hvs
    refine ⟨max room room', List.forall_mem_cons.2 ⟨hv.mono (by omega), fun w hw => ?_⟩⟩
    exact (hvs w hw).mono (by omega)

@[simp] theorem unrepeated_null : Value.null.Unrepeated := ⟨0, .null⟩

@[simp] theorem unrepeated_bool (b : Bool) : (Value.bool b).Unrepeated := ⟨0, .bool b⟩

@[simp] theorem unrepeated_number (n : Number) : (Value.number n).Unrepeated := ⟨0, .number n⟩

@[simp] theorem unrepeated_string (s : String) : (Value.string s).Unrepeated := ⟨0, .string s⟩

@[simp] theorem unrepeated_array_iff {items : List Value} :
    (Value.array items).Unrepeated ↔ ∀ v ∈ items, v.Unrepeated := by
  constructor
  · rintro ⟨room, h⟩ v hv
    cases h with
    | array hitems => exact ⟨_, hitems v hv⟩
  · intro h
    obtain ⟨room, hitems⟩ := exists_fits h
    exact ⟨room + 1, .array hitems⟩

@[simp] theorem unrepeated_object_iff {members : Members} : (Value.object members).Unrepeated ↔
    (members.map Prod.fst).Nodup ∧ ∀ m ∈ members, m.2.Unrepeated := by
  constructor
  · rintro ⟨room, h⟩
    cases h with
    | object hnodup hmembers => exact ⟨hnodup, fun m hm => ⟨_, hmembers m hm⟩⟩
  · rintro ⟨hnodup, hmembers⟩
    obtain ⟨room, hvalues⟩ := exists_fits (List.forall_mem_map.2 hmembers)
    exact ⟨room + 1, .object hnodup fun m hm => hvalues m.2 (List.mem_map_of_mem hm)⟩

theorem Unrepeated.of_mem_parts (h : v.Unrepeated) (hw : w ∈ v.parts) : w.Unrepeated := by
  cases v with
  | array => exact unrepeated_array_iff.1 h w hw
  | object =>
    obtain ⟨m, hm, rfl⟩ := List.mem_map.1 hw
    exact (unrepeated_object_iff.1 h).2 m hm
  | null | bool | number | string => cases hw

theorem Unrepeated.of_asArray? (h : v.Unrepeated) {items : List Value}
    (hitems : v.asArray? = some items) : ∀ w ∈ items, w.Unrepeated := by
  cases v with
  | array =>
    obtain rfl := Option.some.inj hitems
    exact fun w hw => h.of_mem_parts hw
  | null | bool | number | string | object => cases hitems

end Json.Value

/-! ## Nodes -/

namespace Node

/-- The node itself declares no name twice, and no name is repeated in a value that it lists. -/
structure DeclaresOnce (n : Node) : Prop where
  declared : ∀ ps required a, n = .object ps required a → (ps.map Prod.fst).Nodup
  listed : ∀ vs, n = .enumeration vs → ∀ v ∈ vs, v.Unrepeated

/-- Every node in the node, at any depth, declares no name twice. -/
def Unrepeated (n : Node) : Prop := ∀ m, n.Contains m → m.DeclaresOnce

theorem unrepeated_iff {n : Node} :
    n.Unrepeated ↔ n.DeclaresOnce ∧ ∀ m ∈ n.children, m.Unrepeated := by
  constructor
  · intro h
    exact ⟨h n (.refl n), fun m hm k hk => h k (.of_child hm hk)⟩
  · rintro ⟨hn, hc⟩ k hk
    rcases contains_iff.1 hk with rfl | ⟨m, hm, hk⟩
    · exact hn
    · exact hc m hm k hk

theorem Unrepeated.child {n m : Node} (h : n.Unrepeated) (hm : m ∈ n.children) : m.Unrepeated :=
  (unrepeated_iff.1 h).2 m hm

/-! ### Kinds -/

section Kinds

variable {ns : List Node}

theorem Unrepeated.reference (pointer : String) : Unrepeated (.reference pointer) :=
  unrepeated_iff.2 ⟨⟨nofun, nofun⟩, nofun⟩

theorem Unrepeated.constant (v : Value) : Unrepeated (.constant v) :=
  unrepeated_iff.2 ⟨⟨nofun, nofun⟩, nofun⟩

theorem Unrepeated.enumeration {vs : List Value} (h : ∀ v ∈ vs, v.Unrepeated) :
    Unrepeated (.enumeration vs) :=
  unrepeated_iff.2 ⟨⟨nofun, by rintro _ ⟨⟩; exact h⟩, nofun⟩

theorem Unrepeated.intersection (h : ∀ n ∈ ns, n.Unrepeated) : Unrepeated (.intersection ns) :=
  unrepeated_iff.2 ⟨⟨nofun, nofun⟩, h⟩

theorem Unrepeated.typeList (h : ∀ n ∈ ns, n.Unrepeated) : Unrepeated (.typeList ns) :=
  unrepeated_iff.2 ⟨⟨nofun, nofun⟩, h⟩

theorem Unrepeated.object {ps : List (String × Node)} (hnodup : (ps.map Prod.fst).Nodup)
    (hps : ∀ p ∈ ps, p.2.Unrepeated) (required : Option (List String)) {a : Additional Node}
    (ha : ∀ n ∈ a.toList, n.Unrepeated) : Unrepeated (.object ps required a) := by
  refine unrepeated_iff.2 ⟨⟨by rintro _ _ _ ⟨⟩; exact hnodup, nofun⟩, fun n hn => ?_⟩
  rcases List.mem_append.1 hn with hn | hn
  · obtain ⟨p, hp, rfl⟩ := List.mem_map.1 hn
    exact hps p hp
  · exact ha n hn

theorem Unrepeated.tuple (h : ∀ n ∈ ns, n.Unrepeated) : Unrepeated (.tuple ns) :=
  unrepeated_iff.2 ⟨⟨nofun, nofun⟩, h⟩

theorem Unrepeated.list {items : Option Node} (h : ∀ n ∈ items, n.Unrepeated) (c : Constraints) :
    Unrepeated (.list items c) :=
  unrepeated_iff.2 ⟨⟨nofun, nofun⟩, fun n hn => h n (by simpa [children] using hn)⟩

theorem Unrepeated.primitive (p : Primitive) (c : Constraints) : Unrepeated (.primitive p c) :=
  unrepeated_iff.2 ⟨⟨nofun, nofun⟩, nofun⟩

theorem Unrepeated.union (h : ∀ n ∈ ns, n.Unrepeated) : Unrepeated (.union ns) :=
  unrepeated_iff.2 ⟨⟨nofun, nofun⟩, h⟩

theorem Unrepeated.unknown : Unrepeated .unknown := unrepeated_iff.2 ⟨⟨nofun, nofun⟩, nofun⟩

end Kinds

/-! ## Reading -/

/-- What is read of a value, in any role, repeats nothing. -/
structure Roles.Unrepeated (r : Roles) : Prop where
  node : r.node.Unrepeated
  elements : ∀ n ∈ r.elements, n.Unrepeated
  names : (r.named.map Prod.fst).Nodup
  named : ∀ p ∈ r.named, p.2.Unrepeated

/-- To repeat nothing is a relation of a node to any other that each kind of node keeps. -/
theorem keptByKinds_unrepeated :
    KeptByKinds (fun n _ => n.Unrepeated) (fun _ n _ => n.Unrepeated) where
  reference := .reference
  unknown := .unknown
  intersection h := .intersection (forall_mem_of_forall₂ h)
  union h := .union (forall_mem_of_forall₂ h)
  ofTag h := h
  typeList _ h := .typeList fun n hn => by
    obtain ⟨tag, -, rfl⟩ := List.mem_map.1 hn
    exact h tag

section Parts

variable {members : Members} {parts : Parts}
  (hmembers : ∀ key, ∀ v ∈ members.lookup key, v.Unrepeated)
  (hparts : ∀ key, ∀ r ∈ parts.lookup key, r.Unrepeated)

include hparts in
theorem elementsAt_unrepeated (key : String) : ∀ n ∈ elementsAt parts key, n.Unrepeated := by
  unfold elementsAt
  cases h : parts.lookup key with
  | none => simp
  | some r => exact (hparts key r h).elements

include hparts in
theorem additional_unrepeated : ∀ n ∈ (additional members parts).toList, n.Unrepeated := by
  unfold additional
  split
  · nofun
  · rename_i r _ hr
    exact List.forall_mem_singleton.2 (hparts _ r hr).node
  · nofun

include hparts in
theorem objectOf_unrepeated : (objectOf members parts).Unrepeated := by
  have hnamed : ((((parts.lookup "properties").map Roles.named).getD []).map Prod.fst).Nodup ∧
      ∀ p ∈ ((parts.lookup "properties").map Roles.named).getD [], p.2.Unrepeated := by
    cases h : parts.lookup "properties" with
    | none => exact ⟨List.nodup_nil, nofun⟩
    | some r => exact ⟨(hparts _ r h).names, (hparts _ r h).named⟩
  exact .object hnamed.1 hnamed.2 _ (additional_unrepeated hparts)

include hparts in
theorem arrayOf_unrepeated : (arrayOf members parts).Unrepeated := by
  unfold arrayOf
  split
  · exact .tuple (elementsAt_unrepeated hparts "items")
  · refine .list (fun n hn => ?_) _
    obtain ⟨r, hr, rfl⟩ := Option.map_eq_some_iff.1 hn
    exact (hparts _ r hr).node

theorem flatOf_unrepeated (members : Members) (tag : String) : (flatOf members tag).Unrepeated := by
  unfold flatOf
  cases Primitive.ofTag? tag with
  | none => exact .unknown
  | some p => exact .primitive p _

include hmembers hparts

theorem classify_unrepeated : (classify members parts).Unrepeated := by
  have hread : ReadAlike (fun n _ => n.Unrepeated) (fun _ n _ => n.Unrepeated) members members parts
      parts :=
    { pointer_eq := rfl
      constant := rel_self fun n hn => by
        obtain ⟨v, -, rfl⟩ := Option.map_eq_some_iff.1 hn
        exact .constant v
      enumeration := rel_self fun n hn => by
        obtain ⟨vs, hvs, rfl⟩ := Option.map_eq_some_iff.1 hn
        obtain ⟨v, hv, hvs⟩ := Option.bind_eq_some_iff.1 hvs
        exact .enumeration ((hmembers _ _ hv).of_asArray? hvs)
      isArrayAt_eq := fun _ _ => rfl
      elementsAt := fun key _ => List.forall₂_same.2 (elementsAt_unrepeated hparts key)
      hasKey_eq := fun _ _ => rfl
      tag_eq := rfl
      tags_eq := rfl
      object := objectOf_unrepeated hparts
      array := arrayOf_unrepeated hparts
      flat := fun tag _ _ => flatOf_unrepeated members tag }
  exact hread.classify_rel keptByKinds_unrepeated

end Parts

theorem unrepeated_roles {v : Value} (hv : v.Unrepeated) : (roles v).Unrepeated := by
  induction v using Value.partInduction with
  | step v ih =>
    cases v with
    | array items =>
      refine ⟨.unknown, ?_, List.nodup_nil, nofun⟩
      show ∀ n ∈ nodes items, n.Unrepeated
      rw [nodes_eq_map]
      exact List.forall_mem_map.2 fun w hw => (ih w hw (hv.of_mem_parts hw)).node
    | object members =>
      have hpart : ∀ m ∈ members, (roles m.2).Unrepeated := fun m hm =>
        have hm : m.2 ∈ (Value.object members).parts := List.mem_map_of_mem hm
        ih m.2 hm (hv.of_mem_parts hm)
      have hnamed : ((rolesOfMembers members).map fun part => (part.1, part.2.node)) =
          members.map fun m => (m.1, (roles m.2).node) := by
        rw [rolesOfMembers_eq_map, List.map_map]
        rfl
      refine ⟨classify_unrepeated (fun key w hw => ?_) (fun key r hr => ?_), nofun, ?_, ?_⟩
      · exact hv.of_mem_parts (List.mem_map.2 ⟨_, mem_of_lookup_eq_some hw, rfl⟩)
      · rw [lookup_rolesOfMembers] at hr
        obtain ⟨w, hw, rfl⟩ := Option.map_eq_some_iff.1 hr
        exact hpart _ (mem_of_lookup_eq_some hw)
      · show (((rolesOfMembers members).map fun part => (part.1, part.2.node)).map Prod.fst).Nodup
        rw [hnamed, List.map_map]
        exact (Value.unrepeated_object_iff.1 hv).1
      · show ∀ p ∈ (rolesOfMembers members).map fun part => (part.1, part.2.node), p.2.Unrepeated
        rw [hnamed]
        exact List.forall_mem_map.2 fun m hm => (hpart m hm).node
    | null | bool | number | string => exact ⟨.unknown, nofun, List.nodup_nil, nofun⟩

theorem unrepeated_ofValue {v : Value} (hv : v.Unrepeated) : (ofValue v).Unrepeated :=
  (unrepeated_roles hv).node

/-- The node is read off a schema in which no name is repeated. -/
def IsRead (n : Node) : Prop := ∃ schema : Value, schema.Unrepeated ∧ n = .ofValue schema

theorem IsRead.unrepeated {n : Node} (h : n.IsRead) : n.Unrepeated := by
  obtain ⟨schema, hschema, rfl⟩ := h
  exact unrepeated_ofValue hschema

end Node

/-! ## Tables -/

namespace Definitions

/-- The table is read off raw schemas under different names, in which no name is repeated. -/
def IsRead (d : Definitions) : Prop :=
  ∃ raw : Members, (Value.object raw).Unrepeated ∧ d = .ofRaw raw

theorem IsRead.unrepeated {d : Definitions} (h : d.IsRead) {name : String} {n : Node}
    (hn : d.get? name = some n) : n.Unrepeated := by
  obtain ⟨raw, hraw, rfl⟩ := h
  rw [get?_ofRaw] at hn
  obtain ⟨v, hv, rfl⟩ := Option.map_eq_some_iff.1 hn
  exact Node.unrepeated_ofValue
    (hraw.of_mem_parts (List.mem_map.2 ⟨_, mem_of_lookup_eq_some hv, rfl⟩))

end Definitions

end ContractInterface
