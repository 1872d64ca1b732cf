/-
Reading a schema part by part: a list of schemas is read one by one, what stands under a key is read in
all roles, whatever stands under the others, and constraints are read off their ten keywords. Two schemas
of one kind, whose parts are read as related nodes, are read as related nodes themselves, for any relation
that every kind of node keeps (`Node.ReadAlike.classify_rel`).
-/
import ContractInterface.Proofs.Lists
import ContractInterface.Schema.Node
import Mathlib.Data.List.Nodup

namespace ContractInterface

open Json

/-! ## Constraints -/

/-- The keywords of constraints. -/
def Constraints.keywords : List String :=
  ["minimum", "maximum", "exclusiveMinimum", "exclusiveMaximum", "format", "minLength", "maxLength",
    "pattern", "minItems", "maxItems"]

theorem Constraints.ofMembers_congr {ms ns : Members}
    (h : ∀ key ∈ keywords, ms.lookup key = ns.lookup key) : ofMembers ms = ofMembers ns := by
  simp only [keywords, List.forall_mem_cons] at h
  simp only [ofMembers, bound?, count?, text?, h]

namespace Node

/-! ## Parts -/

theorem nodes_eq_map (vs : List Value) : nodes vs = vs.map fun v => (roles v).node := by
  induction vs with
  | nil => rfl
  | cons v vs ih => rw [nodes, ih, List.map_cons]

theorem rolesOfMembers_eq_map (members : Members) :
    rolesOfMembers members = members.map fun m => (m.1, roles m.2) := by
  induction members with
  | nil => rfl
  | cons m members ih => rw [rolesOfMembers, ih, List.map_cons]

theorem lookup_rolesOfMembers (members : Members) (key : String) :
    (rolesOfMembers members).lookup key = (members.lookup key).map roles := by
  rw [rolesOfMembers_eq_map, lookup_map_snd]

/-! ## Kinds -/

/-- The node of a schema by any keywords but those of alternatives. -/
def firstKind? (members : Members) (parts : Parts) : Option Node :=
  reference? members <|> constant? members <|> enumeration? members <|> intersection? members parts <|>
    typeList? members parts <|> typed? members parts

/-- Alternatives come last. -/
theorem classify_eq (members : Members) (parts : Parts) :
    classify members parts = (firstKind? members parts <|> union? members parts).getD .unknown := by
  unfold classify firstKind?
  simp only [Option.orElse_eq_orElse, Option.orElse_eq_or, Option.or_assoc]

/-- Every kind has nodes of its own, but for single types, which have those of their tags. -/
theorem firstKind?_cases {members : Members} {parts : Parts} {n : Node}
    (h : firstKind? members parts = some n) :
    (∃ pointer, n = .reference pointer) ∨ (∃ v, n = .constant v) ∨ (∃ vs, n = .enumeration vs) ∨
      (∃ ns, n = .intersection ns) ∨ (∃ ns, n = .typeList ns) ∨ typed? members parts = some n := by
  unfold firstKind? at h
  simp only [Option.orElse_eq_orElse, Option.orElse_eq_or, Option.or_eq_some_iff] at h
  rcases h with h | ⟨-, h | ⟨-, h | ⟨-, h | ⟨-, h | ⟨-, h⟩⟩⟩⟩⟩
  · obtain ⟨pointer, -, rfl⟩ := Option.map_eq_some_iff.1 h
    exact .inl ⟨pointer, rfl⟩
  · obtain ⟨v, -, rfl⟩ := Option.map_eq_some_iff.1 h
    exact .inr (.inl ⟨v, rfl⟩)
  · obtain ⟨vs, -, rfl⟩ := Option.map_eq_some_iff.1 h
    exact .inr (.inr (.inl ⟨vs, rfl⟩))
  · unfold intersection? at h
    split at h
    · exact .inr (.inr (.inr (.inl ⟨_, (Option.some.inj h).symm⟩)))
    · cases h
  · obtain ⟨tags, -, rfl⟩ := Option.map_eq_some_iff.1 h
    exact .inr (.inr (.inr (.inr (.inl ⟨_, rfl⟩))))
  · exact .inr (.inr (.inr (.inr (.inr h))))

/-- Alternatives are a union or nothing. -/
theorem union?_cases {members : Members} {parts : Parts} {n : Node}
    (h : union? members parts = some n) : ∃ ns, n = .union ns := by
  unfold union? at h
  generalize (if hasKey members "oneOf" then "oneOf" else "anyOf") = key at h
  dsimp only at h
  split at h
  · exact ⟨_, (Option.some.inj h).symm⟩
  · cases h

/-! ## Type tags -/

/-- No tag of a type list is read twice. -/
theorem nodup_distinctTags (tags : List Value) : (distinctTags tags).Nodup := by
  have hloop : ∀ (names seen : List String), seen.Nodup → (names.foldl
      (fun seen t => if seen.contains t then seen else seen ++ [t]) seen).Nodup := by
    intro names
    induction names with
    | nil => exact fun _ h => h
    | cons name names ih =>
      intro seen h
      rw [List.foldl_cons]
      split
      · exact ih seen h
      · rename_i hname
        refine ih _ (List.nodup_append.2 ⟨h, List.nodup_singleton name, ?_⟩)
        rintro a ha b hb rfl
        exact hname (List.contains_iff_mem.2 (List.mem_singleton.1 hb ▸ ha))
  exact hloop _ [] List.nodup_nil

/-- The keywords that say what a type tag stands for. -/
def tagKeywords : List String :=
  ["properties", "required", "additionalProperties", "items"] ++ Constraints.keywords

/-- What a type tag stands for is told by these keywords alone. -/
theorem ofTag?_congr {ms ns : Members} (h : ∀ key ∈ tagKeywords, ms.lookup key = ns.lookup key)
    (tag : String) : ofTag? ms (rolesOfMembers ms) tag = ofTag? ns (rolesOfMembers ns) tag := by
  obtain ⟨hparts, hconstraints⟩ := List.forall_mem_append.1 h
  simp only [List.forall_mem_cons] at hparts
  simp only [ofTag?, objectOf, requiredNames?, additional, arrayOf, isArrayAt, elementsAt,
    lookup_rolesOfMembers, hparts, Constraints.ofMembers_congr hconstraints]

/-! ## Related readings -/

/-- A relation of nodes that every kind of node keeps, where `T` relates the nodes of a type tag. -/
structure KeptByKinds (R : Node → Node → Prop) (T : String → Node → Node → Prop) : Prop where
  reference : ∀ pointer, R (.reference pointer) (.reference pointer)
  unknown : R .unknown .unknown
  intersection : ∀ {ns ms}, List.Forall₂ R ns ms → R (.intersection ns) (.intersection ms)
  union : ∀ {ns ms}, List.Forall₂ R ns ms → R (.union ns) (.union ms)
  ofTag : ∀ {tag n m}, T tag n m → R n m
  typeList : ∀ {tags : List String} {a b : String → Node}, tags.Nodup →
    (∀ tag, T tag (a tag) (b tag)) → R (.typeList (tags.map a)) (.typeList (tags.map b))

/-- The node of a tag that is neither of objects nor of arrays. -/
def flatOf (members : Members) (tag : String) : Node :=
  ((Primitive.ofTag? tag).map fun p => .primitive p (Constraints.ofMembers members)).getD .unknown

/-- Schemas of one kind, whose parts are read as related nodes. -/
structure ReadAlike (R : Node → Node → Prop) (T : String → Node → Node → Prop) (ms ns : Members)
    (ps qs : Parts) : Prop where
  pointer_eq : (ms.lookup "$ref").bind Value.asString? = (ns.lookup "$ref").bind Value.asString?
  constant : Option.Rel R (constant? ms) (constant? ns)
  enumeration : Option.Rel R (enumeration? ms) (enumeration? ns)
  isArrayAt_eq : ∀ key ∈ ["allOf", "oneOf", "anyOf"], isArrayAt ms key = isArrayAt ns key
  elementsAt : ∀ key ∈ ["allOf", "oneOf", "anyOf"],
    List.Forall₂ R (elementsAt ps key) (elementsAt qs key)
  hasKey_eq : ∀ key ∈ ["oneOf", "properties", "additionalProperties"], hasKey ms key = hasKey ns key
  tag_eq : (ms.lookup "type").bind Value.asString? = (ns.lookup "type").bind Value.asString?
  tags_eq : ((ms.lookup "type").bind Value.asArray?).map distinctTags =
    ((ns.lookup "type").bind Value.asArray?).map distinctTags
  object : T "object" (objectOf ms ps) (objectOf ns qs)
  array : T "array" (arrayOf ms ps) (arrayOf ns qs)
  flat : ∀ tag, tag ≠ "object" → tag ≠ "array" → T tag (flatOf ms tag) (flatOf ns tag)

namespace ReadAlike

variable {R : Node → Node → Prop} {T : String → Node → Node → Prop} {ms ns : Members} {ps qs : Parts}
  (h : ReadAlike R T ms ns ps qs)

include h

/-- A tag is known on both sides or on neither. -/
theorem ofTag?_rel (tag : String) : Option.Rel (T tag) (ofTag? ms ps tag) (ofTag? ns qs tag) := by
  unfold ofTag?
  by_cases hobject : tag = "object"
  · rw [if_pos hobject, if_pos hobject, hobject]
    exact .some h.object
  rw [if_neg hobject, if_neg hobject]
  by_cases harray : tag = "array"
  · rw [if_pos harray, if_pos harray, harray]
    exact .some h.array
  · rw [if_neg harray, if_neg harray]
    have hflat := h.flat tag hobject harray
    unfold flatOf at hflat
    cases hp : Primitive.ofTag? tag with
    | none => exact .none
    | some p =>
      rw [hp] at hflat
      exact .some hflat

theorem ofTag?_getD (tag : String) :
    T tag ((ofTag? ms ps tag).getD .unknown) ((ofTag? ns qs tag).getD .unknown) := by
  by_cases hobject : tag = "object"
  · rw [hobject]
    exact h.object
  by_cases harray : tag = "array"
  · rw [harray]
    exact h.array
  · unfold ofTag?
    rw [if_neg hobject, if_neg hobject, if_neg harray, if_neg harray]
    exact h.flat tag hobject harray

variable (hR : KeptByKinds R T)

include hR

theorem reference?_rel : Option.Rel R (reference? ms) (reference? ns) := by
  unfold reference?
  rw [h.pointer_eq]
  cases (ns.lookup "$ref").bind Value.asString? with
  | none => exact .none
  | some pointer => exact .some (hR.reference pointer)

theorem intersection?_rel : Option.Rel R (intersection? ms ps) (intersection? ns qs) := by
  unfold intersection?
  rw [h.isArrayAt_eq "allOf" (by simp)]
  split
  · exact .some (hR.intersection (h.elementsAt "allOf" (by simp)))
  · exact .none

theorem typeList?_rel : Option.Rel R (typeList? ms ps) (typeList? ns qs) := by
  have hlist : ∀ (members : Members) (parts : Parts), typeList? members parts =
      (((members.lookup "type").bind Value.asArray?).map distinctTags).map fun tags =>
        .typeList (tags.map fun tag => (ofTag? members parts tag).getD .unknown) := fun _ _ => by
    rw [Option.map_map]
    rfl
  rw [hlist, hlist, h.tags_eq]
  cases (ns.lookup "type").bind Value.asArray? with
  | none => exact .none
  | some tags => exact .some (hR.typeList (nodup_distinctTags tags) h.ofTag?_getD)

theorem typed?_rel : Option.Rel R (typed? ms ps) (typed? ns qs) := by
  unfold typed?
  rw [h.tag_eq, h.hasKey_eq "properties" (by simp), h.hasKey_eq "additionalProperties" (by simp)]
  split
  · exact rel_imp (h.ofTag?_rel _) fun _ _ h => hR.ofTag h
  · split
    · exact .some (hR.ofTag h.object)
    · exact .none

theorem union?_rel : Option.Rel R (union? ms ps) (union? ns qs) := by
  unfold union?
  rw [h.hasKey_eq "oneOf" (by simp)]
  have hkey : (if hasKey ns "oneOf" then "oneOf" else "anyOf") ∈ ["allOf", "oneOf", "anyOf"] := by
    split <;> simp
  generalize (if hasKey ns "oneOf" then "oneOf" else "anyOf") = key at hkey
  dsimp only
  rw [h.isArrayAt_eq key hkey]
  split
  · exact .some (hR.union (h.elementsAt key hkey))
  · exact .none

theorem classify_rel : R (classify ms ps) (classify ns qs) := by
  refine getD_of_rel ?_ hR.unknown
  exact rel_orElse (h.reference?_rel hR) <| rel_orElse h.constant <| rel_orElse h.enumeration <|
    rel_orElse (h.intersection?_rel hR) <| rel_orElse (h.typeList?_rel hR) <|
    rel_orElse (h.typed?_rel hR) (h.union?_rel hR)

end ReadAlike

end Node

end ContractInterface
