/-
Schemas with a list of types. Such a schema is read as one alternative for each of its types: what is
read of the schema with that type alone and without written alternatives (`Node.Narrows`). It resolves if
each of these does, and accepts what one of them accepts (`accepts_iff_of_narrows`).
-/
import Mathlib
import ContractInterface.Proofs.Schema.Reading
import ContractInterface.Proofs.Shape.Acceptance
import ContractInterface.Proofs.Shape.Memo

namespace ContractInterface

open Json

namespace Node

/-! ## The types of a list -/

theorem distinctTags_eq_eraseDups (tags : List Value) :
    distinctTags tags = (tags.filterMap Value.asString?).eraseDups := by
  -- the loop keeps what it has seen and adds each name that it has not
  have hloop : ∀ (names seen : List String), names.foldl
      (fun seen t => if seen.contains t then seen else seen ++ [t]) seen =
        seen ++ (names.filter fun t => !seen.contains t).eraseDups := by
    intro names
    induction names with
    | nil => simp
    | cons name names ih =>
      intro seen
      rw [List.foldl_cons, List.filter_cons]
      cases hname : seen.contains name with
      | true => exact ih seen
      | false =>
        have hrest : (names.filter fun t => !(seen ++ [name]).contains t) =
            (names.filter fun t => !seen.contains t).filter fun t => !t == name := by
          rw [List.filter_filter]
          refine List.filter_congr fun t _ => ?_
          by_cases ht : t = name <;> simp [ht]
        simp only [Bool.false_eq_true, if_false, Bool.not_false, if_true]
        rw [ih, hrest, List.eraseDups_cons, List.append_assoc, List.singleton_append]
  exact (hloop _ []).trans (by simp)

/-! ## Narrowing -/

/-- The members of the schema with the tag as its only type and without written alternatives, in some
order. -/
def Narrows (members : Members) (tag : String) (narrowed : Members) : Prop :=
  ∀ key, narrowed.lookup key =
    if key = "type" then some (.string tag)
    else if key = "oneOf" ∨ key = "anyOf" then none
    else members.lookup key

/-- Nodes for values of one kind, or of any. -/
def IsSingle : Node → Prop
  | .object .. | .tuple _ | .list .. | .primitive .. | .unknown => True
  | .reference _ | .constant _ | .enumeration _ | .intersection _ | .typeList _ | .union _ => False

/-- The schema is neither a pointer nor told by values or by a conjunction. -/
structure Plain (members : Members) : Prop where
  reference : ∀ pointer, members.lookup "$ref" ≠ some (.string pointer)
  constant : members.lookup "const" = none
  enumeration : ∀ values, members.lookup "enum" ≠ some (.array values)
  intersection : ∀ schemas, members.lookup "allOf" ≠ some (.array schemas)

section Narrows

variable {members narrowed : Members} {tag : String}

theorem bind_asArray?_eq_none {v : Option Value} (h : ∀ items, v ≠ some (.array items)) :
    v.bind Value.asArray? = none := by
  rcases v with _ | _ | _ | _ | _ | items | _
  case some.array => exact absurd rfl (h items)
  all_goals rfl

theorem bind_asString?_eq_none {v : Option Value} (h : ∀ text, v ≠ some (.string text)) :
    v.bind Value.asString? = none := by
  rcases v with _ | _ | _ | _ | text | _ | _
  case some.string => exact absurd rfl (h text)
  all_goals rfl

/-- Only what follows of its types and alternatives is left to tell the kind of a plain schema. -/
theorem classify_of_plain (h : Plain members) (parts : Parts) : classify members parts =
    (typeList? members parts <|> typed? members parts <|> union? members parts).getD .unknown := by
  unfold classify reference? constant? enumeration? intersection? isArrayAt
  rw [bind_asString?_eq_none h.reference, h.constant, bind_asArray?_eq_none h.enumeration,
    bind_asArray?_eq_none h.intersection]
  rfl

variable (h : Narrows members tag narrowed)

include h

theorem Narrows.lookup_type : narrowed.lookup "type" = some (.string tag) := h "type"

theorem Narrows.lookup_eq {key : String} (hkey : key ∉ ["type", "oneOf", "anyOf"]) :
    narrowed.lookup key = members.lookup key := by
  simp only [List.mem_cons, List.not_mem_nil, or_false, not_or] at hkey
  rw [h key, if_neg hkey.1, if_neg (not_or.2 hkey.2)]

theorem Narrows.plain (hplain : Plain members) : Plain narrowed := by
  refine ⟨?_, ?_, ?_, ?_⟩
  · rw [h.lookup_eq (by decide)]
    exact hplain.reference
  · rw [h.lookup_eq (by decide)]
    exact hplain.constant
  · rw [h.lookup_eq (by decide)]
    exact hplain.enumeration
  · rw [h.lookup_eq (by decide)]
    exact hplain.intersection

/-- What a type tag stands for is no matter of the types and alternatives that are written. -/
theorem Narrows.ofTag?_eq (other : String) : ofTag? narrowed (rolesOfMembers narrowed) other =
    ofTag? members (rolesOfMembers members) other :=
  ofTag?_congr (fun key hkey => h.lookup_eq fun hmem => by
    revert key
    decide) other

/-- The schema with a single type is what its tag stands for. -/
theorem Narrows.ofValue_eq (hplain : Plain members) : ofValue (.object narrowed) =
    (ofTag? members (rolesOfMembers members) tag).getD .unknown := by
  have htypes : typeList? narrowed (rolesOfMembers narrowed) = none := by
    unfold typeList?
    rw [h.lookup_type]
    rfl
  have htyped : typed? narrowed (rolesOfMembers narrowed) =
      ofTag? members (rolesOfMembers members) tag := by
    unfold typed?
    rw [h.lookup_type]
    exact h.ofTag?_eq tag
  have hunion : union? narrowed (rolesOfMembers narrowed) = none := by
    have hone : narrowed.lookup "oneOf" = none := h "oneOf"
    have hany : narrowed.lookup "anyOf" = none := h "anyOf"
    simp [union?, hasKey, isArrayAt, hone, hany]
  show classify narrowed (rolesOfMembers narrowed) = _
  rw [classify_of_plain (h.plain hplain), htypes, htyped, hunion]
  cases ofTag? members (rolesOfMembers members) tag <;> rfl

end Narrows

theorem isSingle_ofTag? (members : Members) (parts : Parts) (tag : String) :
    ((ofTag? members parts tag).getD .unknown).IsSingle := by
  unfold ofTag? arrayOf
  split
  · trivial
  · split
    · split <;> trivial
    · cases Primitive.ofTag? tag <;> trivial

theorem isSingle_of_typed? {members : Members} {parts : Parts} {n : Node}
    (h : typed? members parts = some n) : n.IsSingle := by
  unfold typed? at h
  split at h
  · rename_i tag _
    have hsingle := isSingle_ofTag? members parts tag
    rwa [h] at hsingle
  · split at h
    · exact Option.some.inj h ▸ trivial
    · cases h

/-- A plain schema with a list of types is read as what it is narrowed to, type by type. -/
theorem ofValue_of_types {members : Members} (hplain : Plain members) {tags : List Value}
    (htype : members.lookup "type" = some (.array tags)) {narrow : String → Members}
    (hnarrow : ∀ tag, Narrows members tag (narrow tag)) : ofValue (.object members) =
      .typeList ((tags.filterMap Value.asString?).eraseDups.map fun tag =>
        ofValue (.object (narrow tag))) := by
  have htypes : typeList? members (rolesOfMembers members) = some (.typeList
      ((distinctTags tags).map fun tag =>
        (ofTag? members (rolesOfMembers members) tag).getD .unknown)) := by
    unfold typeList?
    rw [htype]
    rfl
  show classify members (rolesOfMembers members) = _
  rw [classify_of_plain hplain, htypes, ← distinctTags_eq_eraseDups]
  refine congrArg typeList (List.map_congr_left fun tag _ => ?_)
  exact ((hnarrow tag).ofValue_eq hplain).symm

end Node

/-! ## Resolving -/

theorem resolve_typeList (d : Definitions) (ns : List Node) :
    resolve d (.typeList ns) = do return .ofTypeList (← ns.mapM (resolve d)) := by
  have hplain : resolve d = d.expand [] := funext (Resolver.resolve_eq_expand d)
  rw [hplain]
  show (do return Shape.ofTypeList (← Node.resolveAll (d.expandPointer []) ns)) = _
  rw [Node.resolveAll_eq_mapM]
  rfl

/-- A schema with a list of types is the union of its narrowings to each of them. -/
theorem accepts_iff_of_narrows {members : Members} (hplain : Node.Plain members) {tags : List Value}
    (htype : members.lookup "type" = some (.array tags)) {narrow : String → Members}
    (hnarrow : ∀ tag, Node.Narrows members tag (narrow tag)) (d : Definitions) :
    let names := (tags.filterMap Value.asString?).eraseDups
    let node (tag : String) := Node.ofValue (.object (narrow tag))
    let whole := Node.ofValue (.object members)
    whole = .typeList (names.map node) ∧ (∀ tag ∈ names, (node tag).IsSingle) ∧
    ((∃ s, resolve d whole = .ok s) ↔ ∀ tag ∈ names, ∃ s, resolve d (node tag) = .ok s) ∧
    (∀ e, resolve d whole = .error e ↔ ∃ before tag after, names = before ++ tag :: after ∧
      (∀ other ∈ before, ∃ s, resolve d (node other) = .ok s) ∧ resolve d (node tag) = .error e) ∧
    (names = [] → resolve d whole = .ok .any) ∧
    (names ≠ [] → ∀ s, resolve d whole = .ok s → ∀ v, s.accepts v = true ↔
      ∃ tag ∈ names, ∃ t, resolve d (node tag) = .ok t ∧ t.accepts v = true) := by
  intro names node whole
  have hwhole : whole = .typeList (names.map node) := Node.ofValue_of_types hplain htype hnarrow
  have hresolve : resolve d whole = do
      return .ofTypeList (← names.mapM fun tag => resolve d (node tag)) := by
    rw [hwhole, resolve_typeList, List.mapM_map]
    rfl
  refine ⟨hwhole, fun tag _ => ?_, ?_, fun e => ?_, fun hnames => ?_, fun hnames s hs v => ?_⟩
  · show (Node.ofValue (.object (narrow tag))).IsSingle
    rw [(hnarrow tag).ofValue_eq hplain]
    exact Node.isSingle_ofTag? ..
  · rw [hresolve, ← failure?_eq_none_iff, failure?_bind_pure, failure?_eq_none_iff, exists_mapM_iff]
  · rw [hresolve, ← failure?_eq_some_iff, failure?_bind_pure, failure?_eq_some_iff, mapM_eq_error_iff]
  · rw [hresolve, hnames]
    rfl
  · rw [hresolve] at hs
    obtain ⟨ts, hts, ⟨⟩⟩ := bind_eq_ok.1 hs
    have hall := mapM_eq_ok.1 hts
    have hne : ts ≠ [] := fun hnil => hnames (List.forall₂_nil_right_iff.1 (hnil ▸ hall))
    rw [Shape.accepts_ofTypeList_iff, or_iff_right hne]
    constructor
    · rintro ⟨t, ht, hv⟩
      obtain ⟨tag, htag, heq⟩ := exists_mem_of_forall₂ hall.flip t ht
      exact ⟨tag, htag, t, heq, hv⟩
    · rintro ⟨tag, htag, t, ht, hv⟩
      obtain ⟨t', ht', heq⟩ := exists_mem_of_forall₂ hall tag htag
      exact ⟨t', ht', Except.ok.inj (ht.symm.trans heq) ▸ hv⟩

/-- A list with a repeated type and two types that come to one shape, beside alternatives that have no
say: of the two shapes that are left, null conforms to the second. -/
theorem accepts_iff_of_narrows_byte :
    let tags : List Value := [.string "integer", .string "null", .string "integer", .string "number"]
    let members : Members := [("type", .array tags), ("anyOf", .array []), ("format", .string "uint8")]
    let narrow (tag : String) : Members := [("format", .string "uint8"), ("type", .string tag)]
    let node (tag : String) := Node.ofValue (.object (narrow tag))
    let byte : Constraints := { Constraints.empty with format := some "uint8" }
    let s : Shape := .union [.number byte, .null]
    Node.Plain members ∧ members.lookup "type" = some (.array tags) ∧
      (∀ tag, Node.Narrows members tag (narrow tag)) ∧
      resolve .empty (Node.ofValue (.object members)) = .ok s ∧
      (s.accepts .null = true ↔ ∃ tag ∈ ["integer", "null", "number"], ∃ t,
        resolve .empty (node tag) = .ok t ∧ t.accepts .null = true) := by
  intro tags members narrow node byte s
  have habsent : ∀ key ∈ ["$ref", "const", "enum", "allOf"], members.lookup key = none := by
    simp only [List.forall_mem_cons]
    exact ⟨rfl, rfl, rfl, rfl, List.forall_mem_nil _⟩
  have hplain : Node.Plain members :=
    ⟨by simp [habsent], by simp [habsent], by simp [habsent], by simp [habsent]⟩
  have hnarrow : ∀ tag, Node.Narrows members tag (narrow tag) := by
    intro tag key
    by_cases htype : key = "type"
    · subst htype
      rfl
    by_cases hany : key = "anyOf"
    · subst hany
      rfl
    by_cases hone : key = "oneOf"
    · subst hone
      rfl
    · simp [members, narrow, List.lookup_cons, beq_eq_false_iff_ne.2, *]
  have hresolve : resolve .empty (Node.ofValue (.object members)) = .ok s := by
    simp only [members, tags, s, byte]
    cbv
  have hnames : (tags.filterMap Value.asString?).eraseDups = ["integer", "null", "number"] := by decide
  obtain ⟨-, -, -, -, -, haccepts⟩ := accepts_iff_of_narrows hplain rfl hnarrow .empty
  rw [hnames] at haccepts
  exact ⟨hplain, rfl, hnarrow, hresolve, haccepts (by simp) s hresolve .null⟩

end ContractInterface
