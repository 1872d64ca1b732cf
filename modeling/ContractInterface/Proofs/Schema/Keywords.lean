/-
Constraint keywords that are added to schemas. They may be added at any depth, wherever a schema is read as
one (`KeywordsAdded`); the node that is read then is of the same kind, and differs in its constraints only
(`Node.tightened_ofValue`). So the schema resolves as before, to a shape that differs in its constraints
only and accepts nothing that was not accepted before (`resolve_of_added`).
-/
import Mathlib
import ContractInterface.Proofs.Schema.Reading
import ContractInterface.Proofs.Schema.Tightened
import ContractInterface.Proofs.Shape.Memo

namespace ContractInterface

open Json

/-! ## Added keywords -/

/-- What a value inside a schema is read as. -/
inductive Place where
  /-- A schema, or a list of schemas. -/
  | schema
  /-- Schemas by name. -/
  | named
  /-- Anything else. -/
  | other
deriving DecidableEq

/-- What is read under a keyword. -/
def Place.under (keyword : String) : Place :=
  if keyword = "properties" then .named
  else if keyword ∈ ["allOf", "oneOf", "anyOf", "items", "additionalProperties"] then .schema
  else .other

theorem Place.under_of_keyword : ∀ {keyword : String}, keyword ∈ Constraints.keywords →
    Place.under keyword = .other := by
  decide

/-- The second value is the first with constraint keywords added, under any values, to schemas in it that
lack them. -/
inductive KeywordsAdded : Place → Value → Value → Prop
  | same (place : Place) (v : Value) : KeywordsAdded place v v
  | schemas {vs ws : List Value} : vs.length = ws.length →
      (∀ p ∈ vs.zip ws, KeywordsAdded .schema p.1 p.2) →
      KeywordsAdded .schema (.array vs) (.array ws)
  /-- The members that are added may stand anywhere. -/
  | schema {ms ns kept : Members} (added : List String) :
      (∀ key ∈ added, key ∈ Constraints.keywords ∧ ms.lookup key = none) →
      kept = ns.filter (fun m => !added.contains m.1) →
      ms.map Prod.fst = kept.map Prod.fst →
      (∀ p ∈ ms.zip kept, KeywordsAdded (.under p.1.1) p.1.2 p.2.2) →
      KeywordsAdded .schema (.object ms) (.object ns)
  | named {ms ns : Members} : ms.map Prod.fst = ns.map Prod.fst →
      (∀ p ∈ ms.zip ns, KeywordsAdded .schema p.1.2 p.2.2) →
      KeywordsAdded .named (.object ms) (.object ns)

namespace KeywordsAdded

variable {place : Place} {v w : Value} {ms ns : Members}

theorem eq_of_other (h : KeywordsAdded .other v w) : v = w := by
  cases h with
  | same => rfl

/-- A list stays a list. -/
theorem asArray?_rel (h : KeywordsAdded place v w) :
    Option.Rel (fun _ _ => True) v.asArray? w.asArray? := by
  cases h with
  | same =>
    cases v.asArray? with
    | none => exact .none
    | some vs => exact .some trivial
  | schemas => exact .some trivial
  | schema | named => exact .none

theorem of_array {vs : List Value} (h : KeywordsAdded .schema (.array vs) w) :
    ∃ ws, w = .array ws ∧ List.Forall₂ (KeywordsAdded .schema) vs ws := by
  cases h with
  | same => exact ⟨vs, rfl, List.forall₂_same.2 fun v _ => .same _ v⟩
  | @schemas _ ws hlength h => exact ⟨ws, rfl, forall₂_of_zip hlength h⟩

/-- Beyond constraints, what stands under a keyword is as before, with keywords added in it. -/
structure Lookups (ms ns : Members) : Prop where
  others : ∀ key ∉ Constraints.keywords,
    Option.Rel (KeywordsAdded (.under key)) (ms.lookup key) (ns.lookup key)
  keywords : ∀ key ∈ Constraints.keywords, ms.lookup key = none ∨ ms.lookup key = ns.lookup key

theorem of_object (h : KeywordsAdded .schema (.object ms) w) : ∃ ns, w = .object ns ∧ Lookups ms ns := by
  cases h with
  | same =>
    refine ⟨ms, rfl, fun key _ => ?_, fun _ _ => .inr rfl⟩
    cases ms.lookup key with
    | none => exact .none
    | some v => exact .some (.same _ v)
  | @schema _ ns kept added hadded hkept hkeys h =>
    have hrel : ∀ key, Option.Rel (KeywordsAdded (.under key)) (ms.lookup key) (kept.lookup key) :=
      rel_lookup (forall₂_of_keys (P := fun key => KeywordsAdded (.under key)) hkeys h)
    -- the added keys were not there before, so for any other key nothing is left out of the second
    have hlookup : ∀ key ∉ added, kept.lookup key = ns.lookup key := fun key hkey => by
      rw [hkept, Value.lookup_filter_keys fun key => !added.contains key]
      simp [hkey]
    refine ⟨ns, rfl, fun key hkey => ?_, fun key hkey => ?_⟩
    · rw [← hlookup key fun hmem => hkey (hadded key hmem).1]
      exact hrel key
    · by_cases hmem : key ∈ added
      · exact .inl (hadded key hmem).2
      · -- nothing is read under the keywords of constraints, so what stands there is kept as it is
        have hsame := hrel key
        rw [hlookup key hmem, Place.under_of_keyword hkey] at hsame
        exact .inr (eq_of_rel hsame fun _ _ h => h.eq_of_other)

theorem of_named (h : KeywordsAdded .named (.object ms) w) : ∃ ns, w = .object ns ∧
    List.Forall₂ (fun m n => m.1 = n.1 ∧ KeywordsAdded .schema m.2 n.2) ms ns := by
  cases h with
  | same => exact ⟨ms, rfl, List.forall₂_same.2 fun m _ => ⟨rfl, .same _ m.2⟩⟩
  | @named _ ns hkeys h =>
    exact ⟨ns, rfl, forall₂_of_keys (P := fun _ => KeywordsAdded .schema) hkeys h⟩

end KeywordsAdded

/-! ## Keywords -/

namespace KeywordsAdded.Lookups

variable {ms ns : Members} (h : Lookups ms ns)

include h

theorem tightened_ofMembers : (Constraints.ofMembers ms).Tightened (Constraints.ofMembers ns) := by
  have hkeep : ∀ {β : Type} (read : Option Value → Option β), read none = none →
      ∀ key ∈ Constraints.keywords, ∀ x ∈ read (ms.lookup key), x ∈ read (ns.lookup key) := by
    intro β read hread key hkey x hx
    rcases h.keywords key hkey with hnone | heq
    · rw [hnone, hread] at hx
      cases hx
    · exact heq ▸ hx
  have hbound : ∀ key ∈ Constraints.keywords, ∀ x ∈ Constraints.bound? ms key,
      x ∈ Constraints.bound? ns key :=
    hkeep (fun v => (v.bind Value.asNumber?).map Number.toDouble) rfl
  have hcount : ∀ key ∈ Constraints.keywords, ∀ x ∈ Constraints.count? ms key,
      x ∈ Constraints.count? ns key := hkeep (fun v => v.bind Value.asNatural?) rfl
  have htext : ∀ key ∈ Constraints.keywords, ∀ x ∈ Constraints.text? ms key,
      x ∈ Constraints.text? ns key := hkeep (fun v => v.bind Value.asString?) rfl
  exact {
    minimum := hbound "minimum" (by decide)
    maximum := hbound "maximum" (by decide)
    exclusiveMinimum := hbound "exclusiveMinimum" (by decide)
    exclusiveMaximum := hbound "exclusiveMaximum" (by decide)
    format := htext "format" (by decide)
    minLength := hcount "minLength" (by decide)
    maxLength := hcount "maxLength" (by decide)
    pattern := hkeep (fun v => (v.bind Value.asString?).bind TextPattern.compile?) rfl "pattern"
      (by decide)
    minItems := hcount "minItems" (by decide)
    maxItems := hcount "maxItems" (by decide) }

/-- Nothing is added where no schema is read. -/
theorem eq_of_other : ∀ key ∈ ["$ref", "const", "enum", "type", "required"],
    ms.lookup key = ns.lookup key := by
  have hplain : ∀ key ∈ ["$ref", "const", "enum", "type", "required"],
      key ∉ Constraints.keywords ∧ Place.under key = .other := by decide
  intro key hkey
  have hrel := h.others key (hplain key hkey).1
  rw [(hplain key hkey).2] at hrel
  exact eq_of_rel hrel fun _ _ h => h.eq_of_other

theorem hasKey_eq {key : String} (hkey : key ∉ Constraints.keywords) :
    Node.hasKey ms key = Node.hasKey ns key :=
  isSome_eq_of_rel (h.others key hkey)

theorem isArrayAt_eq {key : String} (hkey : key ∉ Constraints.keywords) :
    Node.isArrayAt ms key = Node.isArrayAt ns key := by
  exact isSome_eq_of_rel (rel_bind (h.others key hkey) fun _ _ h => h.asArray?_rel)

end KeywordsAdded.Lookups

namespace Node

/-! ## Parts -/

/-- The roles of values in one place, those of the second with keywords added: what is read there differs
in constraints. -/
structure Roles.Tightened (place : Place) (r s : Roles) : Prop where
  node : place = .schema → r.node.Tightened s.node
  elements : place = .schema → List.Forall₂ Node.Tightened r.elements s.elements
  named : place = .named → List.Forall₂ (fun p q => p.1 = q.1 ∧ p.2.Tightened q.2) r.named s.named

theorem keptByKinds_tightened (c d : Constraints) : KeptByKinds Tightened (OfTightenedTag c d) where
  reference := .reference
  unknown := .unknown
  intersection := .intersection
  union := .union
  ofTag h := h.tightened
  typeList hnodup h := .typeList hnodup h

section Kinds

variable {ms ns : Members} (h : KeywordsAdded.Lookups ms ns) {ps qs : Parts}
  (hparts : ∀ key ∉ Constraints.keywords,
    Option.Rel (Roles.Tightened (.under key)) (ps.lookup key) (qs.lookup key))

include hparts

theorem part_tightened : ∀ key ∈ ["allOf", "oneOf", "anyOf", "items", "additionalProperties"],
    Option.Rel (Roles.Tightened .schema) (ps.lookup key) (qs.lookup key) := by
  have hschema : ∀ key ∈ ["allOf", "oneOf", "anyOf", "items", "additionalProperties"],
      key ∉ Constraints.keywords ∧ Place.under key = .schema := by decide
  intro key hkey
  have hrel := hparts key (hschema key hkey).1
  rwa [(hschema key hkey).2] at hrel

theorem elementsAt_tightened {key : String} (hkey : key ∈ ["allOf", "oneOf", "anyOf", "items"]) :
    List.Forall₂ Tightened (elementsAt ps key) (elementsAt qs key) := by
  have hpart := part_tightened hparts key (List.mem_append_left ["additionalProperties"] hkey)
  exact getD_of_rel (rel_map hpart fun _ _ h => h.elements rfl) .nil

include h

theorem additional_tightened : Additional.Rel Tightened (additional ms ps) (additional ns qs) := by
  unfold additional
  have hunder : Place.under "additionalProperties" = .schema := by decide
  have hrel := hunder ▸ h.others "additionalProperties" (by decide)
  rcases rel_cases hrel with ⟨hv, hw⟩ | ⟨v, w, hv, hw, hvw⟩
  · rw [hv, hw]
    exact .untyped
  rw [hv, hw]
  cases v with
  | object members =>
    obtain ⟨others, rfl, -⟩ := hvw.of_object
    have hpart := part_tightened hparts "additionalProperties" (by simp)
    rcases rel_cases hpart with ⟨hr, hs⟩ | ⟨r, s, hr, hs, hrs⟩
    · rw [hr, hs]
      exact .untyped
    · rw [hr, hs]
      exact .typed (hrs.node rfl)
  | array items =>
    obtain ⟨others, rfl, -⟩ := hvw.of_array
    exact .untyped
  | bool b =>
    cases hvw
    cases b
    · exact .forbidden
    · exact .untyped
  | null | number | string =>
    cases hvw
    exact .untyped

variable {c d : Constraints}

theorem objectOf_tightened : OfTightenedTag c d "object" (objectOf ms ps) (objectOf ns qs) := by
  refine .object ?_ ⟨_, _, _, rfl⟩ ⟨_, _, _, rfl⟩
  unfold objectOf requiredNames?
  rw [h.eq_of_other "required" (by simp)]
  have hunder : Place.under "properties" = .named := by decide
  have hpart := hunder ▸ hparts "properties" (by decide)
  refine .object ?_ _ (additional_tightened h hparts)
  exact getD_of_rel (rel_map hpart fun _ _ h => h.named rfl) .nil

theorem arrayOf_tightened : OfTightenedTag c d "array" (arrayOf ms ps) (arrayOf ns qs) := by
  unfold arrayOf
  rw [h.isArrayAt_eq (by decide : "items" ∉ Constraints.keywords)]
  split
  · have hitems := elementsAt_tightened hparts (by simp : "items" ∈ ["allOf", "oneOf", "anyOf", "items"])
    exact .array (.tuple hitems) (.inl ⟨_, rfl⟩) (.inl ⟨_, rfl⟩)
  · have hitems := rel_map (part_tightened hparts "items" (by simp)) fun _ _ h => h.node rfl
    exact .array (.list hitems h.tightened_ofMembers) (.inr ⟨_, _, rfl⟩) (.inr ⟨_, _, rfl⟩)

theorem readAlike_of_added : ReadAlike Tightened
    (OfTightenedTag (Constraints.ofMembers ms) (Constraints.ofMembers ns)) ms ns ps qs where
  pointer_eq := by rw [h.eq_of_other "$ref" (by simp)]
  constant := by
    unfold constant?
    rw [h.eq_of_other "const" (by simp)]
    cases ns.lookup "const" with
    | none => exact .none
    | some v => exact .some (.constant v)
  enumeration := by
    unfold enumeration?
    rw [h.eq_of_other "enum" (by simp)]
    cases (ns.lookup "enum").bind Value.asArray? with
    | none => exact .none
    | some vs => exact .some (.enumeration vs)
  isArrayAt_eq key hkey := h.isArrayAt_eq <| by
    revert key
    decide
  elementsAt key hkey := elementsAt_tightened hparts (List.mem_append_left ["items"] hkey)
  hasKey_eq key hkey := h.hasKey_eq <| by
    revert key
    decide
  tag_eq := by rw [h.eq_of_other "type" (by simp)]
  tags_eq := by rw [h.eq_of_other "type" (by simp)]
  object := objectOf_tightened h hparts
  array := arrayOf_tightened h hparts
  flat _ hobject harray := .flat hobject harray h.tightened_ofMembers

end Kinds

/-! ## Reading -/

/-- What has keywords added in it is read as what differs in constraints, in its place. -/
theorem tightened_roles {place : Place} {v w : Value} (h : KeywordsAdded place v w) :
    (roles v).Tightened place (roles w) := by
  -- what a part is read as depends on the keyword that it stands under, so all places go together
  induction v using Value.partInduction generalizing place w with
  | step v ih =>
    cases v with
    | array items =>
      cases place with
      | schema =>
        obtain ⟨others, rfl, hothers⟩ := h.of_array
        refine ⟨fun _ => .unknown, fun _ => ?_, nofun⟩
        show List.Forall₂ Node.Tightened (nodes items) (nodes others)
        rw [nodes_eq_map, nodes_eq_map, List.forall₂_map_left_iff, List.forall₂_map_right_iff]
        have hboth := (List.forall₂_and_left items others).2 ⟨fun v hv => hv, hothers⟩
        exact hboth.imp fun v w h => (ih v h.1 h.2).node rfl
      | named | other =>
        cases h
        exact ⟨nofun, nofun, fun _ => .nil⟩
    | object members =>
      cases place with
      | schema =>
        obtain ⟨others, rfl, hothers⟩ := h.of_object
        have hparts : ∀ key ∉ Constraints.keywords, Option.Rel (Roles.Tightened (.under key))
            ((rolesOfMembers members).lookup key) ((rolesOfMembers others).lookup key) :=
          fun key hkey => by
            rw [lookup_rolesOfMembers, lookup_rolesOfMembers]
            rcases rel_cases (hothers.others key hkey) with ⟨hv, hw⟩ | ⟨v, w, hv, hw, hvw⟩
            · rw [hv, hw]
              exact .none
            · rw [hv, hw]
              exact .some (ih v (List.mem_map_of_mem (mem_of_lookup_eq_some hv)) hvw)
        refine ⟨fun _ => ?_, fun _ => .nil, nofun⟩
        exact (readAlike_of_added hothers hparts).classify_rel (keptByKinds_tightened _ _)
      | named =>
        obtain ⟨others, rfl, hothers⟩ := h.of_named
        refine ⟨nofun, nofun, fun _ => ?_⟩
        show List.Forall₂ _ ((rolesOfMembers members).map fun part => (part.1, part.2.node))
          ((rolesOfMembers others).map fun part => (part.1, part.2.node))
        simp only [rolesOfMembers_eq_map, List.map_map, List.forall₂_map_left_iff,
          List.forall₂_map_right_iff]
        have hboth := (List.forall₂_and_left members others).2 ⟨fun m hm => hm, hothers⟩
        exact hboth.imp fun m n h => ⟨h.2.1, (ih m.2 (List.mem_map_of_mem h.1) h.2.2).node rfl⟩
      | other => exact ⟨nofun, nofun, nofun⟩
    | null | bool | number | string =>
      cases h
      exact ⟨fun _ => .unknown, fun _ => .nil, fun _ => .nil⟩

theorem tightened_ofValue {v w : Value} (h : KeywordsAdded .schema v w) :
    (ofValue v).Tightened (ofValue w) :=
  (tightened_roles h).node rfl

end Node

/-! ## Tables -/

namespace Definitions

/-- Nodes that differ in constraints under the same names. -/
def Tightened (d e : Definitions) : Prop := ∀ name, Option.Rel Node.Tightened (d.get? name) (e.get? name)

theorem tightened_ofRaw {ms ns : Members} (h : KeywordsAdded .named (.object ms) (.object ns)) :
    (ofRaw ms).Tightened (ofRaw ns) := by
  obtain ⟨_, ⟨⟩, hentries⟩ := h.of_named
  intro name
  rw [get?_ofRaw, get?_ofRaw]
  exact rel_map (rel_lookup (P := fun _ => KeywordsAdded .schema) hentries name)
    fun _ _ => Node.tightened_ofValue

namespace Tightened

variable {d e : Definitions} (h : d.Tightened e)

include h

theorem leads {pointer : String} (hl : e.Leads pointer) : d.Leads pointer := by
  obtain ⟨name, target, hname, htarget⟩ := hl
  rcases rel_cases (h name) with ⟨-, hnone⟩ | ⟨n, m, hn, -, -⟩
  · cases htarget.symm.trans hnone
  · exact ⟨name, n, hname, hn⟩

/-- The induction is on the names that are not open: each definition is entered with one name fewer. -/
theorem parallel_expandPointer (stack : List String) (pointer : String) :
    Parallel Shape.Tightened (d.expandPointer stack pointer) (e.expandPointer stack pointer) := by
  by_cases hl : d.Leads pointer
  · obtain ⟨name, target, hname, htarget⟩ := hl
    rcases rel_cases (h name) with ⟨hnone, -⟩ | ⟨n, m, hn, hm, hnm⟩
    · cases htarget.symm.trans hnone
    obtain rfl := Option.some.inj (htarget.symm.trans hn)
    rw [expandPointer_of_leads hname htarget, expandPointer_of_leads hname hm]
    by_cases hs : name ∈ stack
    · rw [if_pos hs, if_pos hs]
      exact .error _
    · rw [if_neg hs, if_neg hs]
      have hdecreases := unopened_append_lt htarget hs
      exact hnm.parallel fun inner => parallel_expandPointer (stack ++ [name]) inner
  · rw [expandPointer_of_not_leads hl, expandPointer_of_not_leads fun hl' => hl (h.leads hl')]
    exact .error _
termination_by d.unopened stack

theorem parallel_resolve {n m : Node} (hnm : n.Tightened m) :
    Parallel Shape.Tightened (resolve d n) (resolve e m) := by
  rw [Resolver.resolve_eq_expand, Resolver.resolve_eq_expand]
  exact hnm.parallel (h.parallel_expandPointer [])

end Tightened

end Definitions

/-- Constraint keywords only narrow. Wherever they are added to schemas that lack them, in the schema or in
the definitions, and under whatever values, the schema fails to resolve as before or resolves as before,
to a shape that differs in its constraints only and accepts nothing that was not accepted before. -/
theorem resolve_of_added {ms ns : Members} {v w : Value}
    (hdefinitions : KeywordsAdded .named (.object ms) (.object ns)) (h : KeywordsAdded .schema v w) :
    let before := resolve (.ofRaw ms) (.ofValue v)
    let after := resolve (.ofRaw ns) (.ofValue w)
    (∀ e, before = .error e ↔ after = .error e) ∧ ((∃ s, before = .ok s) ↔ ∃ t, after = .ok t) ∧
      ∀ s t, before = .ok s → after = .ok t →
        s.Tightened t ∧ ∀ x, t.accepts x = true → s.accepts x = true := by
  intro before after
  have hparallel : Parallel Shape.Tightened before after :=
    (Definitions.tightened_ofRaw hdefinitions).parallel_resolve (Node.tightened_ofValue h)
  refine ⟨hparallel.error_iff, hparallel.exists_ok_iff, fun s t hs ht => ?_⟩
  have hst := hparallel.rel_of_ok hs ht
  exact ⟨hst, hst.refines⟩

/-- A format is added to the definition of an amount, whose two types come to one shape with it as they do
without it, and a maximum that is no number to the object, where it means nothing. -/
theorem resolve_of_added_amount :
    let types : String × Value := ("type", .array [.string "integer", .string "number"])
    let format : String × Value := ("format", .string "uint8")
    let properties : String × Value :=
      ("properties", .object [("amount", .object [("$ref", .string "#/definitions/Amount")])])
    let ms : Members := [("Amount", .object [types])]
    let ns : Members := [("Amount", .object [format, types])]
    let v : Value := .object [properties]
    let w : Value := .object [properties, ("maximum", .null)]
    let byte : Constraints := { Constraints.empty with format := some "uint8" }
    let s : Shape := .object [⟨"amount", true, .number .empty⟩] .untyped
    let t : Shape := .object [⟨"amount", true, .number byte⟩] .untyped
    KeywordsAdded .named (.object ms) (.object ns) ∧ KeywordsAdded .schema v w ∧
      resolve (.ofRaw ms) (.ofValue v) = .ok s ∧ resolve (.ofRaw ns) (.ofValue w) = .ok t ∧
      s.Tightened t ∧ ∀ x, t.accepts x = true → s.accepts x = true := by
  intro types format properties ms ns v w byte s t
  have hamount : KeywordsAdded .schema (.object [types]) (.object [format, types]) := by
    refine .schema ["format"] ?_ rfl rfl ?_
    · simp [Constraints.keywords, types]
    · exact List.forall_mem_singleton.2 (.same _ _)
  have hdefinitions : KeywordsAdded .named (.object ms) (.object ns) :=
    .named rfl (List.forall_mem_singleton.2 hamount)
  have hschema : KeywordsAdded .schema v w := by
    refine .schema ["maximum"] ?_ rfl rfl ?_
    · simp [Constraints.keywords, properties]
    · exact List.forall_mem_singleton.2 (.same _ _)
  have hraw : ∀ schema : Value, Definitions.ofRaw [("Amount", schema)] =
      ⟨[("Amount", Node.ofValue schema)]⟩ := fun schema => by
    simp [Definitions.ofRaw, Value.orderMembers]
  let alternatives (c : Constraints) : Node :=
    .typeList [.primitive .integer c, .primitive .number c]
  let object : Node := .object [("amount", .reference "#/definitions/Amount")] none .untyped
  have hbefore : resolve (.ofRaw ms) (.ofValue v) = .ok s := by
    have hdefinition : Node.ofValue (.object [types]) = alternatives .empty := rfl
    have hnode : Node.ofValue v = object := rfl
    rw [hraw, hdefinition, hnode]
    simp only [s, alternatives, object]
    cbv
  have hafter : resolve (.ofRaw ns) (.ofValue w) = .ok t := by
    have hdefinition : Node.ofValue (.object [format, types]) = alternatives byte := rfl
    have hnode : Node.ofValue w = object := rfl
    rw [hraw, hdefinition, hnode]
    simp only [t, alternatives, object, byte]
    cbv
  obtain ⟨-, -, hshapes⟩ := resolve_of_added hdefinitions hschema
  exact ⟨hdefinitions, hschema, hbefore, hafter, hshapes s t hbefore hafter⟩

end ContractInterface
