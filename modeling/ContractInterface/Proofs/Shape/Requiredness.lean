/-
Which properties of an object are required: as told from the raw schema, and in the shape that it resolves to.
Both are dealt out of the declared names, in their order, by whether the schema lists them; without a list
all of them are required (`names_of_resolve`). What a list holds beside names, and names in it that are
repeated or not declared, make no difference to either.
-/
import ContractInterface.Proofs.Schema.Unrepeated
import ContractInterface.Proofs.Shape.Policy
import ContractInterface.Schema.Outline

namespace ContractInterface

open Json

/-! ## Interleaving -/

/-- The third list is dealt out to the first two, each of which keeps its order. -/
inductive Interleave {α : Type} : List α → List α → List α → Prop
  | nil : Interleave [] [] []
  | left {x : α} {xs ys zs : List α} : Interleave xs ys zs → Interleave (x :: xs) ys (x :: zs)
  | right {y : α} {xs ys zs : List α} : Interleave xs ys zs → Interleave xs (y :: ys) (y :: zs)

theorem interleave_filter {α : Type} (p : α → Bool) (xs : List α) :
    Interleave (xs.filter p) (xs.filter fun x => !p x) xs := by
  induction xs with
  | nil => exact .nil
  | cons x xs ih =>
    cases hx : p x with
    | true => simpa [hx] using ih.left
    | false => simpa [hx] using ih.right

theorem Interleave.perm {α : Type} {xs ys zs : List α} (h : Interleave xs ys zs) :
    (xs ++ ys).Perm zs := by
  induction h with
  | nil => exact .nil
  | left _ ih => exact ih.cons _
  | right _ ih => exact List.perm_middle.trans (ih.cons _)

/-! ## Names in the raw schema -/

/-- The names under which a raw schema declares properties, in their order. -/
def declaredNames (schema : Value) : List String :=
  (((schema.get? "properties").bind Value.asObject?).getD []).map Prod.fst

/-- Whether the raw schema lists the name as required; without a list, all names are. -/
def listsAsRequired (schema : Value) (name : String) : Bool :=
  match (schema.get? "required").bind Value.asArray? with
  | some _ => (requiredProperties schema).contains name
  | none => true

theorem nodup_declaredNames {schema : Value} (h : schema.Unrepeated) : (declaredNames schema).Nodup := by
  unfold declaredNames
  cases hp : (schema.get? "properties").bind Value.asObject? with
  | none => exact List.nodup_nil
  | some properties =>
    obtain ⟨v, hv, hobject⟩ := Option.bind_eq_some_iff.1 hp
    cases schema with
    | object members =>
      cases v with
      | object others =>
        obtain rfl := Option.some.inj hobject
        have hmem : .object others ∈ (Value.object members).parts :=
          List.mem_map.2 ⟨_, mem_of_lookup_eq_some hv, rfl⟩
        exact (Value.unrepeated_object_iff.1 (h.of_mem_parts hmem)).1
      | null | bool | number | string | array => cases hobject
    | null | bool | number | string | array => cases hv

/-- The optional properties are the declared ones that are not listed. -/
theorem optionalProperties_eq (schema : Value) :
    optionalProperties schema = (declaredNames schema).filter fun name => !listsAsRequired schema name := by
  cases schema with
  | object members =>
    unfold optionalProperties declaredNames listsAsRequired requiredProperties Node.requiredNames?
    dsimp only [Value.get?]
    cases (members.lookup "required").bind Value.asArray? with
    | none => simp
    | some items => cases (members.lookup "properties").bind Value.asObject? <;> rfl
  | null | bool | number | string | array => rfl

/-! ## Names in the node and in the shape -/

namespace Node

/-- The node declares the names that the schema declares. -/
theorem map_fst_declared (members : Members) :
    ((((rolesOfMembers members).lookup "properties").map Roles.named).getD []).map Prod.fst =
      declaredNames (.object members) := by
  unfold declaredNames
  dsimp only [Value.get?]
  rw [lookup_rolesOfMembers]
  cases members.lookup "properties" with
  | none => rfl
  | some v =>
    cases v with
    | object properties =>
      show ((rolesOfMembers properties).map fun part => (part.1, part.2.node)).map Prod.fst =
        properties.map Prod.fst
      rw [rolesOfMembers_eq_map, List.map_map, List.map_map]
      rfl
    | null | bool | number | string | array => rfl

theorem all_requiredNames? (members : Members) (name : String) :
    (requiredNames? members).all (·.contains name) = listsAsRequired (.object members) name := by
  unfold listsAsRequired requiredProperties requiredNames?
  dsimp only [Value.get?]
  cases (members.lookup "required").bind Value.asArray? <;> rfl

/-- An object resolves to the shape of one, with the declared names in their order and each required if it is
listed. -/
theorem exists_properties_of_resolve {ps : List (String × Node)} {r : Option (List String)}
    {a : Additional Node} {d : Definitions} {s : Shape} (h : resolve d (.object ps r a) = .ok s) :
    ∃ qs b, s = .object qs b ∧ qs.map (·.name) = ps.map Prod.fst ∧
      ∀ q ∈ qs, q.required = r.all (·.contains q.name) := by
  rw [Resolver.resolve_eq_expand] at h
  obtain ⟨qs, hqs, h⟩ := bind_eq_ok.1 h
  obtain ⟨b, -, h⟩ := bind_eq_ok.1 h
  cases h
  have hresolves := resolveProperties_eq_ok.1 hqs
  refine ⟨qs, b, rfl, map_name_of_resolves hresolves, fun q hq => ?_⟩
  obtain ⟨p, -, hp⟩ := exists_mem_of_forall₂ hresolves.flip q hq
  rw [hp.name]
  exact hp.required

end Node

namespace Shape

variable {qs : List (Property Shape)} {required : String → Bool}
  (h : ∀ q ∈ qs, q.required = required q.name)

include h

theorem requiredNames_eq : requiredNames qs = (qs.map (·.name)).filter required := by
  unfold requiredNames
  rw [List.filter_map]
  exact congrArg _ (List.filter_congr h)

theorem optionalNames_eq : optionalNames qs = (qs.map (·.name)).filter fun name => !required name := by
  unfold optionalNames
  rw [List.filter_map]
  refine congrArg _ (List.filter_congr fun q hq => ?_)
  rw [h q hq]
  rfl

omit h in
theorem isSome_property?_iff (b : Additional Shape) (name : String) :
    ((object qs b).property? name).isSome ↔ name ∈ qs.map (·.name) := by
  unfold property? properties?
  rw [Option.bind_some, List.find?_isSome, List.mem_map]
  simp only [beq_iff_eq]

end Shape

/-- The raw schema of an object and the shape that it resolves to agree on which properties are required. The
optional names of the shape are those of the schema; its required names are the declared ones that the
schema lists, or all of them if it has no list. Together they are the declared names, dealt out in their
order with none repeated; and just these are found in the shape. -/
theorem names_of_resolve {schema : Value} (hschema : schema.Unrepeated)
    (hobject : ∃ ps r a, Node.ofValue schema = .object ps r a) {d : Definitions} {s : Shape}
    (hs : resolve d (.ofValue schema) = .ok s) :
    ∃ qs b, s = .object qs b ∧
      optionalProperties schema = Shape.optionalNames qs ∧
      (((schema.get? "required").bind Value.asArray?).isSome = true → Shape.requiredNames qs =
        (declaredNames schema).filter fun name => (requiredProperties schema).contains name) ∧
      ((schema.get? "required").bind Value.asArray? = none →
        Shape.requiredNames qs = declaredNames schema) ∧
      Interleave (Shape.requiredNames qs) (Shape.optionalNames qs) (declaredNames schema) ∧
      (Shape.requiredNames qs ++ Shape.optionalNames qs).Nodup ∧
      ∀ name, (s.property? name).isSome ↔ name ∈ declaredNames schema := by
  obtain ⟨ps, r, a, hnode⟩ := hobject
  obtain ⟨members, rfl, hread⟩ := Node.exists_objectOf_of_ofValue hnode
  obtain ⟨qs, b, rfl, hnames, hrequired⟩ := Node.exists_properties_of_resolve (hnode ▸ hs)
  cases hread
  rw [Node.map_fst_declared] at hnames
  simp only [Node.all_requiredNames?] at hrequired
  have hreq := Shape.requiredNames_eq hrequired
  have hopt := Shape.optionalNames_eq hrequired
  rw [hnames] at hreq hopt
  have hdealt := interleave_filter (listsAsRequired (.object members)) (declaredNames (.object members))
  rw [← hreq, ← hopt] at hdealt
  refine ⟨qs, b, rfl, ?_, ?_, ?_, hdealt, ?_, ?_⟩
  · rw [hopt, optionalProperties_eq]
  · intro hlist
    obtain ⟨items, hitems⟩ := Option.isSome_iff_exists.1 hlist
    rw [hreq]
    unfold listsAsRequired
    rw [hitems]
  · intro hlist
    rw [hreq]
    unfold listsAsRequired
    rw [hlist]
    exact List.filter_true _
  · exact hdealt.perm.nodup_iff.2 (nodup_declaredNames hschema)
  · intro name
    rw [Shape.isSome_property?_iff, hnames]

/-- The list repeats a name and holds an undeclared one and `null`. Of the two declared properties, the second
is required. -/
theorem names_of_resolve_memo :
    let text : Value := .object [("type", .string "string")]
    let memo : Value := .object [("$ref", .string "#/$defs/Memo")]
    let required : Value := .array [.string "id", .null, .string "ghost", .string "id"]
    let schema : Value := .object [("properties", .object [("memo", memo), ("id", text)]), ("required", required)]
    let d : Definitions := ⟨[("Memo", .ofValue text)]⟩
    let s : Shape := .object [⟨"memo", false, .string .empty⟩, ⟨"id", true, .string .empty⟩] .untyped
    schema.Unrepeated ∧ (∃ ps r a, Node.ofValue schema = .object ps r a) ∧ resolve d (.ofValue schema) = .ok s ∧
      optionalProperties schema = ["memo"] ∧ (s.property? "id").isSome ∧ ¬(s.property? "ghost").isSome := by
  intro text memo required schema d s
  have hschema : schema.Unrepeated := by simp [schema, required, memo, text]
  have hnode : Node.ofValue schema =
      .object [("memo", .reference "#/$defs/Memo"), ("id", .primitive .string .empty)]
        (some ["id", "ghost", "id"]) .untyped := rfl
  have htable : d = ⟨[("Memo", .primitive .string .empty)]⟩ := rfl
  have hobject : ∃ ps r a, Node.ofValue schema = .object ps r a := ⟨_, _, _, hnode⟩
  have hs : resolve d (.ofValue schema) = .ok s := by
    rw [hnode, htable]
    cbv
  obtain ⟨qs, b, hqs, hoptional, -, -, -, -, hfound⟩ := names_of_resolve hschema hobject hs
  obtain ⟨rfl, -⟩ := Shape.object.inj hqs
  exact ⟨hschema, hobject, hs, hoptional, (hfound "id").2 (by decide),
    fun h => absurd ((hfound "ghost").1 h) (by decide)⟩

end ContractInterface
