/-
What becomes of the patterns in a schema. Reading meets their texts in an order (`Node.patternTexts`);
those that can be compiled are the patterns of the node, in this order (`Node.patterns_ofValue`), and the
others are noted, in this order, too. So none is lost and none is told of twice
(`Node.partition_patternTexts`).
-/
import ContractInterface.Proofs.Json.Order
import ContractInterface.Proofs.Schema.Reach
import ContractInterface.Proofs.Schema.Reading
import ContractInterface.Schema.Skipped

namespace ContractInterface.Node

open Json

/-! ## Patterns of a node -/

/-- The pattern among the constraints of the node itself. -/
def pattern? : Node → Option TextPattern
  | .list _ c | .primitive _ c => c.pattern
  | _ => none

/-- The patterns in a node, those of its children before its own. -/
def patterns (n : Node) : List TextPattern :=
  (n.children.attach.flatMap fun m => patterns m.1) ++ n.pattern?.toList
termination_by sizeOf n
decreasing_by exact sizeOf_lt_of_mem_children m.2

theorem patterns_eq (n : Node) : n.patterns = n.children.flatMap patterns ++ n.pattern?.toList := by
  rw [patterns]
  congr 1
  simp

/-- The patterns of texts, of those that can be compiled. -/
def compiled (texts : List String) : List TextPattern := texts.filterMap TextPattern.compile?

theorem compiled_append (texts texts' : List String) :
    compiled (texts ++ texts') = compiled texts ++ compiled texts' := List.filterMap_append

theorem compiled_flatMap {α : Type} (f : α → List String) (xs : List α) :
    compiled (xs.flatMap f) = xs.flatMap fun x => compiled (f x) := List.filterMap_flatMap

theorem source_of_compile? {text : String} {p : TextPattern} (h : TextPattern.compile? text = some p) :
    p.source = text := by
  unfold TextPattern.compile? at h
  split at h
  · rw [← Option.some.inj h]
  · cases h

theorem map_source_compiled (texts : List String) : (compiled texts).map TextPattern.source =
    texts.filter fun text => (TextPattern.compile? text).isSome := by
  induction texts with
  | nil => rfl
  | cons text texts ih =>
    unfold compiled at ih ⊢
    cases h : TextPattern.compile? text with
    | none => simp [h, ih]
    | some p => simp [h, ih, source_of_compile? h]

/-- The patterns of the node are those of the texts, in their order. -/
def Holds (n : Node) (texts : List String) : Prop := n.patterns = compiled texts

theorem holds_nil {n : Node} (hchildren : n.children = []) (hpattern : n.pattern? = none) :
    n.Holds [] := by
  rw [Holds, patterns_eq, hchildren, hpattern]
  rfl

theorem patterns_of_pattern?_eq_none {n : Node} (h : n.pattern? = none) :
    n.patterns = n.children.flatMap patterns := by
  rw [patterns_eq, h]
  exact List.append_nil _

/-! ## Roles -/

/-- In each role of a value, what is read of it holds the patterns of the texts that are met. -/
structure Accounts (r : Roles) (t : Texts) : Prop where
  node : r.node.Holds t.node
  elements : r.elements.flatMap patterns = compiled t.elements
  named : (r.named.flatMap fun p => p.2.patterns) = compiled t.named

section Parts

variable {parts : Parts} {texts : List (String × Texts)}
  (h : ∀ key, Option.Rel Accounts (parts.lookup key) (texts.lookup key)) (members : Members)

theorem toList_pattern_ofMembers :
    (Constraints.ofMembers members).pattern.toList = compiled (ownTexts members) := by
  unfold Constraints.ofMembers ownTexts compiled
  cases Constraints.text? members "pattern" with
  | none => rfl
  | some text => cases h : TextPattern.compile? text <;> simp [h]

include h

theorem flatMap_elementsAt (key : String) :
    (elementsAt parts key).flatMap patterns = compiled (textsAt texts Texts.elements key) :=
  have helements : Option.Rel (fun ns ts => ns.flatMap patterns = compiled ts)
      ((parts.lookup key).map Roles.elements) ((texts.lookup key).map Texts.elements) :=
    rel_map (h key) fun _ _ hrt => hrt.elements
  getD_of_rel helements rfl

theorem flatMap_namedAt (key : String) :
    ((((parts.lookup key).map Roles.named).getD []).flatMap fun p => p.2.patterns) =
      compiled (textsAt texts Texts.named key) :=
  have hnamed : Option.Rel (fun ps ts => (ps.flatMap fun p => p.2.patterns) = compiled ts)
      ((parts.lookup key).map Roles.named) ((texts.lookup key).map Texts.named) :=
    rel_map (h key) fun _ _ hrt => hrt.named
  getD_of_rel hnamed rfl

theorem flatMap_additional : (additional members parts).toList.flatMap patterns =
    compiled (additionalTexts members texts) := by
  unfold additional additionalTexts textsAt
  cases members.lookup "additionalProperties" with
  | none => rfl
  | some v =>
    cases v with
    | object =>
      rcases rel_cases (h "additionalProperties") with ⟨hp, ht⟩ | ⟨r, t, hp, ht, hrt⟩
      · rw [hp, ht]
        rfl
      · rw [hp, ht]
        exact (List.append_nil _).trans hrt.node
    | bool b => cases b <;> rfl
    | null | number | string | array => rfl

theorem holds_objectOf : (objectOf members parts).Holds (objectTexts members texts) := by
  rw [Holds, patterns_of_pattern?_eq_none rfl, objectTexts, compiled_append,
    ← flatMap_namedAt h "properties", ← flatMap_additional h members]
  unfold objectOf
  rw [children, List.flatMap_append, List.flatMap_map]

theorem holds_arrayOf : (arrayOf members parts).Holds (arrayTexts members texts) := by
  unfold arrayOf arrayTexts
  split
  · rw [Holds, patterns_of_pattern?_eq_none rfl, children]
    exact flatMap_elementsAt h "items"
  · rw [Holds, patterns_eq, compiled_append, ← toList_pattern_ofMembers]
    congr 1
    unfold textsAt children
    rcases rel_cases (h "items") with ⟨hp, ht⟩ | ⟨r, t, hp, ht, hrt⟩
    · rw [hp, ht]
      rfl
    · rw [hp, ht]
      exact (List.append_nil _).trans hrt.node

theorem rel_ofTag? (tag : String) :
    Option.Rel Holds (ofTag? members parts tag) (tagTexts? members texts tag) := by
  unfold ofTag? tagTexts?
  split
  · exact .some (holds_objectOf h members)
  split
  · exact .some (holds_arrayOf h members)
  · cases Primitive.ofTag? tag with
    | none => exact .none
    | some p =>
      refine .some ?_
      rw [Holds, patterns_eq, ← toList_pattern_ofMembers]
      rfl

theorem rel_intersection? :
    Option.Rel Holds (intersection? members parts) (intersectionTexts? members texts) := by
  unfold intersection? intersectionTexts?
  split
  · refine .some ?_
    rw [Holds, patterns_of_pattern?_eq_none rfl]
    exact flatMap_elementsAt h "allOf"
  · exact .none

theorem rel_typeList? :
    Option.Rel Holds (typeList? members parts) (typeListTexts? members texts) := by
  unfold typeList? typeListTexts?
  cases (members.lookup "type").bind Value.asArray? with
  | none => exact .none
  | some tags =>
    refine .some ?_
    rw [Holds, patterns_of_pattern?_eq_none rfl, children]
    rw [compiled_flatMap, List.flatMap_map]
    exact List.flatMap_congr fun tag _ =>
      getD_of_rel (rel_ofTag? h members tag) (holds_nil (n := .unknown) rfl rfl)

theorem rel_typed? : Option.Rel Holds (typed? members parts) (typedTexts? members texts) := by
  unfold typed? typedTexts?
  cases (members.lookup "type").bind Value.asString? with
  | some tag => exact rel_ofTag? h members tag
  | none =>
    dsimp only
    split
    · exact .some (holds_objectOf h members)
    · exact .none

theorem rel_union? : Option.Rel Holds (union? members parts) (unionTexts? members texts) := by
  unfold union? unionTexts?
  generalize (if hasKey members "oneOf" then "oneOf" else "anyOf") = key
  dsimp only
  split
  · refine .some ?_
    rw [Holds, patterns_of_pattern?_eq_none rfl]
    exact flatMap_elementsAt h key
  · exact .none

/-- A schema whose parts account for the texts in them accounts for its own. -/
theorem holds_classify : (classify members parts).Holds (schemaTexts members texts) := by
  have hleaf : ∀ n ∈ (reference? members <|> constant? members <|> enumeration? members),
      n.Holds [] := by
    intro n hn
    simp only [Option.orElse_eq_orElse, Option.orElse_eq_or, Option.mem_def,
      Option.or_eq_some_iff] at hn
    -- a reference, a constant and an enumeration stand alone and set no constraints
    rcases hn with hn | ⟨-, hn | ⟨-, hn⟩⟩
    all_goals
      obtain ⟨_, -, rfl⟩ := Option.map_eq_some_iff.1 hn
      exact holds_nil rfl rfl
  have hleaves : Option.Rel Holds (reference? members <|> constant? members <|> enumeration? members)
      ((reference? members <|> constant? members <|> enumeration? members).map fun _ => []) := by
    cases hn : (reference? members <|> constant? members <|> enumeration? members) with
    | none => exact .none
    | some n => exact .some (hleaf n hn)
  have hkinds := rel_orElse hleaves <| rel_orElse (rel_intersection? h members) <|
    rel_orElse (rel_typeList? h members) <| rel_orElse (rel_typed? h members) (rel_union? h members)
  have hall := getD_of_rel hkinds (holds_nil (n := .unknown) rfl rfl)
  have hassoc : classify members parts = ((reference? members <|> constant? members <|>
      enumeration? members) <|> intersection? members parts <|> typeList? members parts <|>
        typed? members parts <|> union? members parts).getD .unknown := by
    unfold classify
    simp only [Option.orElse_eq_orElse, Option.orElse_eq_or, Option.or_assoc]
  rw [hassoc]
  exact hall

end Parts

/-! ## Reading -/

theorem textsOfAll_eq_flatMap (vs : List Value) : textsOfAll vs = vs.flatMap fun v => (texts v).node := by
  induction vs with
  | nil => rfl
  | cons v vs ih => rw [textsOfAll, ih, List.flatMap_cons]

theorem textsOfMembers_eq_map (members : Members) :
    textsOfMembers members = members.map fun m => (m.1, texts m.2) := by
  induction members with
  | nil => rfl
  | cons m members ih => rw [textsOfMembers, ih, List.map_cons]

theorem accounts_roles (v : Value) : Accounts (roles v) (texts v) := by
  induction v using Value.partInduction with
  | step v ih =>
    cases v with
    | array values =>
      refine ⟨holds_nil rfl rfl, ?_, rfl⟩
      rw [roles, texts, nodes_eq_map, textsOfAll_eq_flatMap, compiled_flatMap, List.flatMap_map]
      exact List.flatMap_congr fun v hv => (ih v hv).node
    | object members =>
      have hmembers : ∀ m ∈ members, Accounts (roles m.2) (texts m.2) := fun m hm =>
        ih m.2 (List.mem_map_of_mem hm)
      have hlookup : ∀ key, Option.Rel Accounts ((rolesOfMembers members).lookup key)
          ((textsOfMembers members).lookup key) := fun key => by
        rw [lookup_rolesOfMembers, textsOfMembers_eq_map, lookup_map_snd]
        cases hv : members.lookup key with
        | none => exact .none
        | some v => exact .some (hmembers (key, v) (mem_of_lookup_eq_some hv))
      refine ⟨holds_classify hlookup members, rfl, ?_⟩
      rw [roles, texts, rolesOfMembers_eq_map, textsOfMembers_eq_map]
      simp only [List.map_map, List.flatMap_map, compiled_flatMap]
      exact List.flatMap_congr fun m hm => (hmembers m hm).node
    | null | bool | number | string => exact ⟨holds_nil rfl rfl, rfl, rfl⟩

/-- The patterns of the node that is read are the texts that are met and can be compiled. -/
theorem patterns_ofValue (schema : Value) :
    (ofValue schema).patterns = (patternTexts schema).filterMap TextPattern.compile? :=
  (accounts_roles schema).node

/-- Each text that is met is that of a pattern of the node, or it is noted; both are in the order in
which the texts are met. -/
theorem partition_patternTexts (schema : Value) :
    (patternTexts schema).partition (fun text => (TextPattern.compile? text).isSome) =
      ((ofValue schema).patterns.map TextPattern.source, skipped schema) := by
  have hnone : (not ∘ fun text => (TextPattern.compile? text).isSome) =
      fun text => (TextPattern.compile? text).isNone := funext fun text => Option.not_isSome ..
  rw [List.partition_eq_filter_filter, hnone, patterns_ofValue]
  exact congrArg (·, skipped schema) (map_source_compiled _).symm

/-- A type list of a string and an array reads its pattern twice, and the one of its items in between. -/
example : skipped (.object [("type", .array [.string "string", .string "array"]),
    ("pattern", .string "("), ("items", .object [("type", .string "string"),
      ("pattern", .string "[")])]) = ["(", "[", "("] := by
  rfl

end ContractInterface.Node
