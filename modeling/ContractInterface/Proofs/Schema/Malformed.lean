/-
Keywords of composition whose value is of the wrong kind. Such a keyword counts as absent, with one
exception: alternatives under `anyOf` are looked at only where there is no `oneOf`, whatever stands under
that. So a malformed `oneOf` hides them, and what would be a choice of alternatives is of no kind
(`Node.ofValue_without_eq_iff`, `Node.ofValue_without_oneOf_ne`).
-/
import ContractInterface.Proofs.Json.Order
import ContractInterface.Proofs.Schema.TypeList

namespace ContractInterface

open Json

/-! ## Removing a key -/

/-- The members without those of a key. -/
def Json.Members.without (members : Members) (key : String) : Members :=
  members.filter fun m => m.1 != key

theorem Json.Members.lookup_without (members : Members) (key other : String) :
    (members.without key).lookup other = if other = key then none else members.lookup other := by
  rw [without, Value.lookup_filter_keys fun name => name != key]
  by_cases h : other = key
  · simp [h]
  · simp [h]

namespace Node

/-! ## Malformed keywords -/

/-- The keywords of composition that a value can be of the wrong kind for. -/
def compositionKeywords : List String := ["$ref", "enum", "allOf", "oneOf", "anyOf", "type"]

/-- Whether a value is of a kind that is read under the keyword of composition. -/
def isWellFormed (keyword : String) (v : Value) : Bool :=
  if keyword = "$ref" then v.asString?.isSome
  else if keyword = "type" then v.asString?.isSome || v.asArray?.isSome
  else v.asArray?.isSome

section Malformed

variable {members : Members} {key : String} {v : Value}

theorem asArray?_eq_none (hkey : key ≠ "$ref") (hmalformed : isWellFormed key v = false) :
    v.asArray? = none := by
  unfold isWellFormed at hmalformed
  rw [if_neg hkey] at hmalformed
  split_ifs at hmalformed
  · simpa using (Bool.or_eq_false_iff.1 hmalformed).2
  · simpa using hmalformed

theorem asString?_eq_none (hkey : key = "$ref" ∨ key = "type") (hmalformed : isWellFormed key v = false) :
    v.asString? = none := by
  unfold isWellFormed at hmalformed
  split_ifs at hmalformed with href htype
  · simpa using hmalformed
  · simpa using (Bool.or_eq_false_iff.1 hmalformed).1
  · exact absurd hkey (not_or.2 ⟨href, htype⟩)

theorem elements_eq_nil (h : v.asArray? = none) : (roles v).elements = [] := by
  cases v with
  | array => cases h
  | null | bool | number | string | object => rfl

variable (hkey : key ∈ compositionKeywords) (hv : members.lookup key = some v)
  (hmalformed : isWellFormed key v = false)

theorem lookup_without_eq {other : String} (h : other ≠ key) :
    (members.without key).lookup other = members.lookup other := by
  rw [Members.lookup_without, if_neg h]

include hv in
/-- Where nothing is read off the malformed value, its keyword may as well be absent. -/
theorem bind_lookup_without {β : Type} {read : Value → Option β} {other : String}
    (h : other = key → read v = none) :
    ((members.without key).lookup other).bind read = (members.lookup other).bind read := by
  rw [Members.lookup_without]
  split_ifs with heq
  · rw [heq, hv]
    exact (h heq).symm
  · rfl

include hv hmalformed

theorem asArray?_without {other : String} (h : other ≠ "$ref") :
    ((members.without key).lookup other).bind Value.asArray? =
      (members.lookup other).bind Value.asArray? :=
  bind_lookup_without hv fun heq => asArray?_eq_none (heq ▸ h) hmalformed

theorem asString?_without {other : String} (h : other = "$ref" ∨ other = "type") :
    ((members.without key).lookup other).bind Value.asString? =
      (members.lookup other).bind Value.asString? :=
  bind_lookup_without hv fun heq => asString?_eq_none (heq ▸ h) hmalformed

theorem elementsAt_without {other : String} (h : other ≠ "$ref") :
    elementsAt (rolesOfMembers (members.without key)) other =
      elementsAt (rolesOfMembers members) other := by
  unfold elementsAt
  rw [lookup_rolesOfMembers, lookup_rolesOfMembers, Members.lookup_without]
  split_ifs with heq
  · rw [heq, hv]
    exact (elements_eq_nil (asArray?_eq_none (heq ▸ h) hmalformed)).symm
  · rfl

end Malformed

/-! ## Kinds -/

theorem not_mem_tagKeywords : ∀ key ∈ compositionKeywords, key ≠ "const" ∧ key ∉ tagKeywords := by
  decide

section Kinds

variable {members : Members} {key : String} {v : Value} (hkey : key ∈ compositionKeywords)
  (hv : members.lookup key = some v) (hmalformed : isWellFormed key v = false)

include hkey in
theorem lookup_without_of_mem {other : String} (h : other ∈ tagKeywords) :
    (members.without key).lookup other = members.lookup other :=
  lookup_without_eq fun heq => (not_mem_tagKeywords key hkey).2 (heq ▸ h)

include hkey in
theorem ofTag?_without (tag : String) :
    ofTag? (members.without key) (rolesOfMembers (members.without key)) tag =
      ofTag? members (rolesOfMembers members) tag :=
  ofTag?_congr (fun _ => lookup_without_of_mem hkey) tag

include hv hmalformed

theorem isArrayAt_without {other : String} (h : other ≠ "$ref") :
    isArrayAt (members.without key) other = isArrayAt members other :=
  congrArg Option.isSome (asArray?_without hv hmalformed h)

theorem intersection?_without : intersection? (members.without key) (rolesOfMembers (members.without key)) =
    intersection? members (rolesOfMembers members) := by
  unfold intersection?
  rw [isArrayAt_without hv hmalformed (by decide), elementsAt_without hv hmalformed (by decide)]

include hkey

theorem typeList?_without : typeList? (members.without key) (rolesOfMembers (members.without key)) =
    typeList? members (rolesOfMembers members) := by
  unfold typeList?
  simp only [asArray?_without hv hmalformed (show "type" ≠ "$ref" by decide), ofTag?_without hkey]

theorem typed?_without : typed? (members.without key) (rolesOfMembers (members.without key)) =
    typed? members (rolesOfMembers members) := by
  have hobject : objectOf (members.without key) (rolesOfMembers (members.without key)) =
      objectOf members (rolesOfMembers members) := Option.some.inj (ofTag?_without hkey "object")
  have hpresent : ∀ other ∈ tagKeywords,
      hasKey (members.without key) other = hasKey members other := fun _ hother =>
    congrArg Option.isSome (lookup_without_of_mem hkey hother)
  unfold typed?
  rw [asString?_without hv hmalformed (.inr rfl), hpresent "properties" (by decide),
    hpresent "additionalProperties" (by decide), hobject]
  cases (members.lookup "type").bind Value.asString? with
  | none => rfl
  | some tag => exact ofTag?_without hkey tag

/-- Whatever tells the kind of a schema tells it without the malformed keyword, alternatives apart. -/
theorem firstKind?_without : firstKind? (members.without key) (rolesOfMembers (members.without key)) =
    firstKind? members (rolesOfMembers members) := by
  have hconst := (not_mem_tagKeywords key hkey).1
  unfold firstKind? reference? constant? enumeration?
  rw [asString?_without hv hmalformed (.inl rfl), lookup_without_eq hconst.symm,
    asArray?_without hv hmalformed (by decide), intersection?_without hv hmalformed,
    typeList?_without hkey hv hmalformed, typed?_without hkey hv hmalformed]

omit hkey in
/-- Alternatives are looked for under the same key, unless that is the malformed one. -/
theorem union?_without (hone : key ≠ "oneOf") :
    union? (members.without key) (rolesOfMembers (members.without key)) =
      union? members (rolesOfMembers members) := by
  have hpresent : hasKey (members.without key) "oneOf" = hasKey members "oneOf" :=
    congrArg Option.isSome (lookup_without_eq hone.symm)
  have halternatives : (if hasKey members "oneOf" then "oneOf" else "anyOf") ≠ "$ref" := by
    split <;> decide
  unfold union?
  rw [hpresent]
  dsimp only
  rw [isArrayAt_without hv hmalformed halternatives, elementsAt_without hv hmalformed halternatives]

end Kinds

/-! ## Reading -/

/-- Only alternatives are read as a union. -/
theorem ne_union_of_firstKind? {members : Members} {parts : Parts} {n : Node}
    (h : firstKind? members parts = some n) (ns : List Node) : n ≠ .union ns := by
  rintro rfl
  obtain ⟨_, ⟨⟩⟩ | ⟨_, ⟨⟩⟩ | ⟨_, ⟨⟩⟩ | ⟨_, ⟨⟩⟩ | ⟨_, ⟨⟩⟩ | htyped := firstKind?_cases h
  exact isSingle_of_typed? htyped

/-- A malformed `oneOf` stands for no alternatives and lets no others be looked at. -/
theorem union?_of_malformed {members : Members} {v : Value} (hv : members.lookup "oneOf" = some v)
    (hmalformed : isWellFormed "oneOf" v = false) (parts : Parts) : union? members parts = none := by
  have hnone := asArray?_eq_none (show "oneOf" ≠ "$ref" by decide) hmalformed
  unfold union? hasKey isArrayAt
  simp [hv, hnone]

/-- Without `oneOf`, a list under `anyOf` is read as alternatives. -/
theorem union?_without_oneOf (members : Members) :
    union? (members.without "oneOf") (rolesOfMembers (members.without "oneOf")) =
      ((members.lookup "anyOf").bind Value.asArray?).map fun vs => .union (vs.map ofValue) := by
  have habsent : hasKey (members.without "oneOf") "oneOf" = false := by
    rw [hasKey, Members.lookup_without, if_pos rfl, Option.isSome_none]
  have halternatives : (members.without "oneOf").lookup "anyOf" = members.lookup "anyOf" :=
    lookup_without_eq (by decide)
  unfold union? isArrayAt elementsAt
  simp only [habsent, Bool.false_eq_true, if_false, lookup_rolesOfMembers, halternatives]
  rcases members.lookup "anyOf" with _ | v
  · rfl
  · cases v with
    | array vs => exact congrArg (fun ns => some (union ns)) (nodes_eq_map vs)
    | null | bool | number | string | object => rfl

section Reading

variable {members : Members} {key : String} {v : Value} (hkey : key ∈ compositionKeywords)
  (hv : members.lookup key = some v) (hmalformed : isWellFormed key v = false)

include hkey hv hmalformed

/-- Without the malformed keyword, the first kind that applies is the same, and alternatives come last. -/
theorem ofValue_without : ofValue (.object (members.without key)) =
    (firstKind? members (rolesOfMembers members) <|>
      union? (members.without key) (rolesOfMembers (members.without key))).getD .unknown := by
  rw [← firstKind?_without hkey hv hmalformed]
  exact classify_eq ..

theorem ofValue_without_of_ne (hone : key ≠ "oneOf") :
    ofValue (.object (members.without key)) = ofValue (.object members) := by
  rw [ofValue_without hkey hv hmalformed, union?_without hv hmalformed hone]
  exact (classify_eq ..).symm

end Reading

/-- With a malformed `oneOf` a schema is of the first kind that applies, if any: the same as without, or of
no kind where the list under `anyOf` is read without. -/
theorem ofValue_without_oneOf {members : Members} {v : Value} (hv : members.lookup "oneOf" = some v)
    (hmalformed : isWellFormed "oneOf" v = false) :
    let before := ofValue (.object members)
    let after := ofValue (.object (members.without "oneOf"))
    (before = after ∧ ∀ ns, after ≠ .union ns) ∨ (before = .unknown ∧
      ∃ vs, members.lookup "anyOf" = some (.array vs) ∧ after = .union (vs.map ofValue)) := by
  intro before after
  have hbefore : before = (firstKind? members (rolesOfMembers members)).getD .unknown := by
    have hclassify : before = (firstKind? members (rolesOfMembers members) <|>
        union? members (rolesOfMembers members)).getD .unknown := classify_eq ..
    rwa [union?_of_malformed hv hmalformed, Option.orElse_eq_orElse, Option.orElse_eq_or,
      Option.or_none] at hclassify
  have hafter : after = _ := ofValue_without (by decide) hv hmalformed
  cases hfirst : firstKind? members (rolesOfMembers members) with
  | some n =>
    rw [hfirst] at hbefore hafter
    exact .inl ⟨hbefore.trans hafter.symm, fun ns => hafter ▸ ne_union_of_firstKind? hfirst ns⟩
  | none =>
    rw [hfirst, union?_without_oneOf] at hafter
    rw [hfirst] at hbefore
    cases hlist : (members.lookup "anyOf").bind Value.asArray? with
    | none =>
      rw [hlist] at hafter
      exact .inl ⟨hbefore.trans hafter.symm, fun ns => hafter ▸ nofun⟩
    | some vs =>
      obtain ⟨w, hw, harray⟩ := Option.bind_eq_some_iff.1 hlist
      rw [hlist] at hafter
      cases w <;> cases harray
      exact .inr ⟨hbefore, vs, hw, hafter⟩

/-- A malformed keyword of composition counts as absent, unless it is a `oneOf` without which the schema is
read as alternatives. Those are the ones under `anyOf`, and with the malformed keyword the schema is of no
kind. -/
theorem ofValue_without_eq_iff {members : Members} {key : String} {v : Value}
    (hkey : key ∈ compositionKeywords) (hv : members.lookup key = some v)
    (hmalformed : isWellFormed key v = false) :
    let before := ofValue (.object members)
    let after := ofValue (.object (members.without key))
    (before = after ↔ (key = "oneOf" → ∀ ns, after ≠ .union ns)) ∧
      (before ≠ after → before = .unknown ∧
        ∃ vs, members.lookup "anyOf" = some (.array vs) ∧ after = .union (vs.map ofValue)) := by
  intro before after
  by_cases hone : key = "oneOf"
  · subst hone
    rcases ofValue_without_oneOf hv hmalformed with ⟨heq, hne⟩ | ⟨hunknown, vs, halternatives, hunion⟩
    · exact ⟨iff_of_true heq fun _ => hne, fun h => absurd heq h⟩
    · have hne : before ≠ after := fun heq => by
        cases hunknown.symm.trans (heq.trans hunion)
      exact ⟨iff_of_false hne fun h => h rfl _ hunion, fun _ => ⟨hunknown, vs, halternatives, hunion⟩⟩
  · have heq : before = after := (ofValue_without_of_ne hkey hv hmalformed hone).symm
    exact ⟨iff_of_true heq fun h => absurd h hone, fun h => absurd heq h⟩

/-- A malformed conjunction beside a list of types, and a malformed `oneOf` beside a type. -/
theorem ofValue_without_eq_iff_types :
    let types : String × Value := ("type", .array [.string "string", .string "null"])
    let type : String × Value := ("type", .string "integer")
    let alternatives : String × Value := ("anyOf", .array [.object [type]])
    let ms : Members := [("allOf", .object [type]), types, alternatives]
    let ns : Members := [("oneOf", .null), alternatives, type]
    "allOf" ∈ compositionKeywords ∧ isWellFormed "allOf" (.object [type]) = false ∧
      ofValue (.object ms) = ofValue (.object [types, alternatives]) ∧
      "oneOf" ∈ compositionKeywords ∧ isWellFormed "oneOf" .null = false ∧
      ofValue (.object ns) = ofValue (.object [alternatives, type]) := by
  intro types type alternatives ms ns
  have hms : ofValue (.object ms) = ofValue (.object [types, alternatives]) :=
    (@ofValue_without_eq_iff ms "allOf" _ (by decide) rfl rfl).1.2 fun h => absurd h (by decide)
  have hns : ofValue (.object ns) = ofValue (.object [alternatives, type]) :=
    (@ofValue_without_eq_iff ns "oneOf" _ (by decide) rfl rfl).1.2 fun _ _ => nofun
  exact ⟨by decide, rfl, hms, by decide, rfl, hns⟩

/-- A `oneOf` that is no list hides the alternatives beside it: the schema permits everything, and without
the keyword it permits strings. -/
theorem ofValue_without_oneOf_ne :
    let members : Members :=
      [("oneOf", .string "x"), ("anyOf", .array [.object [("type", .string "string")]])]
    isWellFormed "oneOf" (.string "x") = false ∧ members.lookup "oneOf" = some (.string "x") ∧
      ofValue (.object members) ≠ ofValue (.object (members.without "oneOf")) := by
  intro members
  have hbefore : ofValue (.object members) = .unknown := rfl
  have hafter : ofValue (.object (members.without "oneOf")) = .union [.primitive .string .empty] := rfl
  rw [hbefore, hafter]
  exact ⟨rfl, rfl, nofun⟩

end Node

end ContractInterface
