/-
Which schemas are recognized, against which are read as something. A schema that is not recognized has no
keyword that tells its kind, but keywords of objects make it one of objects without any
(`Node.ofValue_object_of_not_isRecognized`). So it is read as nothing, and permits everything, exactly if it
has none of these either (`Node.ofValue_of_not_isRecognized`): a schema that only declares properties is acted
on and not recognized (`Node.not_isRecognized_properties`).
-/
import ContractInterface.Proofs.Schema.Reading
import ContractInterface.Proofs.Shape.Kinds
import ContractInterface.Proofs.Shape.Memo
import ContractInterface.Schema.Outline

namespace ContractInterface

open Json

namespace Node

/-! ## Keywords that are recognized -/

/-- The members have no keyword, with a value of its kind, by which a schema is recognized. -/
structure Unmarked (members : Members) : Prop where
  reference : reference? members = none
  constant : constant? members = none
  enumeration : enumeration? members = none
  conjunction : isArrayAt members "allOf" = false
  alternatives : ∀ key ∈ ["oneOf", "anyOf"], isArrayAt members key = false
  tag : (members.lookup "type").bind Value.asString? = none
  tags : (members.lookup "type").bind Value.asArray? = none

theorem unmarked_of_not_isRecognized {members : Members} (h : isRecognized (.object members) = false) :
    Unmarked members := by
  unfold isRecognized at h
  simp only [Bool.or_eq_false_iff] at h
  obtain ⟨⟨⟨⟨⟨⟨htype, hreference⟩, henum⟩, hconst⟩, honeOf⟩, hanyOf⟩, hallOf⟩ := h
  have htypes : (members.lookup "type").bind Value.asString? = none ∧
      (members.lookup "type").bind Value.asArray? = none := by
    revert htype
    rcases members.lookup "type" with _ | _ | _ | _ | _ | _ | _ <;> simp [Value.asString?, Value.asArray?]
  constructor
  · simpa using hreference
  · unfold hasKey at hconst
    unfold constant?
    rw [Option.isSome_eq_false_iff, Option.isNone_iff_eq_none] at hconst
    rw [hconst, Option.map_none]
  · unfold isArrayAt at henum
    unfold enumeration?
    rw [Option.isSome_eq_false_iff, Option.isNone_iff_eq_none] at henum
    rw [henum, Option.map_none]
  · exact hallOf
  · simpa using ⟨honeOf, hanyOf⟩
  · exact htypes.1
  · exact htypes.2

/-! ## Reading -/

/-- Whether the members have a keyword that makes a schema without a type one of objects. -/
def describesObject (members : Members) : Bool :=
  hasKey members "properties" || hasKey members "additionalProperties"

/-- Of the keywords that tell the kind of a schema, only those of objects are left. -/
theorem ofValue_object_of_not_isRecognized {members : Members}
    (h : isRecognized (.object members) = false) : ofValue (.object members) =
      if describesObject members then objectOf members (rolesOfMembers members) else .unknown := by
  have hu := unmarked_of_not_isRecognized h
  have hintersection : intersection? members (rolesOfMembers members) = none := by
    unfold intersection?
    rw [hu.conjunction, if_neg Bool.false_ne_true]
  have htypes : typeList? members (rolesOfMembers members) = none := by
    unfold typeList?
    rw [hu.tags, Option.map_none]
  have htyped : typed? members (rolesOfMembers members) =
      if describesObject members then some (objectOf members (rolesOfMembers members)) else none := by
    unfold typed?
    rw [hu.tag]
    rfl
  have hunion : union? members (rolesOfMembers members) = none := by
    have hkey : (if hasKey members "oneOf" then "oneOf" else "anyOf") ∈ ["oneOf", "anyOf"] := by
      split <;> simp
    unfold union?
    dsimp only
    rw [hu.alternatives _ hkey, if_neg Bool.false_ne_true]
  show classify members (rolesOfMembers members) = _
  unfold classify
  rw [hu.reference, hu.constant, hu.enumeration, hintersection, htypes, htyped, hunion]
  split <;> rfl

/-- Without keywords that are recognized, a schema is read as nothing and resolves to what permits everything,
against whatever table, if and only if it has no keyword of objects. With one it is read as the schema of
objects that its members describe, and whatever it resolves to is the shape of an object. -/
theorem ofValue_of_not_isRecognized {v : Value} (h : isRecognized v = false) :
    let described := (v.get? "properties").isSome || (v.get? "additionalProperties").isSome
    (ofValue v = .unknown ↔ described = false) ∧
      (described = false → ∀ d, resolve d (ofValue v) = .ok .any) ∧
      (described = true → ∃ members, v = .object members ∧
        ofValue v = objectOf members (rolesOfMembers members) ∧
          ∀ d s, resolve d (ofValue v) = .ok s → s.isObject = true) := by
  intro described
  have hany : ofValue v = .unknown → ∀ d, resolve d (ofValue v) = .ok .any := by
    intro hunknown d
    rw [hunknown]
    rfl
  cases v with
  | null | bool | number | string | array =>
    exact ⟨iff_of_true rfl rfl, fun _ => hany rfl, nofun⟩
  | object members =>
    have hread := ofValue_object_of_not_isRecognized h
    have hdescribed : described = describesObject members := rfl
    cases hd : describesObject members with
    | false =>
      rw [hd, if_neg Bool.false_ne_true] at hread
      rw [hdescribed, hd]
      exact ⟨iff_of_true hread rfl, fun _ => hany hread, nofun⟩
    | true =>
      rw [hd, if_pos rfl] at hread
      rw [hdescribed, hd]
      refine ⟨iff_of_false ?_ nofun, nofun, fun _ => ⟨members, rfl, hread, ?_⟩⟩
      · rw [hread]
        exact nofun
      · intro d s hs
        rw [Resolver.resolve_eq_expand] at hs
        exact (ofKind_of_object ⟨_, _, _, hread⟩ hs).object

/-- A schema with malformed keywords and no others, and one that forbids what it does not declare beside a
type that is no type. -/
theorem ofValue_of_not_isRecognized_malformed :
    let v : Value := .object [("oneOf", .string "x"), ("enum", .null), ("items", .object [])]
    let w : Value := .object [("type", .null), ("additionalProperties", .bool false)]
    isRecognized v = false ∧ ofValue v = .unknown ∧ (∀ d, resolve d (ofValue v) = .ok .any) ∧
      isRecognized w = false ∧ ofValue w ≠ .unknown ∧
        ∀ d s, resolve d (ofValue w) = .ok s → s.isObject = true := by
  intro v w
  have hv : isRecognized v = false := by decide
  have hw : isRecognized w = false := by decide
  obtain ⟨hunknown, hany, -⟩ := ofValue_of_not_isRecognized hv
  obtain ⟨hknown, -, hobject⟩ := ofValue_of_not_isRecognized hw
  obtain ⟨members, -, -, hshape⟩ := hobject rfl
  exact ⟨hv, hunknown.2 rfl, hany rfl, hw, fun heq => absurd (hknown.1 heq) (by decide), hshape⟩

/-- A schema that declares a property and gives no type is not recognized, yet it is read as one of objects and
does not resolve to what permits everything. -/
theorem not_isRecognized_properties :
    let schema : Value :=
      .object [("properties", .object [("a", .object [("type", .string "string")])])]
    isRecognized schema = false ∧ ofValue schema ≠ .unknown ∧
      resolve .empty (ofValue schema) = .ok (.object [⟨"a", true, .string .empty⟩] .untyped) := by
  intro schema
  have hread : ofValue schema = .object [("a", .primitive .string .empty)] none .untyped := rfl
  refine ⟨by decide, ?_, ?_⟩
  · rw [hread]
    exact nofun
  · rw [hread]
    rfl

end Node

end ContractInterface
