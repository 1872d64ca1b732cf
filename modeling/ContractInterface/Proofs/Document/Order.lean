/-
Documents up to the order of members in the raw values that they keep. The canonical text sees a
document no closer than that (`Document.canonicalText_ordered`), and neither does the check.
-/
import ContractInterface.Document.Loading
import ContractInterface.Proofs.Json.Order

namespace ContractInterface

open Json

/-! ## Ordered forms -/

def Parameter.ordered (p : Parameter) : Parameter := { p with schema := p.schema.ordered }

def ParameterBlock.ordered (b : ParameterBlock) : ParameterBlock :=
  { b with parameters := b.parameters.map Parameter.ordered }

def ResultBlock.ordered (b : ResultBlock) : ResultBlock := { b with schema := b.schema.ordered }

def Function.ordered (f : Function) : Function :=
  { f with
    params := f.params.map ParameterBlock.ordered
    callbacks := f.callbacks.map Value.ordered
    result := f.result.map ResultBlock.ordered }

def Metadata.ordered (m : Metadata) : Metadata := { m with other := m.other.ordered }

def RootSchema.ordered (r : RootSchema) : RootSchema :=
  { r with
    definitions := r.definitions.ordered
    localDefinitions := r.localDefinitions.ordered
    extra := r.extra.ordered }

def Body.ordered (b : Body) : Body :=
  { functions := b.functions.map Function.ordered, rootSchema := b.rootSchema.ordered }

/-- The document with the members of all raw values in the order of their names. -/
def Document.ordered (d : Document) : Document :=
  { d with metadata := d.metadata.ordered, body := d.body.ordered }

/-! ## Members -/

open Value

section Members

variable {α β : Type}

theorem orderedMembers_memberIf? (key : String) (encode : α → Value) (a : Option α) :
    orderedMembers (memberIf? key encode a) = memberIf? key (fun a => (encode a).ordered) a := by
  cases a <;> rfl

theorem memberIf?_map (key : String) (encode : β → Value) (f : α → β) (a : Option α) :
    memberIf? key encode (a.map f) = memberIf? key (encode ∘ f) a := by
  cases a <;> rfl

theorem orderedMembers_memberUnlessEmpty (key : String) (encode : α → Value) (items : List α) :
    orderedMembers (memberUnlessEmpty key encode items) =
      memberUnlessEmpty key (fun a => (encode a).ordered) items := by
  cases items with
  | nil => rfl
  | cons a items => simp [memberUnlessEmpty, orderedMembers_eq_map, Function.comp_def]

theorem memberUnlessEmpty_map (key : String) (encode : β → Value) (f : α → β) (items : List α) :
    memberUnlessEmpty key encode (items.map f) = memberUnlessEmpty key (encode ∘ f) items := by
  unfold memberUnlessEmpty
  rw [List.isEmpty_map, List.map_map]

end Members

/-! ## Encoded forms -/

theorem Parameter.ordered_toValue (p : Parameter) :
    p.ordered.toValue.ordered = p.toValue.ordered := by
  simp [Parameter.toValue, Parameter.ordered, Members.ordered, orderedMembers_eq_map]

theorem ParameterBlock.ordered_toValue (b : ParameterBlock) :
    b.ordered.toValue.ordered = b.toValue.ordered := by
  simp [ParameterBlock.toValue, ParameterBlock.ordered, Members.ordered, orderedMembers_eq_map,
    Function.comp_def, Parameter.ordered_toValue]

theorem ResultBlock.ordered_toValue (b : ResultBlock) :
    b.ordered.toValue.ordered = b.toValue.ordered := by
  simp [ResultBlock.toValue, ResultBlock.ordered, Members.ordered, orderedMembers_eq_map]

theorem Function.ordered_toValue (f : Function) :
    f.ordered.toValue.ordered = f.toValue.ordered := by
  simp only [Function.toValue, Function.ordered, ordered_object, Members.ordered,
    orderedMembers_append, orderedMembers_memberIf?, orderedMembers_memberUnlessEmpty, memberIf?_map,
    memberUnlessEmpty_map, Function.comp_def, ParameterBlock.ordered_toValue,
    ResultBlock.ordered_toValue, id, ordered_ordered]

theorem Metadata.ordered_toValue (m : Metadata) :
    m.ordered.toValue.ordered = m.toValue.ordered := by
  simp only [Metadata.toValue, Metadata.ordered, ordered_object, Members.ordered,
    orderedMembers_append, orderedMembers_orderMembers, orderedMembers_orderedMembers,
    orderMembers_append]

theorem RootSchema.ordered_toValue (r : RootSchema) :
    r.ordered.toValue.ordered = r.toValue.ordered := by
  have hempty : r.localDefinitions.ordered.isEmpty = r.localDefinitions.isEmpty := by
    rw [Bool.eq_iff_iff, List.isEmpty_iff_length_eq_zero, List.isEmpty_iff_length_eq_zero,
      Members.length_ordered]
  have hdefinitions : ∀ members : Members, orderedMembers [("definitions", .object members.ordered)] =
      orderedMembers [("definitions", .object members)] := fun members => by
    simp [orderedMembers_eq_map]
  have hlocal : orderedMembers (if r.localDefinitions.isEmpty then []
      else [("$defs", .object r.localDefinitions.ordered)]) =
      orderedMembers (if r.localDefinitions.isEmpty then []
        else [("$defs", .object r.localDefinitions)]) := by
    split
    · rfl
    · simp [orderedMembers_eq_map]
  rw [RootSchema.toValue, RootSchema.toValue, ordered_object, ordered_object, Members.ordered,
    Members.ordered]
  simp only [RootSchema.ordered, orderedMembers_append, hempty, hdefinitions, hlocal,
    Members.orderedMembers_ordered]
  rw [Members.ordered, orderMembers_append]

theorem Body.ordered_toValue (b : Body) : b.ordered.toValue.ordered = b.toValue.ordered := by
  simp [Body.toValue, Body.ordered, Members.ordered, orderedMembers_eq_map, Function.comp_def,
    Function.ordered_toValue, RootSchema.ordered_toValue]

namespace Document

theorem ordered_toValue (d : Document) : d.ordered.toValue.ordered = d.toValue.ordered := by
  simp [toValue, ordered, Members.ordered, orderedMembers_eq_map, Metadata.ordered_toValue,
    Body.ordered_toValue]

/-- The canonical text does not see the order of members. -/
theorem canonicalText_ordered (d : Document) : d.ordered.canonicalText = d.canonicalText := by
  rw [canonicalText, ordered_toValue, canonicalText]

theorem functionNames_ordered (d : Document) : d.ordered.functionNames = d.functionNames := by
  simp [functionNames, ordered, Body.ordered, Function.ordered]

/-- The check does not see the order of members either. -/
theorem check_ordered (d : Document) : d.ordered.check = d.check := by
  rw [check, functionNames_ordered, check]
  rfl

end Document

end ContractInterface
