/-
Patterns that reading a schema skips. The reader compiles the text of a pattern wherever it reads the
constraints of a schema; it notes the texts that cannot be compiled and goes on without them. The texts
are met in the order in which the parts of a schema are read, and once for each time that they are read:
a type list is read once for each of its tags.
-/
import ContractInterface.Schema.Node

namespace ContractInterface.Node

open Json

/-! ## Texts in the parts of a schema -/

/-- The texts of patterns in a value inside a schema, where it is read in each of its roles. -/
structure Texts where
  node : List String
  elements : List String
  named : List String

/-- What is met under a key, in a role of the value there. -/
def textsAt (parts : List (String × Texts)) (role : Texts → List String) (key : String) :
    List String :=
  ((parts.lookup key).map role).getD []

/-- What the constraints of a schema hold. -/
def ownTexts (members : Members) : List String := (Constraints.text? members "pattern").toList

def additionalTexts (members : Members) (parts : List (String × Texts)) : List String :=
  match members.lookup "additionalProperties" with
  | some (.object _) => textsAt parts Texts.node "additionalProperties"
  | _ => []

/-- What is met in the object schema: first in its properties, then in its policy. -/
def objectTexts (members : Members) (parts : List (String × Texts)) : List String :=
  textsAt parts Texts.named "properties" ++ additionalTexts members parts

/-- The constraints of a tuple are not read, those of a list after its items. -/
def arrayTexts (members : Members) (parts : List (String × Texts)) : List String :=
  if isArrayAt members "items" then textsAt parts Texts.elements "items"
  else textsAt parts Texts.node "items" ++ ownTexts members

/-- What is met in the schema narrowed to one type tag, if the tag is known. -/
def tagTexts? (members : Members) (parts : List (String × Texts)) (tag : String) :
    Option (List String) :=
  if tag = "object" then some (objectTexts members parts)
  else if tag = "array" then some (arrayTexts members parts)
  else (Primitive.ofTag? tag).map fun _ => ownTexts members

/-! ## Kinds -/

def intersectionTexts? (members : Members) (parts : List (String × Texts)) : Option (List String) :=
  if isArrayAt members "allOf" then some (textsAt parts Texts.elements "allOf") else none

def typeListTexts? (members : Members) (parts : List (String × Texts)) : Option (List String) :=
  ((members.lookup "type").bind Value.asArray?).map fun tags =>
    (distinctTags tags).flatMap fun tag => (tagTexts? members parts tag).getD []

def typedTexts? (members : Members) (parts : List (String × Texts)) : Option (List String) :=
  match (members.lookup "type").bind Value.asString? with
  | some tag => tagTexts? members parts tag
  | none =>
    if hasKey members "properties" || hasKey members "additionalProperties" then
      some (objectTexts members parts)
    else none

def unionTexts? (members : Members) (parts : List (String × Texts)) : Option (List String) :=
  let key := if hasKey members "oneOf" then "oneOf" else "anyOf"
  if isArrayAt members key then some (textsAt parts Texts.elements key) else none

/-- What is met in a schema with the given members. The kinds are tried in the order of
`Node.classify`; a reference, a constant and an enumeration are read no further. -/
def schemaTexts (members : Members) (parts : List (String × Texts)) : List String :=
  ((reference? members <|> constant? members <|> enumeration? members).map (fun _ => []) <|>
    intersectionTexts? members parts <|> typeListTexts? members parts <|>
    typedTexts? members parts <|> unionTexts? members parts).getD []

/-! ## Reading -/

mutual

def texts : Value → Texts
  | .array values => ⟨[], textsOfAll values, []⟩
  | .object members =>
    let parts := textsOfMembers members
    ⟨schemaTexts members parts, [], parts.flatMap fun part => part.2.node⟩
  | _ => ⟨[], [], []⟩
termination_by structural v => v

def textsOfAll : List Value → List String
  | [] => []
  | v :: rest => (texts v).node ++ textsOfAll rest
termination_by structural vs => vs

def textsOfMembers : List (String × Value) → List (String × Texts)
  | [] => []
  | (key, v) :: rest => (key, texts v) :: textsOfMembers rest
termination_by structural ms => ms

end

/-- The texts of patterns that are met when a raw schema is read, in their order. -/
def patternTexts (schema : Value) : List String := (texts schema).node

/-- The texts that are noted and skipped. -/
def skipped (schema : Value) : List String :=
  (patternTexts schema).filter fun text => (TextPattern.compile? text).isNone

end ContractInterface.Node
