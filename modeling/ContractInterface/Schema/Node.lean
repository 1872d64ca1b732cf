/-
Schema nodes. A raw schema is one of eleven kinds of node, tried in a fixed order; a keyword whose
value is of the wrong kind is passed over, and what is of no kind is `unknown`. Reading never fails.
-/
import ContractInterface.Schema.Constraints

namespace ContractInterface

open Json

/-! ## Nodes -/

inductive Primitive where
  | string
  | integer
  | number
  | boolean
  | null
deriving DecidableEq

def Primitive.tag : Primitive → String
  | .string => "string"
  | .integer => "integer"
  | .number => "number"
  | .boolean => "boolean"
  | .null => "null"

def Primitive.ofTag? : String → Option Primitive
  | "string" => some .string
  | "integer" => some .integer
  | "number" => some .number
  | "boolean" => some .boolean
  | "null" => some .null
  | _ => none

/-- What an object may hold beyond its declared properties. -/
inductive Additional (α : Type) where
  | forbidden
  | typed (a : α)
  | untyped

/-- A schema, in the order in which the kinds are tried. -/
inductive Node where
  /-- A pointer to a definition, as written. -/
  | reference (pointer : String)
  | constant (value : Value)
  | enumeration (values : List Value)
  | intersection (members : List Node)
  /-- A list of type tags: the schema narrowed to each tag in turn. -/
  | typeList (alternatives : List Node)
  /-- Declared properties in order; without a list of required names all of them are required. -/
  | object (properties : List (String × Node)) (required : Option (List String))
      (additional : Additional Node)
  | tuple (elements : List Node)
  | list (items : Option Node) (constraints : Constraints)
  | primitive (primitive : Primitive) (constraints : Constraints)
  | union (alternatives : List Node)
  | unknown

namespace Node

/-! ## Parts of a schema -/

/-- A value inside a schema, read in each of its possible roles: as a schema, as a list of schemas
and as schemas by name. -/
structure Roles where
  node : Node
  elements : List Node
  named : List (String × Node)

/-- The roles of the members of a schema. -/
abbrev Parts := List (String × Roles)

/-- The schemas of a list under a keyword. -/
def elementsAt (parts : Parts) (key : String) : List Node :=
  ((parts.lookup key).map Roles.elements).getD []

def isArrayAt (members : Members) (key : String) : Bool :=
  ((members.lookup key).bind Value.asArray?).isSome

def hasKey (members : Members) (key : String) : Bool := (members.lookup key).isSome

/-! ## Kinds -/

def reference? (members : Members) : Option Node :=
  ((members.lookup "$ref").bind Value.asString?).map .reference

def constant? (members : Members) : Option Node := (members.lookup "const").map .constant

def enumeration? (members : Members) : Option Node :=
  ((members.lookup "enum").bind Value.asArray?).map .enumeration

def intersection? (members : Members) (parts : Parts) : Option Node :=
  if isArrayAt members "allOf" then some (.intersection (elementsAt parts "allOf")) else none

def requiredNames? (members : Members) : Option (List String) :=
  ((members.lookup "required").bind Value.asArray?).map fun names => names.filterMap Value.asString?

def additional (members : Members) (parts : Parts) : Additional Node :=
  match members.lookup "additionalProperties", parts.lookup "additionalProperties" with
  | some (.bool false), _ => .forbidden
  | some (.object _), some roles => .typed roles.node
  | _, _ => .untyped

/-- The object schema with the given members. -/
def objectOf (members : Members) (parts : Parts) : Node :=
  .object (((parts.lookup "properties").map Roles.named).getD []) (requiredNames? members)
    (additional members parts)

/-- The array schema with the given members: a tuple if its items are a list. -/
def arrayOf (members : Members) (parts : Parts) : Node :=
  if isArrayAt members "items" then .tuple (elementsAt parts "items")
  else .list ((parts.lookup "items").map Roles.node) (Constraints.ofMembers members)

/-- The schema narrowed to one type tag, if the tag is known. -/
def ofTag? (members : Members) (parts : Parts) (tag : String) : Option Node :=
  if tag = "object" then some (objectOf members parts)
  else if tag = "array" then some (arrayOf members parts)
  else (Primitive.ofTag? tag).map fun p => .primitive p (Constraints.ofMembers members)

/-- The strings of a list, each at its first place. -/
def distinctTags (tags : List Value) : List String :=
  (tags.filterMap Value.asString?).foldl (fun seen t => if seen.contains t then seen else seen ++ [t])
    []

def typeList? (members : Members) (parts : Parts) : Option Node :=
  ((members.lookup "type").bind Value.asArray?).map fun tags =>
    .typeList ((distinctTags tags).map fun tag => (ofTag? members parts tag).getD .unknown)

/-- The schema of a single type tag. Without a tag, keywords of objects make it one of objects. -/
def typed? (members : Members) (parts : Parts) : Option Node :=
  match (members.lookup "type").bind Value.asString? with
  | some tag => ofTag? members parts tag
  | none =>
    if hasKey members "properties" || hasKey members "additionalProperties" then
      some (objectOf members parts)
    else none

/-- Alternatives; `anyOf` is looked at only without `oneOf`. -/
def union? (members : Members) (parts : Parts) : Option Node :=
  let key := if hasKey members "oneOf" then "oneOf" else "anyOf"
  if isArrayAt members key then some (.union (elementsAt parts key)) else none

/-- The node of a schema with the given members. -/
def classify (members : Members) (parts : Parts) : Node :=
  (reference? members <|> constant? members <|> enumeration? members <|>
    intersection? members parts <|> typeList? members parts <|> typed? members parts <|>
    union? members parts).getD .unknown

/-! ## Reading -/

mutual

def roles : Value → Roles
  | .array values => ⟨.unknown, nodes values, []⟩
  | .object members =>
    let parts := rolesOfMembers members
    ⟨classify members parts, [], parts.map fun part => (part.1, part.2.node)⟩
  | _ => ⟨.unknown, [], []⟩
termination_by structural v => v

def nodes : List Value → List Node
  | [] => []
  | v :: rest => (roles v).node :: nodes rest
termination_by structural vs => vs

def rolesOfMembers : List (String × Value) → List (String × Roles)
  | [] => []
  | (key, v) :: rest => (key, roles v) :: rolesOfMembers rest
termination_by structural ms => ms

end

/-- The node of a raw schema. -/
def ofValue (schema : Value) : Node := (roles schema).node

end Node

end ContractInterface
