/-
Interface documents: the functions of a contract with the schemas of what they take and give, and
the definitions that these schemas point into.
-/
import ContractInterface.Json.Value

namespace ContractInterface

open Json

/-! ## Functions -/

/-- How arguments and results are serialized. Only schemas of `json` are JSON schemas. -/
inductive Format where
  | json
  | borsh
deriving DecidableEq

def Format.name : Format → String
  | .json => "json"
  | .borsh => "borsh"

/-- The kind of a function, by any tag. Only `view` is told from the others. A kind is one that is read
from text, where the tag `view` always means a query; one that is put together in code with this tag as a
tag of its own, and so means a call, has no counterpart here. -/
structure Kind where
  tag : String
deriving DecidableEq

namespace Kind

def view : Kind := ⟨"view"⟩

def call : Kind := ⟨"call"⟩

end Kind

inductive Modifier where
  | initializer
  | restricted
  | payable
deriving DecidableEq

def Modifier.name : Modifier → String
  | .initializer => "init"
  | .restricted => "private"
  | .payable => "payable"

structure Parameter where
  name : String
  schema : Value

structure ParameterBlock where
  format : Format
  parameters : List Parameter

structure ResultBlock where
  format : Format
  schema : Value

structure Function where
  name : String
  doc : Option String
  kind : Option Kind
  modifiers : List Modifier
  params : Option ParameterBlock
  callbacks : List Value
  result : Option ResultBlock

namespace Function

/-- Whether a call only reads. -/
def isView (f : Function) : Bool := f.kind = some .view

def parameters (f : Function) : List Parameter :=
  match f.params with
  | some block => block.parameters
  | none => []

/-- Whether a caller must give arguments. -/
def requiresArgs (f : Function) : Bool := !f.parameters.isEmpty

end Function

/-! ## Documents -/

structure BuildInfo where
  compiler : Option String
  builder : Option String
  image : Option String

/-- What is told of a contract beside its interface. -/
structure Metadata where
  name : Option String
  version : Option String
  authors : List String
  build : Option BuildInfo
  wasmHash : Option String
  /-- Other members, in the order of their keys. -/
  other : Members

/-- The schema that holds the definitions. -/
structure RootSchema where
  dialect : Option String
  title : Option String
  /-- Raw schemas in the order of their names. -/
  definitions : Members
  /-- Raw schemas in the order of their names, from the other place for definitions. -/
  localDefinitions : Members
  /-- Other members, in their order. -/
  extra : Members

/-- The raw schemas of both places in the order of their names. Of two with one name, the one in
`definitions` counts. -/
def RootSchema.rawDefinitions (root : RootSchema) : Members :=
  Value.orderMembers <| root.definitions ++
    root.localDefinitions.filter fun (name, _) => (root.definitions.lookup name).isNone

structure Body where
  functions : List Function
  rootSchema : RootSchema

structure Document where
  schemaVersion : String
  metadata : Metadata
  body : Body

namespace Document

def functionNames (d : Document) : List String := d.body.functions.map (·.name)

/-- The first function of a name. -/
def function? (d : Document) (name : String) : Option Function :=
  d.body.functions.find? (·.name == name)

end Document

/-- Whether a value has the outline of a document. -/
def looksLikeDocument (v : Value) : Bool :=
  ((v.get? "schema_version").bind Value.asString?).isSome && (v.get? "metadata").isSome &&
    (match v.get? "body" with
      | some body =>
        ((body.get? "functions").bind Value.asArray?).isSome && (body.get? "root_schema").isSome
      | none => false)

end ContractInterface
