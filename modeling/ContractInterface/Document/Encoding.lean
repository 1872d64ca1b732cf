/-
The JSON form of a document. Members stand in the order of the fields; an absent field, and most
empty ones, are left out. The canonical text has the members of all objects in the order of their
keys, and the fingerprint is taken of it.
-/
import ContractInterface.Digest.Pin
import ContractInterface.Document.Basic
import ContractInterface.Json.Text

namespace ContractInterface

open Json

/-! ## Members -/

/-- A member that is there if the field is set. -/
def memberIf? {α : Type} (key : String) (encode : α → Value) (a : Option α) : Members :=
  match a with
  | some a => [(key, encode a)]
  | none => []

/-- A list member that is left out if it is empty. -/
def memberUnlessEmpty {α : Type} (key : String) (encode : α → Value) (items : List α) : Members :=
  if items.isEmpty then [] else [(key, .array (items.map encode))]

/-! ## Parts -/

def BuildInfo.toValue (b : BuildInfo) : Value :=
  .object <| memberIf? "compiler" .string b.compiler ++ memberIf? "builder" .string b.builder ++
    memberIf? "image" .string b.image

def Metadata.toValue (m : Metadata) : Value :=
  .object <| memberIf? "name" .string m.name ++ memberIf? "version" .string m.version ++
    memberUnlessEmpty "authors" .string m.authors ++ memberIf? "build" BuildInfo.toValue m.build ++
    memberIf? "wasm_hash" .string m.wasmHash ++ m.other

def Parameter.toValue (p : Parameter) : Value :=
  .object [("name", .string p.name), ("type_schema", p.schema)]

def ParameterBlock.toValue (b : ParameterBlock) : Value :=
  .object [("serialization_type", .string b.format.name),
    ("args", .array (b.parameters.map Parameter.toValue))]

def ResultBlock.toValue (b : ResultBlock) : Value :=
  .object [("serialization_type", .string b.format.name), ("type_schema", b.schema)]

def Function.toValue (f : Function) : Value :=
  .object <| [("name", .string f.name)] ++ memberIf? "doc" .string f.doc ++
    memberIf? "kind" (.string ·.tag) f.kind ++
    memberUnlessEmpty "modifiers" (.string ·.name) f.modifiers ++
    memberIf? "params" ParameterBlock.toValue f.params ++
    memberUnlessEmpty "callbacks" id f.callbacks ++
    memberIf? "result" ResultBlock.toValue f.result

def RootSchema.toValue (r : RootSchema) : Value :=
  .object <| memberIf? "$schema" .string r.dialect ++ memberIf? "title" .string r.title ++
    [("definitions", .object r.definitions)] ++
    (if r.localDefinitions.isEmpty then [] else [("$defs", .object r.localDefinitions)]) ++ r.extra

def Body.toValue (b : Body) : Value :=
  .object [("functions", .array (b.functions.map Function.toValue)),
    ("root_schema", b.rootSchema.toValue)]

/-! ## Documents -/

namespace Document

def toValue (d : Document) : Value :=
  .object [("schema_version", .string d.schemaVersion), ("metadata", d.metadata.toValue),
    ("body", d.body.toValue)]

/-- Compact text with the fields in their order. -/
def serialized (d : Document) : String := d.toValue.text

/-- Text that does not depend on the order of keys in the text that was read. -/
def canonicalText (d : Document) : String := d.toValue.ordered.text

def canonicalBytes (d : Document) : List UInt8 := d.canonicalText.toUTF8.toList

def fingerprint (d : Document) : String := fingerprintOf d.canonicalBytes

end Document

end ContractInterface
