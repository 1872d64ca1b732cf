/-
Reading documents. `metadata` and `root_schema` keep the members that they do not know; other
records pass over them.
-/
import ContractInterface.Document.Basic
import ContractInterface.Json.Record

namespace ContractInterface

open Json

/-! ## Functions -/

/-- The alternatives of a type by their names. -/
def byName {α : Type} (name : α → String) (all : List α) : List (String × α) :=
  all.map fun a => (name a, a)

def Format.variants : List (String × Format) := byName name [.json, .borsh]

def Modifier.variants : List (String × Modifier) := byName name [.initializer, .restricted, .payable]

def Parameter.record : Record Parameter where
  name := "AbiParameter"
  blank := ⟨"", .null⟩
  fields := [
    .of "name" .required .text fun v p => { p with name := v },
    .of "type_schema" .optional .value fun v p => { p with schema := v }]
  addOther := none

/-- The parameters of a block, as the only field beside its tag. -/
def Parameter.listRecord : Record (List Parameter) where
  name := "AbiParameters"
  blank := []
  fields := [.of "args" .optional (.listOf record.decoder) fun v _ => v]
  addOther := none

def ParameterBlock.decoder : Decoder ParameterBlock := fun site d => do
  let block : Block Format (List Parameter) :=
    ⟨"AbiParameters", "serialization_type", Format.variants, Parameter.listRecord⟩
  let (format, parameters) ← block.decoder site d
  return ⟨format, parameters⟩

/-- The schema of a result, as the only field beside its tag. -/
def ResultBlock.schemaRecord : Record Value where
  name := "AbiType"
  blank := .null
  fields := [.of "type_schema" .optional .value fun v _ => v]
  addOther := none

def ResultBlock.decoder : Decoder ResultBlock := fun site d => do
  let block : Block Format Value :=
    ⟨"AbiType", "serialization_type", Format.variants, schemaRecord⟩
  let (format, schema) ← block.decoder site d
  return ⟨format, schema⟩

def Kind.decoder : Decoder Kind := fun site d => Kind.mk <$> Decoder.text site d

def Function.record : Record Function where
  name := "AbiFunction"
  blank := ⟨"", none, none, [], none, [], none⟩
  fields := [
    .of "name" .required .text fun v f => { f with name := v },
    .of "doc" .optional (.nullable .text) fun v f => { f with doc := v },
    .of "kind" .optional (.nullable Kind.decoder) fun v f => { f with kind := v },
    .of "modifiers" .optional (.listOf (.variant Modifier.variants)) fun v f =>
      { f with modifiers := v },
    .of "params" .optional (.nullable ParameterBlock.decoder) fun v f => { f with params := v },
    .of "callbacks" .optional (.listOf .value) fun v f => { f with callbacks := v },
    .of "result" .optional (.nullable ResultBlock.decoder) fun v f => { f with result := v }]
  addOther := none

/-! ## Documents -/

def BuildInfo.record : Record BuildInfo where
  name := "BuildInfo"
  blank := ⟨none, none, none⟩
  fields := [
    .of "compiler" .optional (.nullable .text) fun v b => { b with compiler := v },
    .of "builder" .optional (.nullable .text) fun v b => { b with builder := v },
    .of "image" .optional (.nullable .text) fun v b => { b with image := v }]
  addOther := none

def Metadata.blank : Metadata := ⟨none, none, [], none, none, []⟩

def Metadata.record : Record Metadata where
  name := "AbiMetadata"
  blank := blank
  fields := [
    .of "name" .optional (.nullable .text) fun v m => { m with name := v },
    .of "version" .optional (.nullable .text) fun v m => { m with version := v },
    .of "authors" .optional (.listOf .text) fun v m => { m with authors := v },
    .of "build" .optional (.nullable BuildInfo.record.decoder) fun v m => { m with build := v },
    .of "wasm_hash" .optional (.nullable .text) fun v m => { m with wasmHash := v }]
  addOther := some fun key v m => { m with other := m.other.set key v }

def Metadata.decoder : Decoder Metadata := fun site d => do
  let m ← record.decoder site d
  return { m with other := Value.orderMembers m.other }

def RootSchema.blank : RootSchema := ⟨none, none, [], [], []⟩

def RootSchema.record : Record RootSchema where
  name := "RootSchema"
  blank := blank
  fields := [
    .of "$schema" .optional (.nullable .text) fun v r => { r with dialect := v },
    .of "title" .optional (.nullable .text) fun v r => { r with title := v },
    .of "definitions" .optional .table fun v r => { r with definitions := v },
    .of "$defs" .optional .table fun v r => { r with localDefinitions := v }]
  addOther := some fun key v r => { r with extra := r.extra.set key v }

def Body.record : Record Body where
  name := "AbiBody"
  blank := ⟨[], .blank⟩
  fields := [
    .of "functions" .required (.listOf Function.record.decoder) fun v b => { b with functions := v },
    .of "root_schema" .required RootSchema.record.decoder fun v b => { b with rootSchema := v }]
  addOther := none

def Document.record : Record Document where
  name := "AbiDocument"
  blank := ⟨"", .blank, ⟨[], .blank⟩⟩
  fields := [
    .of "schema_version" .required .text fun v d => { d with schemaVersion := v },
    .of "metadata" .optional Metadata.decoder fun v d => { d with metadata := v },
    .of "body" .required Body.record.decoder fun v d => { d with body := v }]
  addOther := none

/-- The document of a text, not checked any further. -/
def Document.ofText (text : String) : Except DecodeError Document :=
  Decoder.ofText record.decoder text

end ContractInterface
