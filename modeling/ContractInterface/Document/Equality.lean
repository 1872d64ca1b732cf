/-
Equality of documents: field by field, with raw values equal as JSON values. So the order of members
counts nowhere but in tables, which stand in the order of their names anyway.
-/
import ContractInterface.Document.Basic

namespace ContractInterface

open Json

/-- Both absent, or both there and the same. -/
def sameOption {α : Type} (same : α → α → Bool) : Option α → Option α → Bool
  | none, none => true
  | some a, some b => same a b
  | _, _ => false

/-- Tables with the same names in the same order, and the same values. -/
def sameTable (ms ns : Members) : Bool := ms.isEqv ns fun m n => m.1 == n.1 && m.2.same n.2

/-! ## Functions -/

def Parameter.same (p q : Parameter) : Bool := p.name == q.name && p.schema.same q.schema

def ParameterBlock.same (a b : ParameterBlock) : Bool :=
  a.format == b.format && a.parameters.isEqv b.parameters Parameter.same

def ResultBlock.same (a b : ResultBlock) : Bool := a.format == b.format && a.schema.same b.schema

def Function.same (f g : Function) : Bool :=
  f.name == g.name && f.doc == g.doc && f.kind == g.kind && f.modifiers == g.modifiers &&
    sameOption ParameterBlock.same f.params g.params && f.callbacks.isEqv g.callbacks Value.same &&
    sameOption ResultBlock.same f.result g.result

/-! ## Documents -/

def BuildInfo.same (a b : BuildInfo) : Bool :=
  a.compiler == b.compiler && a.builder == b.builder && a.image == b.image

def Metadata.same (m n : Metadata) : Bool :=
  m.name == n.name && m.version == n.version && m.authors == n.authors &&
    sameOption BuildInfo.same m.build n.build && m.wasmHash == n.wasmHash && sameTable m.other n.other

def RootSchema.same (r s : RootSchema) : Bool :=
  r.dialect == s.dialect && r.title == s.title && sameTable r.definitions s.definitions &&
    sameTable r.localDefinitions s.localDefinitions &&
    Value.same (.object r.extra) (.object s.extra)

def Body.same (a b : Body) : Bool :=
  a.functions.isEqv b.functions Function.same && a.rootSchema.same b.rootSchema

def Document.same (d e : Document) : Bool :=
  d.schemaVersion == e.schemaVersion && d.metadata.same e.metadata && d.body.same e.body

end ContractInterface
