/-
Contracts: a document bound to an account, with every schema resolved. There is one entry for each
function, in the order of the document.
-/
import ContractInterface.Call.Config
import ContractInterface.Call.Session
import ContractInterface.Document.Loading

namespace ContractInterface

open Json

/-! ## Entries -/

/-- A function with the shapes of its parameters and its result. -/
structure Entry where
  function : Function
  params : List (String × Shape)
  result : Option Shape

namespace Entry

section Resolving

variable {m : Type → Type} [Monad m] (shapeOf : Value → m Shape)

/-- The shapes of the parameters, where `shapeOf` gives those of schemas. What is not serialized as
JSON has no shape to hold to. -/
def resolveParams (f : Function) : m (List (String × Shape)) :=
  match f.params with
  | some ⟨.json, parameters⟩ => parameters.mapM fun p => do return (p.name, ← shapeOf p.schema)
  | some ⟨.borsh, parameters⟩ => return parameters.map fun p => (p.name, .any)
  | none => return []

def resolveResult (f : Function) : m (Option Shape) :=
  match f.result with
  | some ⟨.json, schema⟩ => do return some (← shapeOf schema)
  | some ⟨.borsh, _⟩ => return some .any
  | none => return none

/-- The entry of a function. Its schemas are asked for in the order in which they stand. -/
def resolveWith (f : Function) : m Entry := do
  let params ← resolveParams shapeOf f
  let result ← resolveResult shapeOf f
  return ⟨f, params, result⟩

end Resolving

/-- Resolves the schemas of a function. -/
def resolve (d : Definitions) : Function → ResolveM Entry :=
  resolveWith fun schema => Resolver.resolve d (Node.ofValue schema)

/-- The shape of all arguments together: exactly the parameters, by name. -/
def argumentsShape (e : Entry) : Shape :=
  match e.function.params with
  | some ⟨.borsh, _⟩ => .any
  | _ => .object (e.params.map fun (name, shape) => ⟨name, true, shape⟩) .forbidden

/-- The shape of the first parameter of a name. -/
def param? (e : Entry) (name : String) : Option Shape := e.params.lookup name

/-- The word for a kind in a diagnostic. -/
def kindText (kind : Option Kind) : String :=
  match kind with
  | none => "None"
  | some k =>
    if k = .view then "Some(View)"
    else if k = .call then "Some(Call)"
    else s!"Some(Other({quoted k.tag}))"

/-- A line of diagnostics. -/
def describe (e : Entry) (contractId : String) : String :=
  let names := ", ".intercalate (e.params.map fun (name, _) => quoted name)
  "DispatchEntry \x7b " ++
    s!"function: {quoted e.function.name}, kind: {kindText e.function.kind}, " ++
    s!"contract_id: {quoted contractId}, params: [{names}], has_result: {e.result.isSome}, .." ++
    " \x7d"

end Entry

/-! ## Contracts -/

/-- The table that the schemas of a document point into. -/
def Document.table (d : Document) : Definitions := .ofRaw d.body.rootSchema.rawDefinitions

structure Contract where
  id : String
  config : Config
  entries : List Entry

namespace Contract

def functionNames (c : Contract) : List String := c.entries.map (·.function.name)

def entry? (c : Contract) (name : String) : Option Entry :=
  c.entries.find? (·.function.name == name)

/-- The contract of a document: the document is checked first, and then all schemas are resolved by
one resolver. -/
def build (d : Document) (id : String) (config : Config) : Except Failure Contract := do
  d.check
  match d.body.functions.mapM (Entry.resolve d.table) Resolver.empty with
  | .ok entries _ => return ⟨id, config, entries⟩
  | .error e _ => throw (.schema e)

/-- Builds a contract within a session and notes it. The patterns that are skipped on the way are no lines
of a session; `Contract.trace` tells of them. -/
def synthesize (d : Document) (id : String) (config : Config) : SessionM Contract := do
  let c ← build d id config
  log .synthesized
  return c

end Contract

end ContractInterface
