/-
Calls of a contract: arguments are checked, a query or a transaction is sent, and its answer is
given back as it is. A result of the wrong shape is only noted.
-/
import ContractInterface.Call.Contract

namespace ContractInterface

open Json

/-- What a caller gives with a call. -/
structure Request where
  args : Option Value
  options : TransactionOptions

namespace Entry

/-- The arguments that are sent: null and absence both stand for none, which only a function
without parameters takes. -/
def arguments (e : Entry) (config : Config) (args : Option Value) : Except Failure Value := do
  let name := e.function.name
  let args ←
    if args.all Value.isNull then
      if e.function.requiresArgs then throw (.missingArguments name) else pure (.object [])
    else pure (args.getD .null)
  if config.checksArguments then
    (e.argumentsShape.check args).mapError (.invalidArguments name)
  return args

/-- Sends arguments on the way of the function. A query has no options. -/
def dispatch (e : Entry) (contractId : String) (args : Value) (options : TransactionOptions) :
    SessionM Value := do
  if e.function.isView then
    if options ≠ .empty then log .optionsIgnored
    log .view
    send ⟨.view, contractId, e.function.name, args⟩
  else
    log .call
    send ⟨.call options, contractId, e.function.name, args⟩

/-- Notes a result that does not conform to the shape, if there is one. -/
def checkResult (e : Entry) (result : Value) : SessionM Unit := do
  match e.result with
  | none => return ()
  | some shape =>
    match shape.check result with
    | .ok _ => return ()
    | .error mismatch => log (.resultMismatch mismatch)

end Entry

namespace Contract

/-- Calls a function. -/
def call (c : Contract) (name : String) (request : Request) : SessionM Value := do
  match c.entry? name with
  | none => throw (.unknownFunction name)
  | some e =>
    let args ← e.arguments c.config request.args
    let result ← e.dispatch c.id args request.options
    if c.config.checksResults then e.checkResult result
    return result

end Contract

end ContractInterface
