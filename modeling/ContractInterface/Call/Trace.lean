/-
All that building a contract logs. The lines of a session are those of the module that builds and calls
contracts; besides these, reading a schema notes each pattern that it skips. All schemas are read while a
contract is built, and none by its calls.
-/
import ContractInterface.Call.Contract
import ContractInterface.Schema.Skipped

namespace ContractInterface

open Json

/-! ## Events -/

/-- What any module logs. -/
inductive Event where
  /-- A pattern of this text is skipped, since it cannot be compiled. -/
  | skippedPattern (source : String)
  | contract (line : LogLine)

namespace Event

def text : Event → String
  | .skippedPattern _ => "DEBUG skipping uncompilable pattern"
  | .contract line => line.text

/-- The line of a session, if it is one. -/
def line? : Event → Option LogLine
  | .skippedPattern _ => none
  | .contract line => some line

/-- What is noted when a raw schema is read. -/
def ofReading (schema : Value) : List Event := (Node.skipped schema).map .skippedPattern

end Event

/-! ## Building -/

/-- A computation of the resolver that also keeps what has been logged so far. -/
abbrev TraceM := EStateM ResolveError (Resolver × List Event)

/-- What a computation answers, and the state as it leaves it. -/
def TraceM.outcome {α : Type} (x : TraceM α) (s : Resolver × List Event) :
    Except ResolveError α × Resolver × List Event :=
  match x s with
  | .ok a s => (.ok a, s)
  | .error e s => (.error e, s)

/-- The shape of a raw schema, which is read before it is resolved. -/
def readAndResolve (d : Definitions) (schema : Value) : TraceM Shape := fun (r, events) =>
  let events := events ++ Event.ofReading schema
  match Resolver.resolve d (Node.ofValue schema) r with
  | .ok s r => .ok s (r, events)
  | .error e r => .error e (r, events)

/-- What is noted when the definitions of a document are read, in the order of their names. -/
def Document.tableEvents (d : Document) : List Event :=
  d.body.rootSchema.rawDefinitions.flatMap fun m => Event.ofReading m.2

/-- Builds a contract, with all that is logged on the way. -/
def Contract.trace (d : Document) (id : String) (config : Config) :
    Except Failure Contract × List Event :=
  match d.check with
  | .error failure => (.error failure, [])
  | .ok () =>
    let entries := d.body.functions.mapM (Entry.resolveWith (readAndResolve d.table))
    match entries.outcome (.empty, d.tableEvents) with
    | (.ok entries, _, events) => (.ok ⟨id, config, entries⟩, events ++ [.contract .synthesized])
    | (.error e, _, events) => (.error (.schema e), events)

end ContractInterface
