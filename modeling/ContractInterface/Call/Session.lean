/-
A session of calls against canned responses: what has been sent so far and what has been logged. A
method without a response answers null.
-/
import ContractInterface.Call.Options
import ContractInterface.Failure

namespace ContractInterface

open Json

/-! ## Calls -/

/-- The way of a call: a query, or a transaction with its options. -/
inductive CallPath where
  | view
  | call (options : TransactionOptions)

/-- A call as the network sees it. -/
structure RecordedCall where
  path : CallPath
  contractId : String
  method : String
  args : Value

/-- What a method answers: a value, or a message of failure. -/
abbrev Response := Except String Value

/-- A line of the module that builds and calls contracts. What reading a schema logs is no such line
(`Event` has both). -/
inductive LogLine where
  | synthesized
  /-- Options of a transaction were given for a query. -/
  | optionsIgnored
  | view
  | call
  | resultMismatch (mismatch : Mismatch)

def LogLine.text : LogLine → String
  | .synthesized => "DEBUG synthesized contract"
  | .optionsIgnored => "DEBUG ignoring gas/deposit/wait options for view function"
  | .view => "DEBUG view"
  | .call => "DEBUG call"
  | .resultMismatch mismatch =>
    "WARN result does not match declared shape: " ++ mismatch.message "result"

/-! ## Sessions -/

/-- The responses by method, and the calls and the lines of contracts so far, oldest first. -/
structure Session where
  responses : List (String × Response)
  calls : List RecordedCall
  log : List LogLine

/-- A computation that may fail and keeps the session in either case. -/
abbrev SessionM := ExceptT Failure (StateM Session)

namespace Session

/-- A session with no calls. Of two responses for one method the later one counts. -/
def start (responses : List (String × Response)) : Session := ⟨responses.reverse, [], []⟩

def note (s : Session) (line : LogLine) : Session := { s with log := s.log ++ [line] }

def answer (s : Session) (method : String) : Response :=
  (s.responses.lookup method).getD (.ok .null)

end Session

def log (line : LogLine) : SessionM Unit := modify (·.note line)

/-- Sends a call and gives its answer. -/
def send (call : RecordedCall) : SessionM Value := do
  modify fun s => { s with calls := s.calls ++ [call] }
  match (← get).answer call.method with
  | .ok v => return v
  | .error message => throw (.transport message)

end ContractInterface
