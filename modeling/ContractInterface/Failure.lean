/-
Everything that can go wrong between a document and the answer to a call.
-/
import ContractInterface.Digest.Pin
import ContractInterface.Json.DecodeError
import ContractInterface.Shape.Conformance
import ContractInterface.Shape.Resolution
import ContractInterface.Version.Support

namespace ContractInterface

open Json

inductive Failure where
  /-- There is no file. -/
  | missingFile
  /-- The bytes of a file are no text. -/
  | notText
  | document (cause : DecodeError)
  | version (cause : SupportError)
  /-- Two functions have this name. -/
  | duplicateFunction (name : String)
  | pin (cause : PinError)
  | schema (cause : ResolveError)
  | unknownFunction (name : String)
  /-- No arguments for a function with parameters. -/
  | missingArguments (function : String)
  | invalidArguments (function : String) (mismatch : Mismatch)
  | transport (message : String)

def Failure.message : Failure → String
  | .missingFile => "io error: No such file or directory (os error 2)"
  | .notText => "io error: stream did not contain valid UTF-8"
  | .document cause => s!"abi document error: {cause.message}"
  | .version cause => s!"unsupported schema version: {cause.message}"
  | .duplicateFunction name => s!"duplicate function '{name}' in ABI"
  | .pin cause => s!"hash error: {cause.message}"
  | .schema cause => cause.message
  | .unknownFunction name => s!"unknown function '{name}'"
  | .missingArguments function => s!"missing required arguments for function '{function}'"
  | .invalidArguments function mismatch =>
    let text := mismatch.message "args"
    s!"invalid arguments for function '{function}': {text}"
  | .transport message => s!"transport error: {message}"

end ContractInterface
