/-
Loading documents: text is decoded, then the document is checked, then its pin if there is one. The
first of these that fails is what is told.
-/
import ContractInterface.Document.Decoding
import ContractInterface.Document.Encoding
import ContractInterface.Failure

namespace ContractInterface

open Json

namespace Document

/-! ## Checks -/

/-- The first name that stands earlier in the list too, after the names `seen`. -/
def firstRepeated? (seen : List String) : List String → Option String
  | [] => none
  | name :: rest => if seen.contains name then some name else firstRepeated? (name :: seen) rest

/-- A document is of a supported version, and its functions have different names. -/
def check (d : Document) : Except Failure Unit := do
  (checkVersion d.schemaVersion).mapError .version
  match firstRepeated? [] d.functionNames with
  | some name => throw (.duplicateFunction name)
  | none => return ()

/-! ## Loading -/

/-- The document of a text, checked. -/
def parse (text : String) : Except Failure Document := do
  let d ← (ofText text).mapError .document
  d.check
  return d

/-- The document of a text whose fingerprint is the pin. -/
def parsePinned (text pin : String) : Except Failure Document := do
  let d ← parse text
  (checkPin d.canonicalBytes pin).mapError .pin
  return d

/-- The document of a file with these bytes, or of a file that is not there. -/
def ofFile (content : Option ByteArray) : Except Failure Document :=
  match content with
  | none => .error .missingFile
  | some bytes =>
    match String.fromUTF8? bytes with
    | none => .error .notText
    | some text => parse text

end Document

end ContractInterface
