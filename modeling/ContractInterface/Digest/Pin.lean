/-
Pins on content: the name of an algorithm, a colon and a digest in hexadecimal. SHA-256 is the only
algorithm; letters of the digest may be upper or lower case.
-/
import ContractInterface.Digest.Sha256

namespace ContractInterface

/-- Why content does not pass a pin. -/
inductive PinError where
  | malformed (pin : String)
  | unsupportedAlgorithm (name : String)
  | mismatch (expected actual : String)

def PinError.message : PinError → String
  | .malformed pin => s!"invalid hash format '{pin}'; expected 'algorithm:hex_digest'"
  | .unsupportedAlgorithm name => s!"unsupported hash algorithm '{name}'; supported: sha256"
  | .mismatch expected actual => s!"sha256 mismatch: expected {expected}, got {actual}"

/-! ## Hexadecimal -/

/-- Two lower-case digits for each byte. -/
def hexText (bytes : List UInt8) : String :=
  String.ofList (bytes.flatMap fun b =>
    [Nat.digitChar (b.toNat / 16), Nat.digitChar (b.toNat % 16)])

def sha256Hex (content : List UInt8) : String := hexText (Sha256.digest content)

/-- The pin that content passes. -/
def fingerprintOf (content : List UInt8) : String := "sha256:" ++ sha256Hex content

/-! ## Checking -/

/-- The text before the first colon and the text after it. -/
def splitAtColon : List Char → Option (List Char × List Char)
  | [] => none
  | ':' :: rest => some ([], rest)
  | c :: rest => (splitAtColon rest).map fun (before, after) => (c :: before, after)

/-- Equality up to the case of ASCII letters. -/
def sameIgnoringCase (a b : String) : Bool := a.toList.map Char.toLower == b.toList.map Char.toLower

def checkPin (content : List UInt8) (pin : String) : Except PinError Unit :=
  match splitAtColon pin.toList with
  | none => .error (.malformed pin)
  | some (algorithm, digest) =>
    if String.ofList algorithm = "sha256" then
      let expected := String.ofList digest
      let actual := sha256Hex content
      if sameIgnoringCase actual expected then .ok () else .error (.mismatch expected actual)
    else .error (.unsupportedAlgorithm (String.ofList algorithm))

end ContractInterface
