/-
The escapes of pattern text: characters by name or number, classes, and assertions. Without the
Unicode flag the classes are those of ASCII, and what could match half of an encoded character is
refused.
-/
import ContractInterface.Pattern.Flags

namespace ContractInterface.Pattern

inductive Escape where
  | char (c : Char)
  | set (s : CodePoints)
  | assertion (a : Assertion)

/-! ## Characters by number -/

def isHexDigit (c : Char) : Bool :=
  c.isDigit || ('a' ≤ c && c ≤ 'f') || ('A' ≤ c && c ≤ 'F')

/-- The character with a number in hexadecimal digits. -/
def hexChar? (digits : List Char) : Option Char :=
  let n := Unicode.readHex (digits.map Char.toUpper)
  if n.isValidChar then some (Char.ofNat n) else none

/-- A fixed number of hexadecimal digits. -/
def readFixedHex? (f : Flags) : Nat → List Char → Option (List Char × List Char)
  | 0, cs => some ([], cs)
  | n + 1, cs =>
    match cs with
    | c :: rest =>
      if isHexDigit c then
        (readFixedHex? f n (f.skip rest)).map fun (digits, rest) => (c :: digits, rest)
      else none
    | [] => none

/-- A character by its number, of `width` digits or in braces. -/
def readHex? (f : Flags) (width : Nat) (cs : List Char) : Option (Char × List Char) :=
  match f.skip cs with
  | '\x7b' :: rest => do
    let (digits, rest) ← readBraced? f.verbose false rest
    if digits.isEmpty ∨ ¬ digits.all isHexDigit then none
    else return (← hexChar? digits, rest)
  | cs => do
    let (digits, rest) ← readFixedHex? f width cs
    let c ← hexChar? digits
    -- two digits stand for an octet, which need not be a character
    if ¬ f.unicode ∧ width = 2 ∧ 0x7F < c.toNat then none else return (c, rest)

/-! ## Sets by name -/

/-- The text before and the text after the first place where a mark stands. -/
def cut? (mark : List Char) : List Char → Option (List Char × List Char)
  | [] => none
  | c :: rest =>
    if mark.isPrefixOf (c :: rest) then some ([], (c :: rest).drop mark.length)
    else (cut? mark rest).map fun (before, after) => (c :: before, after)

/-- The set of a name, or of a property and its value, and whether that is to be negated. -/
def propertySet? (name : List Char) : Option (CodePoints × Bool) :=
  let valued (before after : List Char) (negated : Bool) : Option (CodePoints × Bool) :=
    (Unicode.valued? (Unicode.plainName before) (Unicode.plainName after)).map fun s => (s, negated)
  match cut? ['!', '='] name, cut? [':'] name, cut? ['='] name with
  | some (before, after), _, _ => valued before after true
  | none, some (before, after), _ => valued before after false
  | none, none, some (before, after) => valued before after false
  | none, none, none => (Unicode.named? (Unicode.plainName name)).map fun s => (s, false)

/-- A set by its name in braces or by one letter. -/
def readProperty? (f : Flags) (negated : Bool) (cs : List Char) : Option (CodePoints × List Char) :=
  if ¬ f.unicode then none
  else do
    let (name, rest) ← match f.skip cs with
      | '\x7b' :: rest => readBraced? f.verbose false rest
      | '\\' :: _ => none
      | c :: rest => some ([c], rest)
      | [] => none
    let (s, opposite) ← propertySet? name
    return (← f.negate? (negated != opposite) (f.fold s), rest)

/-! ## Boundaries -/

/-- A boundary that is named in braces after its letter. Braces that do not start with a letter or
a hyphen are left for a repetition. -/
def readNamedBoundary? (f : Flags) (cs : List Char) : Option (Assertion × List Char) :=
  let plain : Assertion × List Char := (.boundary f.wordKind, cs)
  match cs with
  | '\x7b' :: rest => do
    let c ← (f.skip rest).head?
    if ¬ (c.isAlpha ∨ c = '-') then return plain
    else
      let (name, rest) ← readBraced? f.verbose false rest
      match String.ofList name with
      | "start" => return (.wordStart f.wordKind, rest)
      | "end" => return (.wordEnd f.wordKind, rest)
      | "start-half" => return (.beforeWord f.wordKind, rest)
      | "end-half" => return (.afterWord f.wordKind, rest)
      | _ => none
  | _ => some plain

/-! ## Escapes -/

/-- The escape after a backslash, and the rest of the text. -/
def readEscape? (f : Flags) : List Char → Option (Escape × List Char)
  | [] => none
  | c :: rest =>
    match c with
    | 'x' => (readHex? f 2 rest).map fun (c, rest) => (.char c, rest)
    | 'u' => (readHex? f 4 rest).map fun (c, rest) => (.char c, rest)
    | 'U' => (readHex? f 8 rest).map fun (c, rest) => (.char c, rest)
    | 'p' => (readProperty? f false rest).map fun (s, rest) => (.set s, rest)
    | 'P' => (readProperty? f true rest).map fun (s, rest) => (.set s, rest)
    | 'd' | 's' | 'w' => some (.set (f.letterClass c), rest)
    | 'D' | 'S' | 'W' => (f.negate? true (f.letterClass c.toLower)).map fun s => (.set s, rest)
    | 'a' => some (.char '\x07', rest)
    | 'f' => some (.char '\x0c', rest)
    | 't' => some (.char '\t', rest)
    | 'n' => some (.char '\n', rest)
    | 'r' => some (.char '\r', rest)
    | 'v' => some (.char '\x0b', rest)
    | 'A' => some (.assertion .textStart, rest)
    | 'z' => some (.assertion .textEnd, rest)
    | 'b' => (readNamedBoundary? f rest).map fun (a, rest) => (.assertion a, rest)
    | 'B' => some (.assertion (.noBoundary f.wordKind), rest)
    | '<' => some (.assertion (.wordStart f.wordKind), rest)
    | '>' => some (.assertion (.wordEnd f.wordKind), rest)
    | c => if c.toNat < 0x80 ∧ ¬ c.isAlphanum then some (.char c, rest) else none

end ContractInterface.Pattern
