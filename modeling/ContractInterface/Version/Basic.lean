/-
Semantic versions: three numbers, identifiers of a pre-release, identifiers of a build. Reading
names the first offending character and the part in which it stands.
-/
import ContractInterface.Text.Quoted

namespace ContractInterface

/-! ## Versions -/

/-- An identifier of a pre-release: a number, or a word with a letter or a hyphen. -/
inductive Identifier where
  | numeric (n : Nat)
  | word (s : String)
deriving DecidableEq

structure Version where
  major : Nat
  minor : Nat
  patch : Nat
  pre : List Identifier
  build : List String
deriving DecidableEq

/-- Parts of a version. -/
inductive VersionPart where
  | major
  | minor
  | patch
  | pre
  | build
deriving DecidableEq

def VersionPart.name : VersionPart → String
  | .major => "major version number"
  | .minor => "minor version number"
  | .patch => "patch version number"
  | .pre => "pre-release identifier"
  | .build => "build metadata"

inductive VersionError where
  | empty
  | unexpectedEnd (part : VersionPart)
  | unexpectedChar (part : VersionPart) (c : Char)
  | unexpectedCharAfter (part : VersionPart) (c : Char)
  | leadingZero (part : VersionPart)
  | overflow (part : VersionPart)
  | emptySegment (part : VersionPart)
  | commaExpected (part : VersionPart) (found : Char)
  | wildcardNotAlone (wildcard : Char)
  | unexpectedAfterWildcard
  | tooManyComparators
deriving DecidableEq

def VersionError.message : VersionError → String
  | .empty => "empty string, expected a semver version"
  | .unexpectedEnd part => s!"unexpected end of input while parsing {part.name}"
  | .unexpectedChar part c => s!"unexpected character {quotedChar c} while parsing {part.name}"
  | .unexpectedCharAfter part c => s!"unexpected character {quotedChar c} after {part.name}"
  | .leadingZero part => s!"invalid leading zero in {part.name}"
  | .overflow part => s!"value of {part.name} exceeds u64::MAX"
  | .emptySegment part => s!"empty identifier segment in {part.name}"
  | .commaExpected part found => s!"expected comma after {part.name}, found {quotedChar found}"
  | .wildcardNotAlone wildcard =>
    s!"wildcard req ({wildcard}) must be the only comparator in the version req"
  | .unexpectedAfterWildcard => "unexpected character after wildcard in version req"
  | .tooManyComparators => "excessive number of version comparators"

/-! ## Writing -/

def Identifier.text : Identifier → String
  | .numeric n => toString n
  | .word s => s

def Version.text (v : Version) : String :=
  let core := s!"{v.major}.{v.minor}.{v.patch}"
  let pre := if v.pre.isEmpty then "" else "-" ++ ".".intercalate (v.pre.map Identifier.text)
  let build := if v.build.isEmpty then "" else "+" ++ ".".intercalate v.build
  core ++ pre ++ build

/-! ## Reading parts -/

namespace VersionPart

/-- The number at the start of a text, digit by digit: a zero ends it, and so does a number beyond
one machine word. -/
def readDigits (part : VersionPart) (value : Nat) (first : Bool) :
    List Char → Except VersionError (Nat × List Char)
  | [] => if first then .error (.unexpectedEnd part) else .ok (value, [])
  | c :: rest =>
    if c.isDigit then
      if value = 0 ∧ ¬ first then .error (.leadingZero part)
      else
        let next := 10 * value + (c.toNat - '0'.toNat)
        if next < UInt64.size then readDigits part next false rest else .error (.overflow part)
    else if first then .error (.unexpectedChar part c)
    else .ok (value, c :: rest)

def readNumber (part : VersionPart) (cs : List Char) : Except VersionError (Nat × List Char) :=
  readDigits part 0 true cs

/-- The text after the dot that must follow a number. -/
def readDot (part : VersionPart) : List Char → Except VersionError (List Char)
  | '.' :: rest => .ok rest
  | c :: _ => .error (.unexpectedCharAfter part c)
  | [] => .error (.unexpectedEnd part)

end VersionPart

def isIdentifierChar (c : Char) : Bool := c.isAlphanum || c = '-'

/-- Dot-separated segments, `current` being the letters of the one that is read, last first. -/
def readSegments (part : VersionPart) (accept : List Char → Except VersionError α)
    (current : List Char) : List Char → Except VersionError (List α × List Char)
  | [] => do
    if current.isEmpty then .error (.emptySegment part) else
    return ([← accept current.reverse], [])
  | c :: rest =>
    if isIdentifierChar c then readSegments part accept (c :: current) rest
    else do
      if current.isEmpty then .error (.emptySegment part) else
      let segment ← accept current.reverse
      if c = '.' then
        let (segments, rest) ← readSegments part accept [] rest
        return (segment :: segments, rest)
      else return ([segment], c :: rest)

/-- A segment of a pre-release. A number has no leading zero. -/
def readIdentifier (segment : List Char) : Except VersionError Identifier :=
  if segment.all Char.isDigit then
    match segment with
    | '0' :: _ :: _ => .error (.leadingZero .pre)
    | _ => .ok (.numeric (Nat.ofDigitChars 10 segment 0))
  else .ok (.word (String.ofList segment))

def readPre (cs : List Char) : Except VersionError (List Identifier × List Char) :=
  readSegments .pre readIdentifier [] cs

def readBuild (cs : List Char) : Except VersionError (List String × List Char) :=
  readSegments .build (fun segment => .ok (String.ofList segment)) [] cs

/-! ## Reading a version -/

/-- The identifiers after a mark, or none without it. -/
def readMarked (mark : Char) (read : List Char → Except VersionError (List α × List Char)) :
    List Char → Except VersionError (List α × List Char)
  | c :: rest => if c = mark then read rest else .ok ([], c :: rest)
  | [] => .ok ([], [])

def Version.parse (text : String) : Except VersionError Version := do
  if text.isEmpty then .error .empty else
  let (major, rest) ← VersionPart.major.readNumber text.toList
  let (minor, rest) ← VersionPart.minor.readNumber (← VersionPart.major.readDot rest)
  let (patch, rest) ← VersionPart.patch.readNumber (← VersionPart.minor.readDot rest)
  let (pre, rest) ← readMarked '-' readPre rest
  let (build, rest) ← readMarked '+' readBuild rest
  match rest with
  | [] => return ⟨major, minor, patch, pre, build⟩
  | c :: _ =>
    let part : VersionPart :=
      if ¬ build.isEmpty then .build else if ¬ pre.isEmpty then .pre else .patch
    .error (.unexpectedCharAfter part c)

/-! ## Precedence -/

/-- Numbers come before words; numbers compare by value, words by their characters. -/
def Identifier.compare : Identifier → Identifier → Ordering
  | .numeric m, .numeric n => Ord.compare m n
  | .numeric _, .word _ => .lt
  | .word _, .numeric _ => .gt
  | .word s, .word t => Ord.compare s t

/-- Fewer identifiers come first if all before are equal. -/
def compareIdentifiers : List Identifier → List Identifier → Ordering
  | [], [] => .eq
  | [], _ :: _ => .lt
  | _ :: _, [] => .gt
  | a :: as, b :: bs => (a.compare b).then (compareIdentifiers as bs)

/-- A release comes after all its pre-releases. -/
def comparePre : List Identifier → List Identifier → Ordering
  | [], [] => .eq
  | [], _ :: _ => .gt
  | _ :: _, [] => .lt
  | as, bs => compareIdentifiers as bs

end ContractInterface
