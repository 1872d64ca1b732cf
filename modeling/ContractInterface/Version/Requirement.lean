/-
Version requirements: comparators that a version must all meet. A pre-release is only met by
requirements that name a pre-release of the same version.
-/
import ContractInterface.Version.Basic

namespace ContractInterface

/-! ## Requirements -/

inductive Comparison where
  | exact
  | greater
  | greaterEq
  | less
  | lessEq
  | tilde
  | caret

/-- A comparison with a version of which the last parts may be left open. -/
structure Comparator where
  comparison : Comparison
  major : Nat
  minor : Option Nat
  patch : Option Nat
  pre : List Identifier

/-- A requirement; without comparators it is met by every release. -/
structure Requirement where
  comparators : List Comparator

/-! ## Reading -/

def dropSpaces (cs : List Char) : List Char := cs.dropWhile (· = ' ')

/-- A wildcard at the start of a text. -/
def readWildcard? : List Char → Option (Char × List Char)
  | c :: rest => if c = '*' ∨ c = 'x' ∨ c = 'X' then some (c, rest) else none
  | [] => none

/-- The comparison at the start of a text, if one is written. -/
def readComparison? : List Char → Option (Comparison × List Char)
  | '=' :: rest => some (.exact, rest)
  | '>' :: '=' :: rest => some (.greaterEq, rest)
  | '>' :: rest => some (.greater, rest)
  | '<' :: '=' :: rest => some (.lessEq, rest)
  | '<' :: rest => some (.less, rest)
  | '~' :: rest => some (.tilde, rest)
  | '^' :: rest => some (.caret, rest)
  | _ => none

/-- What follows a number of a comparator: an open part, a number, or nothing. -/
inductive OpenPart where
  | absent
  | wildcard
  | number (n : Nat)

def OpenPart.number? : OpenPart → Option Nat
  | .number n => some n
  | _ => none

def readOpenPart (part : VersionPart) (afterWildcard : Bool) :
    List Char → Except VersionError (OpenPart × List Char)
  | '.' :: rest =>
    match readWildcard? rest with
    | some (_, rest) => .ok (.wildcard, rest)
    | none =>
      if afterWildcard then .error .unexpectedAfterWildcard
      else (part.readNumber rest).map fun (n, rest) => (.number n, rest)
  | rest => .ok (.absent, rest)

namespace Comparator

/-- A comparator at the start of a text, with the last part that was read and the rest. -/
def read (cs : List Char) : Except VersionError (Comparator × VersionPart × List Char) := do
  let (written, rest) := match readComparison? cs with
    | some (c, rest) => (some c, rest)
    | none => (none, cs)
  let (major, rest) ← VersionPart.major.readNumber (dropSpaces rest)
  let (minor, rest) ← readOpenPart .minor false rest
  let (patch, rest) ← readOpenPart .patch (minor matches .wildcard) rest
  let last : VersionPart := match minor, patch with
    | .absent, .absent => .major
    | _, .absent => .minor
    | _, _ => .patch
  let closed := patch.number?.isSome
  let (pre, rest) ← if closed then readMarked '-' readPre rest else pure ([], rest)
  let (build, rest) ← if closed then readMarked '+' readBuild rest else pure ([], rest)
  let last := if ¬ build.isEmpty then .build else if ¬ pre.isEmpty then .pre else last
  let unwritten : Comparison := match minor, patch with
    | .wildcard, _ | _, .wildcard => .exact
    | _, _ => .caret
  return (⟨written.getD unwritten, major, minor.number?, patch.number?, pre⟩, last, dropSpaces rest)

end Comparator

namespace Requirement

/-- The greatest number of comparators. -/
def maxComparators : Nat := 32

/-- A wildcard where a comparator should start is an error of its own, if it stands alone there. -/
def wildcardError (cs : List Char) (other : VersionError) : VersionError :=
  match readWildcard? cs with
  | none => other
  | some (c, rest) =>
    match dropSpaces rest with
    | [] | ',' :: _ => .wildcardNotAlone c
    | _ => other

/-- Comparators separated by commas; `room` more may follow the first one. -/
def readComparators : (room : Nat) → List Char → Except VersionError (List Comparator)
  | room, cs => do
    match Comparator.read cs with
    | .error e => .error (wildcardError cs e)
    | .ok (comparator, _, []) => return [comparator]
    | .ok (comparator, _, ',' :: rest) =>
      match room with
      | 0 => .error .tooManyComparators
      | room + 1 => return comparator :: (← readComparators room (dropSpaces rest))
    | .ok (_, last, c :: _) => .error (.commaExpected last c)

def parse (text : String) : Except VersionError Requirement :=
  let cs := dropSpaces text.toList
  match readWildcard? cs with
  | some (c, rest) =>
    match dropSpaces rest with
    | [] => .ok ⟨[]⟩
    | ',' :: _ => .error (.wildcardNotAlone c)
    | _ => .error .unexpectedAfterWildcard
  | none => (readComparators (maxComparators - 1) cs).map (⟨·⟩)

end Requirement

/-! ## Matching -/

namespace Comparator

/-- Equality in the parts that are given. -/
def meetsExact (c : Comparator) (v : Version) : Bool :=
  v.major == c.major && c.minor.all (v.minor == ·) && c.patch.all (v.patch == ·) &&
    comparePre v.pre c.pre == .eq

/-- How a version stands to the comparator, decided by the first part that differs; a part that is
left open decides nothing. -/
def order? (c : Comparator) (v : Version) : Option Ordering :=
  if v.major ≠ c.major then some (compare v.major c.major)
  else c.minor.bind fun minor =>
    if v.minor ≠ minor then some (compare v.minor minor)
    else c.patch.bind fun patch =>
      if v.patch ≠ patch then some (compare v.patch patch) else some (comparePre v.pre c.pre)

def meetsGreater (c : Comparator) (v : Version) : Bool := c.order? v == some .gt

def meetsLess (c : Comparator) (v : Version) : Bool := c.order? v == some .lt

/-- The same major and minor number, and a patch not below. -/
def meetsTilde (c : Comparator) (v : Version) : Bool :=
  v.major == c.major && c.minor.all (v.minor == ·) &&
    match c.patch with
    | some patch =>
      if v.patch ≠ patch then decide (patch < v.patch) else comparePre v.pre c.pre != .lt
    | none => comparePre v.pre c.pre != .lt

/-- The same leftmost number that is not zero, and nothing after it below. -/
def meetsCaret (c : Comparator) (v : Version) : Bool :=
  v.major == c.major &&
    match c.minor, c.patch with
    | none, _ => true
    | some minor, none => if 0 < c.major then decide (minor ≤ v.minor) else v.minor == minor
    | some minor, some patch =>
      if v.minor ≠ minor then decide (0 < c.major ∧ minor < v.minor)
      else if v.patch ≠ patch then decide ((0 < c.major ∨ 0 < minor) ∧ patch < v.patch)
      else comparePre v.pre c.pre != .lt

def meets (c : Comparator) (v : Version) : Bool :=
  match c.comparison with
  | .exact => c.meetsExact v
  | .greater => c.meetsGreater v
  | .greaterEq => c.meetsExact v || c.meetsGreater v
  | .less => c.meetsLess v
  | .lessEq => c.meetsExact v || c.meetsLess v
  | .tilde => c.meetsTilde v
  | .caret => c.meetsCaret v

/-- Whether the comparator names a pre-release of the same version. -/
def admitsPreOf (c : Comparator) (v : Version) : Bool :=
  c.major == v.major && c.minor == some v.minor && c.patch == some v.patch && !c.pre.isEmpty

end Comparator

def Requirement.meets (r : Requirement) (v : Version) : Bool :=
  r.comparators.all (·.meets v) && (v.pre.isEmpty || r.comparators.any (·.admitsPreOf v))

end ContractInterface
