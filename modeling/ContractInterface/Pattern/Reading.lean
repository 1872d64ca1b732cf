/-
Reading pattern text. A text that is no pattern, that nests too deep or whose automaton would be too
large has no expression.
-/
import ContractInterface.Pattern.Bracket
import ContractInterface.Pattern.Extent

namespace ContractInterface.Pattern

/-! ## Repetition -/

/-- Decimal digits with blanks around them; `fuel` bounds their number. -/
def readDigits (f : Flags) : (fuel : Nat) → List Char → List Char × List Char
  | 0, cs => ([], cs)
  | fuel + 1, cs =>
    match cs with
    | c :: rest =>
      if c.isDigit then
        let (digits, rest) := readDigits f fuel (f.skip rest)
        (c :: digits, rest)
      else ([], cs)
    | [] => ([], [])

/-- A count, if digits are there and their number fits a machine word. -/
def readCount (f : Flags) (cs : List Char) : Option Nat × List Char :=
  let (digits, rest) := readDigits f cs.length (cs.dropWhile isBlank)
  let n := Nat.ofDigitChars 10 digits 0
  (if digits.isEmpty ∨ UInt32.size ≤ n then none else some n, f.skip (rest.dropWhile isBlank))

/-- The bounds between braces, and the text after the closing one. -/
def readBounds? (f : Flags) (cs : List Char) : Option ((Nat × Option Nat) × List Char) := do
  let (least, rest) := readCount f (f.skip cs)
  let least ← least
  match rest with
  | '\x7d' :: rest => return ((least, some least), rest)
  | ',' :: rest =>
    match f.skip rest with
    | '\x7d' :: rest => return ((least, none), rest)
    | rest => do
      let (most, rest) := readCount f rest
      let most ← most
      match rest with
      | '\x7d' :: rest => if least ≤ most then return ((least, some most), rest) else none
      | _ => none
  | _ => none

/-- Whether a repetition is marked as lazy, and the text after the mark. -/
def readLazy : List Char → Bool × List Char
  | '?' :: rest => (true, rest)
  | cs => (false, cs)

/-! ## Groups -/

/-- Flags up to the colon or the closing parenthesis that ends them. `seen` holds the letters and
the hyphen so far, last first. -/
def readFlags? (f : Flags) (seen : List Char) : List Char → Option (Flags × Char × List Char)
  | [] => none
  | c :: rest =>
    if c = ':' ∨ c = ')' then
      if seen.head? = some '-' then none
      else if c = ')' ∧ seen.isEmpty then none
      else some (f, c, rest)
    else if seen.contains c then none
    else if c = '-' then readFlags? f ('-' :: seen) rest
    else
      match f.set? (!seen.contains '-') c with
      | some f => readFlags? f (c :: seen) rest
      | none => none

def isNameStart (c : Char) : Bool := c = '_' || Unicode.nameLetters.contains c.toNat

def isNamePart (c : Char) : Bool :=
  isNameStart c || c = '.' || c = '[' || c = ']' || Unicode.nameNumerals.contains c.toNat

/-- The name of a group up to its closing bracket. -/
def readName? (cs : List Char) : Option (String × List Char) :=
  let name := cs.takeWhile (· ≠ '>')
  match name, cs.dropWhile (· ≠ '>') with
  | c :: others, _ :: rest =>
    if isNameStart c ∧ others.all isNamePart then some (String.ofList name, rest) else none
  | _, _ => none

/-- The groups so far that capture. -/
structure Groups where
  count : Nat
  names : List String

def Groups.none : Groups := ⟨0, []⟩

/-- What an opening parenthesis starts. A group that captures has a number. -/
inductive Opening where
  | group (inner : Flags) (index : Option Nat) (groups : Groups)
  | setFlags (f : Flags)

/-- The text after an opening parenthesis. Names of groups must differ. -/
def readGroup? (f : Flags) (groups : Groups) (cs : List Char) :
    Option (Opening × List Char) :=
  let index := groups.count + 1
  let named (cs : List Char) : Option (Opening × List Char) := do
    let (name, rest) ← readName? cs
    if groups.names.contains name then none
    else return (.group f (some index) ⟨index, name :: groups.names⟩, rest)
  match cs with
  | '?' :: 'P' :: '<' :: rest => named rest
  | '?' :: '<' :: rest => named rest
  | '?' :: rest => do
    let (inner, last, rest) ← readFlags? f [] rest
    return (if last = ':' then .group inner none groups else .setFlags inner, rest)
  | cs => some (.group f (some index) { groups with count := index }, cs)

/-! ## Expressions -/

/-- What was read: an expression, or a setting of flags. Its depth counts the constructs that stand
inside each other in the text, also those that the expression has dropped. -/
structure Part where
  expression : Option Expression
  depth : Nat

/-- The depth of parts in a row or of branches. Two or more are one level of their own. -/
def rowDepth : List Part → Nat
  | [] => 0
  | [p] => p.depth
  | ps => ps.foldl (fun n p => max n p.depth) 0 + 1

/-- A group that is still open: the flags outside of it, its number if it captures, its finished
branches and the parts of the current one, last first. -/
structure Level where
  outer : Flags
  index : Option Nat
  branches : List Part
  parts : List Part

namespace Level

def push (l : Level) (p : Part) : Level := { l with parts := p :: l.parts }

def branch (l : Level) : Part :=
  ⟨some (Expression.inSequence (l.parts.reverse.filterMap Part.expression)), rowDepth l.parts⟩

def split (l : Level) : Level := { l with branches := l.branch :: l.branches, parts := [] }

/-- The contents of the group. -/
def contents (l : Level) : Expression × Nat :=
  let branches := l.split.branches
  (Expression.oneOf (branches.reverse.filterMap Part.expression), rowDepth branches)

/-- The group as a part of the one around it. -/
def close (l : Level) : Part :=
  let (e, depth) := l.contents
  ⟨some (l.index.elim e fun index => .group index e), depth + 1⟩

/-- Repeats the last part; there must be one. -/
def repeat? (l : Level) (least : Nat) (most : Option Nat) (greedy : Bool) : Option Level :=
  match l.parts with
  | ⟨some e, depth⟩ :: parts =>
    some { l with parts := ⟨some (e.repeated least most greedy), depth + 1⟩ :: parts }
  | _ => none

end Level

def literal (f : Flags) (c : Char) : Expression :=
  let s := CodePoints.single c.toNat
  .ofSet (if f.unicode ∨ c.toNat < 0x80 then f.fold s else s)

/-- Any character, but for line ends unless the flags include them. -/
def anyCharacter? (f : Flags) : Option Expression :=
  if ¬ f.unicode then none
  else
    let except : CodePoints :=
      if f.dotAll then [] else if f.carriageReturn then [(10, 10), (13, 13)] else [(10, 10)]
    some (.ofSet (except.complement CodePoints.top))

def startAssertion (f : Flags) : Assertion :=
  if ¬ f.multiLine then .textStart else if f.carriageReturn then .lineStartReturn else .lineStart

def endAssertion (f : Flags) : Assertion :=
  if ¬ f.multiLine then .textEnd else if f.carriageReturn then .lineEndReturn else .lineEnd

def Escape.expression (f : Flags) : Escape → Expression
  | .char c => literal f c
  | .set s => .ofSet s
  | .assertion a => .assertion a

/-- The greatest depth of a pattern. -/
def depthLimit : Nat := 250

/-- The expression of a text inside the open groups, and its depth; `fuel` bounds the number of its
parts. -/
def readExpression? :
    (fuel : Nat) → Flags → Groups → Level → List Level → List Char → Option (Expression × Nat)
  | 0, _, _, _, _, _ => none
  | fuel + 1, f, groups, level, outer, cs =>
    let item (e : Expression) (depth : Nat) (rest : List Char) : Option (Expression × Nat) :=
      readExpression? fuel f groups (level.push ⟨some e, depth⟩) outer rest
    let repeated (least : Nat) (most : Option Nat) (cs : List Char) : Option (Expression × Nat) := do
      let (lazy, rest) := readLazy cs
      let level ← level.repeat? least most (lazy == f.swapGreedy)
      readExpression? fuel f groups level outer rest
    match f.skip cs with
    | [] => if outer.isEmpty then some level.contents else none
    | '(' :: rest =>
      match readGroup? f groups (f.skip rest) with
      | some (.setFlags f, rest) =>
        readExpression? fuel f groups (level.push ⟨none, 0⟩) outer rest
      | some (.group inner index groups, rest) =>
        readExpression? fuel inner groups ⟨f, index, [], []⟩ (level :: outer) rest
      | none => none
    | ')' :: rest =>
      match outer with
      | parent :: outer =>
        readExpression? fuel level.outer groups (parent.push level.close) outer rest
      | [] => none
    | '|' :: rest => readExpression? fuel f groups level.split outer rest
    | '?' :: rest => repeated 0 (some 1) rest
    | '*' :: rest => repeated 0 none rest
    | '+' :: rest => repeated 1 none rest
    | '\x7b' :: rest => do
      let ((least, most), rest) ← readBounds? f rest
      repeated least most (f.skip rest)
    | '[' :: rest => do
      let (s, rest) ← readBracket? f rest
      item (.ofSet s.characters) s.depth rest
    | '\\' :: rest => do
      let (e, rest) ← readEscape? f rest
      item (e.expression f) 0 rest
    | '.' :: rest => do item (← anyCharacter? f) 0 rest
    | '^' :: rest => item (.assertion (startAssertion f)) 0 rest
    | '$' :: rest => item (.assertion (endAssertion f)) 0 rest
    | c :: rest => item (literal f c) 0 rest

/-- The expression of a pattern text. -/
def Expression.ofText? (text : String) : Option Expression := do
  let cs := text.toList
  let level : Level := ⟨Flags.default, none, [], []⟩
  let (e, depth) ← readExpression? (cs.length + 1) Flags.default .none level [] cs
  if depth ≤ depthLimit ∧ e.fits then some e else none

end ContractInterface.Pattern
