/-
Bracketed sets of pattern text: characters, ranges, classes, nested brackets, and the operations
between what stands left and right of them. Beside a set stands its depth: how many brackets,
operations and rows of items stand inside each other.
-/
import ContractInterface.Pattern.Escape

namespace ContractInterface.Pattern

/-! ## Operations -/

inductive SetOperation where
  | inter
  | diff
  | symmDiff

def SetOperation.apply : SetOperation → CodePoints → CodePoints → CodePoints
  | .inter, s, t => CodePoints.inter s t
  | .diff, s, t => CodePoints.diff s t
  | .symmDiff, s, t => CodePoints.symmDiff s t

/-- A set and its depth. -/
structure DeepSet where
  characters : CodePoints
  depth : Nat

/-- Items in a row. -/
structure Items where
  characters : CodePoints
  count : Nat
  deepest : Nat

def Items.empty : Items := ⟨[], 0, 0⟩

def Items.push (items : Items) (s : DeepSet) : Items :=
  ⟨items.characters.union s.characters, items.count + 1, max items.deepest s.depth⟩

/-- A row of two or more items is one level of its own. -/
def Items.row (items : Items) : DeepSet :=
  ⟨items.characters, if items.count ≤ 1 then items.deepest else items.deepest + 1⟩

/-- The left side of an operation whose right side is still read. -/
abbrev LeftSide := Option (SetOperation × DeepSet)

/-- The set of an operation with its right side. Case is folded on both sides before. -/
def Flags.combine (f : Flags) (left : LeftSide) (right : DeepSet) : DeepSet :=
  match left with
  | none => right
  | some (operation, s) =>
    ⟨operation.apply (f.fold s.characters) (f.fold right.characters), max s.depth right.depth + 1⟩

/-- The set of a bracket with such contents. -/
def Flags.close? (f : Flags) (negated : Bool) (s : DeepSet) : Option DeepSet :=
  (f.negate? negated (f.fold s.characters)).map fun t => ⟨t, s.depth + 1⟩

/-! ## Items -/

/-- A named class after `[:`, or nothing if the text does not go on as one. -/
def readAsciiClass? (cs : List Char) : Option ((Bool × CodePoints) × List Char) :=
  let (negated, cs) := match cs with
    | '^' :: rest => (true, rest)
    | cs => (false, cs)
  let name := cs.takeWhile (· ≠ ':')
  match cs.dropWhile (· ≠ ':') with
  | ':' :: ']' :: rest => (asciiClass? (String.ofList name)).map fun s => ((negated, s), rest)
  | _ => none

/-- A character or a class in brackets. -/
def readAtom? (f : Flags) : List Char → Option (Escape × List Char)
  | '\\' :: rest => readEscape? f rest
  | c :: rest => some (.char c, rest)
  | [] => none

/-- The set of a single item. -/
def Escape.alone? (f : Flags) : Escape → Option CodePoints
  | .char c => if f.unicode ∨ c.toNat < 0x80 then some (CodePoints.single c.toNat) else none
  | .set s => some s
  | .assertion _ => none

/-- The set of a range. Its ends are characters in order. -/
def rangeSet? (f : Flags) : Escape → Escape → Option CodePoints
  | .char a, .char b =>
    if a ≤ b ∧ (f.unicode ∨ b.toNat < 0x80) then some [(a.toNat, b.toNat)] else none
  | _, _ => none

/-- An item or a range at the start of a text. A hyphen before a closing bracket or a second hyphen
makes no range. -/
def readItem? (f : Flags) (cs : List Char) : Option (CodePoints × List Char) := do
  let (first, rest) ← readAtom? f cs
  match f.skip rest with
  | '-' :: rest =>
    if f.glimpse? rest = some ']' ∨ f.glimpse? rest = some '-' then
      return (← first.alone? f, '-' :: rest)
    else
      let (last, rest) ← readAtom? f (f.skip rest)
      return (← rangeSet? f first last, rest)
  | rest => return (← first.alone? f, rest)

/-! ## Brackets -/

/-- Hyphens at the start of a bracket stand for themselves. -/
def readHyphens (verbose comment : Bool) : List Char → Items × List Char
  | [] => (.empty, [])
  | c :: rest =>
    if comment then readHyphens verbose (c ≠ '\n') rest
    else if verbose ∧ c = '#' then readHyphens verbose true rest
    else if verbose ∧ isBlank c then readHyphens verbose false rest
    else if c = '-' then
      let (items, rest) := readHyphens verbose false rest
      (items.push ⟨CodePoints.single c.toNat, 0⟩, rest)
    else (.empty, c :: rest)

/-- What a bracket starts with: whether it is negated, and the characters that stand for themselves
only there. -/
def readOpening (f : Flags) (cs : List Char) : Bool × Items × List Char :=
  let (negated, cs) := match f.skip cs with
    | '^' :: rest => (true, rest)
    | cs => (false, cs)
  let (items, cs) := readHyphens f.verbose false cs
  match items.count, cs with
  | 0, ']' :: rest => (negated, items.push ⟨CodePoints.single ']'.toNat, 0⟩, f.skip rest)
  | _, cs => (negated, items, cs)

/-- The contents of a bracket and the rest of the text after it; `fuel` bounds the number of items.
The items so far stand right of the operation `left`. -/
def readItems? (f : Flags) :
    (fuel : Nat) → LeftSide → Items → List Char → Option (DeepSet × List Char)
  | 0, _, _, _ => none
  | fuel + 1, left, items, cs =>
    match f.skip cs with
    | [] => none
    | ']' :: rest => some (f.combine left items.row, rest)
    | '&' :: '&' :: rest => readItems? f fuel (some (.inter, f.combine left items.row)) .empty rest
    | '-' :: '-' :: rest => readItems? f fuel (some (.diff, f.combine left items.row)) .empty rest
    | '~' :: '~' :: rest =>
      readItems? f fuel (some (.symmDiff, f.combine left items.row)) .empty rest
    | '[' :: rest =>
      let named := match rest with
        | ':' :: rest => readAsciiClass? rest
        | _ => none
      match named with
      | some ((negated, s), rest) => do
        let s ← f.negate? negated (f.fold s)
        readItems? f fuel left (items.push ⟨s, 0⟩) rest
      | none => do
        let (negated, first, rest) := readOpening f rest
        let (s, rest) ← readItems? f fuel none first rest
        readItems? f fuel left (items.push (← f.close? negated s)) rest
    | cs => do
      let (s, rest) ← readItem? f cs
      readItems? f fuel left (items.push ⟨s, 0⟩) rest

/-- The set of a bracket, read after its opening. -/
def readBracket? (f : Flags) (cs : List Char) : Option (DeepSet × List Char) := do
  let (negated, first, rest) := readOpening f cs
  let (s, rest) ← readItems? f (cs.length + 1) none first rest
  return (← f.close? negated s, rest)

end ContractInterface.Pattern
