/-
The flags that pattern text is read under, and what they decide: which blanks count, how sets are
closed under case and negated, and what a letter's class is.
-/
import ContractInterface.Pattern.Assertion

namespace ContractInterface.Pattern

structure Flags where
  ignoreCase : Bool
  multiLine : Bool
  dotAll : Bool
  carriageReturn : Bool
  /-- Repetitions are lazy where they are greedy otherwise. -/
  swapGreedy : Bool
  unicode : Bool
  verbose : Bool

namespace Flags

def default : Flags := ⟨false, false, false, false, false, true, false⟩

/-- Sets the flag of a letter. -/
def set? (f : Flags) (on : Bool) : Char → Option Flags
  | 'i' => some { f with ignoreCase := on }
  | 'm' => some { f with multiLine := on }
  | 's' => some { f with dotAll := on }
  | 'R' => some { f with carriageReturn := on }
  | 'U' => some { f with swapGreedy := on }
  | 'u' => some { f with unicode := on }
  | 'x' => some { f with verbose := on }
  | _ => none

def wordKind (f : Flags) : WordKind := if f.unicode then .unicode else .ascii

end Flags

/-! ## Blanks -/

def isBlank (c : Char) : Bool := Unicode.blanks.contains c.toNat

/-- Drops blanks and comments; a comment runs from `#` to the end of the line. -/
def dropVerbose (comment : Bool) : List Char → List Char
  | [] => []
  | c :: rest =>
    if comment then dropVerbose (c ≠ '\n') rest
    else if c = '#' then dropVerbose true rest
    else if isBlank c then dropVerbose false rest
    else c :: rest

/-- The text up to a closing brace and the text after it, without the blanks and comments of
verbose text. -/
def readBraced? (verbose comment : Bool) : List Char → Option (List Char × List Char)
  | [] => none
  | c :: rest =>
    if comment then readBraced? verbose (c ≠ '\n') rest
    else if verbose ∧ c = '#' then readBraced? verbose true rest
    else if verbose ∧ isBlank c then readBraced? verbose false rest
    else if c = '\x7d' then some ([], rest)
    else (readBraced? verbose false rest).map fun (name, rest) => (c :: name, rest)

namespace Flags

/-- The text from the next character that counts. -/
def skip (f : Flags) (cs : List Char) : List Char :=
  if f.verbose then dropVerbose false cs else cs

/-- The next character that counts, by a look ahead that stops inside comments. -/
def glimpse? (f : Flags) (cs : List Char) : Option Char :=
  if f.verbose then
    let ahead := match cs.dropWhile isBlank with
      | '#' :: rest => rest.dropWhile isBlank
      | rest => rest
    ahead.head? <|> cs.head?
  else cs.head?

/-! ## Sets -/

/-- The set closed under case, if case is ignored. -/
def fold (f : Flags) (s : CodePoints) : CodePoints :=
  if f.ignoreCase then
    if f.unicode then Unicode.foldCase s else CodePoints.inter (Unicode.foldCase s) [(0, 0x7F)]
  else s

/-- The set or its complement. Without the Unicode flag a complement could match half of an encoded
character, so there is none. -/
def negate? (f : Flags) (negated : Bool) (s : CodePoints) : Option CodePoints :=
  if negated then if f.unicode then some (s.complement CodePoints.top) else none
  else some s

/-- The classes of the letters `d`, `s` and `w`. -/
def letterClass (f : Flags) : Char → CodePoints
  | 'd' => if f.unicode then Unicode.digits else [(0x30, 0x39)]
  | 's' => if f.unicode then Unicode.blanks else [(0x09, 0x0D), (0x20, 0x20)]
  | _ => f.wordKind.characters

end Flags

/-- The classes of ASCII characters that a bracket names between colons. -/
def asciiClass? : String → Option CodePoints
  | "alnum" => some [(0x30, 0x39), (0x41, 0x5A), (0x61, 0x7A)]
  | "alpha" => some [(0x41, 0x5A), (0x61, 0x7A)]
  | "ascii" => some [(0, 0x7F)]
  | "blank" => some [(0x09, 0x09), (0x20, 0x20)]
  | "cntrl" => some [(0, 0x1F), (0x7F, 0x7F)]
  | "digit" => some [(0x30, 0x39)]
  | "graph" => some [(0x21, 0x7E)]
  | "lower" => some [(0x61, 0x7A)]
  | "print" => some [(0x20, 0x7E)]
  | "punct" => some [(0x21, 0x2F), (0x3A, 0x40), (0x5B, 0x60), (0x7B, 0x7E)]
  | "space" => some [(0x09, 0x0D), (0x20, 0x20)]
  | "upper" => some [(0x41, 0x5A)]
  | "word" => some asciiWord
  | "xdigit" => some [(0x30, 0x39), (0x41, 0x46), (0x61, 0x66)]
  | _ => none

end ContractInterface.Pattern
