/-
Assertions about a place in the text: its edges, the edges of lines and those of words.
-/
import ContractInterface.Unicode.Classes

namespace ContractInterface.Pattern

/-- What is a word character. -/
inductive WordKind where
  | ascii
  | unicode
deriving DecidableEq

/-- Conditions on a place between two characters. -/
inductive Assertion where
  | textStart
  | textEnd
  | lineStart
  | lineEnd
  /-- Line starts and ends where a carriage return counts as a line end too. -/
  | lineStartReturn
  | lineEndReturn
  | boundary (kind : WordKind)
  | noBoundary (kind : WordKind)
  | wordStart (kind : WordKind)
  | wordEnd (kind : WordKind)
  | beforeWord (kind : WordKind)
  | afterWord (kind : WordKind)
deriving DecidableEq

def asciiWord : CodePoints := [(0x30, 0x39), (0x41, 0x5A), (0x5F, 0x5F), (0x61, 0x7A)]

def WordKind.characters : WordKind → CodePoints
  | .ascii => asciiWord
  | .unicode => Unicode.wordCharacters

/-- Whether there is a character and it is a word character. -/
def WordKind.isWord (kind : WordKind) (c : Option Char) : Bool :=
  c.any fun c => kind.characters.contains c.toNat

/-- Whether an assertion holds between the character before and the character after. -/
def Assertion.holds (before after : Option Char) : Assertion → Bool
  | .textStart => before.isNone
  | .textEnd => after.isNone
  | .lineStart => before.all (· == '\n')
  | .lineEnd => after.all (· == '\n')
  | .lineStartReturn => before.all fun c => c == '\n' || (c == '\r' && after != some '\n')
  | .lineEndReturn => after.all fun c => c == '\r' || (c == '\n' && before != some '\r')
  | .boundary kind => kind.isWord before != kind.isWord after
  | .noBoundary kind => kind.isWord before == kind.isWord after
  | .wordStart kind => !kind.isWord before && kind.isWord after
  | .wordEnd kind => kind.isWord before && !kind.isWord after
  | .beforeWord kind => !kind.isWord before
  | .afterWord kind => !kind.isWord after

end ContractInterface.Pattern
