/-
The sets of code points that patterns and quoting name: properties, categories and scripts by
their names, and the classes of digits, blanks, word characters and characters without a glyph.
-/
import ContractInterface.Unicode.Age
import ContractInterface.Unicode.Boundary
import ContractInterface.Unicode.Folding
import ContractInterface.Unicode.Later
import ContractInterface.Unicode.ScriptExtension

namespace ContractInterface.Unicode

/-! ## Names -/

/-- A name without a leading `is`, without blanks, underscores and hyphens, in lower case. -/
def plainName (name : List Char) : String :=
  let plain (cs : List Char) : List Char :=
    (cs.filter fun c => c.toNat < 0x80 ∧ c ≠ ' ' ∧ c ≠ '_' ∧ c ≠ '-').map Char.toLower
  match name with
  | i :: s :: rest =>
    if i.toLower = 'i' ∧ s.toLower = 's' then
      -- `isc` is a name of its own
      String.ofList (if plain rest = ['c'] then ['i', 's', 'c'] else plain rest)
    else String.ofList (plain name)
  | _ => String.ofList (plain name)

/-- A set by its name alone: a property, a category or a script. The short names `cf`, `sc` and
`lc` are those of categories. -/
def named? (name : String) : Option CodePoints :=
  if name = "cf" ∨ name = "sc" ∨ name = "lc" then category? name
  else
    lookup? propertyTables name <|> derived? name <|> category? name <|> lookup? scriptTables name

/-- A set by the names of a property and of its value. -/
def valued? (property value : String) : Option CodePoints :=
  match property with
  | "gc" | "generalcategory" => category? value
  | "sc" | "script" => lookup? scriptTables value
  | "scx" | "scriptextensions" => usedInScript? value
  | "age" => assignedBy? value
  | "gcb" | "graphemeclusterbreak" => graphemeBreak? value
  | "wb" | "wordbreak" => wordBreak? value
  | "sb" | "sentencebreak" => sentenceBreak? value
  | _ => none

/-! ## Classes -/

def digits : CodePoints := categories ["nd"]

def blanks : CodePoints := property "wspace"

/-- Letters, marks, decimal digits, connecting punctuation and join controls. -/
def wordCharacters : CodePoints :=
  CodePoints.ofRanges (alphabetic ++ categories ["mn", "mc", "me", "nd", "pc"] ++ property "joinc")

/-! ## Names of groups -/

def nameLetters : CodePoints := CodePoints.union alphabetic laterAlphabetic

def nameNumerals : CodePoints := CodePoints.union (categories ["nd", "nl", "no"]) laterNumeric

/-! ## Quoting -/

/-- The code points that quoting writes by number: separators but for the blank, controls, private
and unassigned ones, those that are ignored by default and those that extend the character before
them, but for two marks that have a width of their own. -/
def unprintable : CodePoints :=
  CodePoints.ofRanges (
    CodePoints.diff
      (CodePoints.ofRanges (categories ["cc", "cf", "co", "zl", "zp", "zs"] ++
        CodePoints.diff unassigned laterAssigned))
      [(0x20, 0x20)] ++
    defaultIgnorable ++
    CodePoints.diff (CodePoints.union graphemeExtend laterExtending) [(0xFF9E, 0xFF9F)])

end ContractInterface.Unicode
