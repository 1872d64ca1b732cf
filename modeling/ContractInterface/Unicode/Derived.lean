/-
Properties that the standard derives from general categories and from other properties.
-/
import ContractInterface.Unicode.Casing
import ContractInterface.Unicode.Category
import ContractInterface.Unicode.Property

namespace ContractInterface.Unicode

/-! ## Letters -/

def letters : CodePoints := categories ["lu", "ll", "lt", "lm", "lo"]

def alphabetic : CodePoints :=
  CodePoints.ofRanges (letters ++ categories ["nl"] ++ property "oalpha")

def mathematical : CodePoints := CodePoints.union (categories ["sm"]) (property "omath")

/-! ## Case -/

def lowercase : CodePoints := CodePoints.union (categories ["ll"]) (property "olower")

def uppercase : CodePoints := CodePoints.union (categories ["lu"]) (property "oupper")

def cased : CodePoints := CodePoints.ofRanges (lowercase ++ uppercase ++ categories ["lt"])

/-- Marks, signs of words and what modifies letters: case is judged across them. -/
def caseIgnorable : CodePoints :=
  CodePoints.ofRanges (categories ["mn", "me", "cf", "lm", "sk"] ++ readRanges [
    "27 2E 3A B7 387 55F 5F4 2018-2019 2024 2027 FE13 FE52 FE55 FF07 FF0E FF1A"])

def changesWhenLowercased : CodePoints :=
  CodePoints.diff (CodePoints.union uppercase (categories ["lt"])) withoutLowercase

def changesWhenUppercased : CodePoints :=
  CodePoints.diff (CodePoints.union lowercase (categories ["lt"])) withoutUppercase

def changesWhenTitlecased : CodePoints :=
  CodePoints.union (CodePoints.diff changesWhenUppercased ownTitlecase) capitalPairs

def changesWhenCasefolded : CodePoints :=
  CodePoints.union (CodePoints.diff changesWhenLowercased foldedCapital) foldedSmall

def changesWhenCasemapped : CodePoints :=
  CodePoints.ofRanges (changesWhenLowercased ++ changesWhenUppercased ++ changesWhenTitlecased)

/-! ## Identifiers -/

def patternCharacters : CodePoints := CodePoints.union (property "patsyn") (property "patws")

def idStart : CodePoints :=
  CodePoints.diff (CodePoints.ofRanges (letters ++ categories ["nl"] ++ property "oids"))
    patternCharacters

def idContinue : CodePoints :=
  CodePoints.diff
    (CodePoints.ofRanges (idStart ++ categories ["mn", "mc", "nd", "pc"] ++ property "oidc"))
    patternCharacters

/-- Code points whose compatibility form does not continue an identifier. -/
def unstable : CodePoints := readRanges [
  "37A 309B-309C FC5E-FC63 FDFA-FDFB FE70 FE72 FE74 FE76 FE78 FE7A FE7C FE7E"]

/-- The starts of identifiers whose compatibility form starts one too. -/
def xidStart : CodePoints :=
  CodePoints.diff idStart (CodePoints.union unstable (readRanges ["E33 EB3 FF9E-FF9F"]))

def xidContinue : CodePoints := CodePoints.diff idContinue unstable

/-! ## Graphemes -/

def defaultIgnorable : CodePoints :=
  CodePoints.diff (CodePoints.ofRanges (property "odi" ++ categories ["cf"] ++ property "vs"))
    (CodePoints.ofRanges (property "wspace" ++ property "pcm" ++
      [(0xFFF9, 0xFFFB), (0x13430, 0x1343F)]))

def graphemeExtend : CodePoints :=
  CodePoints.union (categories ["mn", "me"]) (property "ogrext")

def graphemeBase : CodePoints :=
  CodePoints.diff assigned
    (CodePoints.ofRanges (categories ["cc", "cf", "co", "zl", "zp"] ++ surrogates ++
      graphemeExtend))

/-! ## Names -/

/-- A derived property by its short or its long name. -/
def derived? (name : String) : Option CodePoints :=
  match name with
  | "alpha" | "alphabetic" => some alphabetic
  | "math" => some mathematical
  | "lower" | "lowercase" => some lowercase
  | "upper" | "uppercase" => some uppercase
  | "cased" => some cased
  | "ci" | "caseignorable" => some caseIgnorable
  | "cwl" | "changeswhenlowercased" => some changesWhenLowercased
  | "cwu" | "changeswhenuppercased" => some changesWhenUppercased
  | "cwt" | "changeswhentitlecased" => some changesWhenTitlecased
  | "cwcf" | "changeswhencasefolded" => some changesWhenCasefolded
  | "cwcm" | "changeswhencasemapped" => some changesWhenCasemapped
  | "ids" | "idstart" => some idStart
  | "idc" | "idcontinue" => some idContinue
  | "xids" | "xidstart" => some xidStart
  | "xidc" | "xidcontinue" => some xidContinue
  | "di" | "defaultignorablecodepoint" => some defaultIgnorable
  | "grext" | "graphemeextend" => some graphemeExtend
  | "grbase" | "graphemebase" => some graphemeBase
  | _ => none

end ContractInterface.Unicode
