/-
Where text may be cut: the values of the properties that place the boundaries of graphemes, words
and sentences. A value is named by its short or its long name.
-/
import ContractInterface.Unicode.Derived
import ContractInterface.Unicode.Script

namespace ContractInterface.Unicode

/-! ## Graphemes -/

/-- The code points that continue a grapheme, modifiers of emoji among them. -/
def graphemeContinue : CodePoints := CodePoints.union graphemeExtend (property "emod")

/-- Controls and what has no glyph, but for what joins or extends. -/
def graphemeControl : CodePoints :=
  CodePoints.diff
    (CodePoints.ofRanges (categories ["zl", "zp", "cc", "cf"] ++
      CodePoints.inter unassigned defaultIgnorable))
    (CodePoints.ofRanges ([(0x0A, 0x0A), (0x0D, 0x0D), (0x200C, 0x200D)] ++ property "pcm" ++
      graphemeExtend))

def graphemePrepend : CodePoints :=
  CodePoints.union (property "pcm") (readRanges [
    "D4E 111C2-111C3 113D1 1193F 11941 11A3A 11A84-11A89 11D46 11F02"])

/-- Spacing marks but for those that do not belong to the letter before them. -/
def graphemeSpacing : CodePoints :=
  CodePoints.diff
    (CodePoints.union (CodePoints.diff (categories ["mc"]) graphemeContinue)
      [(0xE33, 0xE33), (0xEB3, 0xEB3)])
    (readRanges [
      "102B 102C 1038 1062-1064 1067-106D 1083 1087-108C 108F 109A-109C 1A61 1A63 1A64 AA7B AA7D",
      "11720-11721"])

/-- The syllables of two letters, one in each block of those that start with the same two. -/
def hangulPairs : CodePoints :=
  (List.range 399).map fun k => (0xAC00 + 28 * k, 0xAC00 + 28 * k)

def graphemeBreak? (value : String) : Option CodePoints :=
  match value with
  | "cr" => some [(0x0D, 0x0D)]
  | "lf" => some [(0x0A, 0x0A)]
  | "cn" | "control" => some graphemeControl
  | "ex" | "extend" => some graphemeContinue
  | "zwj" => some [(0x200D, 0x200D)]
  | "ri" | "regionalindicator" => some (property "ri")
  | "pp" | "prepend" => some graphemePrepend
  | "sm" | "spacingmark" => some graphemeSpacing
  | "l" => some (readRanges ["1100-115F A960-A97C"])
  | "v" => some (readRanges ["1160-11A7 D7B0-D7C6 16D63 16D67-16D6A"])
  | "t" => some (readRanges ["11A8-11FF D7CB-D7FB"])
  | "lv" => some hangulPairs
  | "lvt" => some (CodePoints.diff [(0xAC00, 0xD7A3)] hangulPairs)
  | _ => none

/-! ## Words -/

/-- The code points that stay with the one before them. -/
def wordExtend : CodePoints :=
  CodePoints.diff
    (CodePoints.ofRanges (graphemeExtend ++ categories ["mc"] ++ property "emod"))
    (CodePoints.single 0x200D)

def wordFormat : CodePoints :=
  CodePoints.diff (categories ["cf"])
    (CodePoints.ofRanges ((0x200B, 0x200D) :: wordExtend ++ property "pcm"))

/-- Marks before numbers, but for one that stands in words. -/
def numberMarks : CodePoints := CodePoints.diff (property "pcm") (CodePoints.single 0x70F)

def wordNumeric : CodePoints :=
  CodePoints.ofRanges (categories ["nd"] ++ [(0x66B, 0x66B), (0x19DA, 0x19DA)] ++ numberMarks)

def hebrewLetters : CodePoints := readRanges [
  "5D0-5EA 5EF-5F2 FB1D FB1F-FB28 FB2A-FB36 FB38-FB3C FB3E FB40-FB41 FB43-FB44 FB46-FB4F"]

def katakana : CodePoints := readRanges [
  "3031-3035 309B-309C 30A0-30FA 30FC-30FF 31F0-31FF 32D0-32FE 3300-3357 FF66-FF9D 1AFF0-1AFF3",
  "1AFF5-1AFFB 1AFFD-1AFFE 1B000 1B120-1B122 1B155 1B164-1B167"]

/-- The code points of scripts that write words without blanks between them. -/
def unspaced : CodePoints := readRanges [
  "E01-E3A E40-E4E E81-E82 E84 E86-E8A E8C-EA3 EA5 EA7-EBD EC0-EC4 EC6 EC8-ECE EDC-EDF 1000-103F",
  "1050-108F 109A-109F 1780-17D3 17D7 17DC-17DD 1950-196D 1970-1974 1980-19AB 19B0-19C9 19DA",
  "19DE-19DF 1A20-1A5E 1A60-1A7C 1AA0-1AAD A9E0-A9EF A9FA-A9FE AA60-AAC2 AADB-AADF 11700-1171A",
  "1171D-1172B 1173A-1173B 1173F-11746"]

/-- Letters, and some signs that are read as letters, of scripts with blanks between words. -/
def wordLetters : CodePoints :=
  CodePoints.diff
    (CodePoints.union alphabetic (readRanges [
      "B8 2C2-2C5 2D2-2D7 2DE-2DF 2E5-2EB 2ED 2EF-2FF 55A-55C 55E 58A 5F3 70F A708-A716 A720-A721",
      "A789-A78A AB5B"]))
    (CodePoints.ofRanges (property "ideo" ++ katakana ++ unspaced ++
      (lookup? scriptTables "hira").getD [] ++ wordExtend ++ hebrewLetters))

def wordBreak? (value : String) : Option CodePoints :=
  match value with
  | "cr" => some [(0x0D, 0x0D)]
  | "lf" => some [(0x0A, 0x0A)]
  | "nl" | "newline" => some (readRanges ["B-C 85 2028-2029"])
  | "wsegspace" => some (readRanges ["20 1680 2000-2006 2008-200A 205F 3000"])
  | "extend" => some wordExtend
  | "zwj" => some [(0x200D, 0x200D)]
  | "fo" | "format" => some wordFormat
  | "ri" | "regionalindicator" => some (property "ri")
  | "ka" | "katakana" => some katakana
  | "hl" | "hebrewletter" => some hebrewLetters
  | "le" | "aletter" => some wordLetters
  | "sq" | "singlequote" => some [(0x27, 0x27)]
  | "dq" | "doublequote" => some [(0x22, 0x22)]
  | "mb" | "midnumlet" => some (readRanges ["2E 2018-2019 2024 FE52 FF07 FF0E"])
  | "ml" | "midletter" => some (readRanges ["3A B7 387 55F 5F4 2027 FE13 FE55 FF1A"])
  | "mn" | "midnum" => some (readRanges [
      "2C 3B 37E 589 60C-60D 66C 7F8 2044 FE10 FE14 FE50 FE54 FF0C FF1B"])
  | "nu" | "numeric" => some wordNumeric
  | "ex" | "extendnumlet" => some (readRanges ["5F 202F 203F-2040 2054 FE33-FE34 FE4D-FE4F FF3F"])
  | _ => none

/-! ## Sentences -/

/-- The capitals of a script whose letters have no lower case in running text. -/
def georgianCapitals : CodePoints := readRanges ["1C90-1CBA 1CBD-1CBF"]

def sentenceExtend : CodePoints :=
  CodePoints.ofRanges (graphemeExtend ++ categories ["mc"] ++ CodePoints.single 0x200D)

def sentenceFormat : CodePoints :=
  CodePoints.diff (categories ["cf"])
    (CodePoints.ofRanges ((0x200C, 0x200D) :: sentenceExtend ++ numberMarks))

def sentenceLower : CodePoints :=
  CodePoints.diff lowercase (CodePoints.union graphemeExtend [(0x10D0, 0x10FA), (0x10FD, 0x10FF)])

def sentenceUpper : CodePoints :=
  CodePoints.diff (CodePoints.union uppercase (categories ["lt"])) georgianCapitals

def sentenceLetters : CodePoints :=
  CodePoints.diff (CodePoints.union alphabetic (CodePoints.single 0x5F3))
    (CodePoints.ofRanges (sentenceLower ++ sentenceUpper ++ sentenceExtend))

def sentenceNumeric : CodePoints :=
  CodePoints.ofRanges (categories ["nd"] ++ [(0x66B, 0x66C), (0x19DA, 0x19DA)] ++ numberMarks)

def ambiguousStops : CodePoints := readRanges ["2E 2024 FE52 FF0E"]

def sentenceClose : CodePoints :=
  CodePoints.diff
    (CodePoints.union (categories ["ps", "pe", "pi", "pf"]) (readRanges [
      "22 27 275B-2760 2E00-2E01 2E06-2E08 2E0B 1F676-1F678"]))
    (CodePoints.union ambiguousStops (property "sterm"))

def sentenceBreak? (value : String) : Option CodePoints :=
  match value with
  | "cr" => some [(0x0D, 0x0D)]
  | "lf" => some [(0x0A, 0x0A)]
  | "ex" | "extend" => some sentenceExtend
  | "se" | "sep" => some (readRanges ["85 2028-2029"])
  | "fo" | "format" => some sentenceFormat
  | "sp" => some (readRanges ["9 B-C 20 A0 1680 2000-200A 202F 205F 3000"])
  | "lo" | "lower" => some sentenceLower
  | "up" | "upper" => some sentenceUpper
  | "le" | "oletter" => some sentenceLetters
  | "nu" | "numeric" => some sentenceNumeric
  | "at" | "aterm" => some ambiguousStops
  | "sc" | "scontinue" => some (readRanges [
      "2C-2D 3A-3B 37E 55D 60C-60D 7F8 1802 1808 2013-2014 3001 FE10-FE11 FE13-FE14 FE31-FE32",
      "FE50-FE51 FE54-FE55 FE58 FE63 FF0C-FF0D FF1A-FF1B FF64"])
  | "st" | "sterm" => some (CodePoints.diff (property "sterm") ambiguousStops)
  | "cl" | "close" => some sentenceClose
  | _ => none

end ContractInterface.Unicode
