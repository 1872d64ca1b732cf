/-
Sets of code points as ascending ranges that neither overlap nor touch, and the tables in which the
standard's sets are written down.
-/
namespace ContractInterface

/-- A set of code points, as closed ranges. -/
abbrev CodePoints := List (Nat × Nat)

namespace CodePoints

/-- The greatest code point. -/
def top : Nat := 0x10FFFF

def contains (s : CodePoints) (n : Nat) : Bool := s.any fun r => decide (r.1 ≤ n ∧ n ≤ r.2)

/-! ## Normal form -/

/-- Joins ascending ranges to the last one so far where they overlap or touch. -/
def join (last : Nat × Nat) : List (Nat × Nat) → CodePoints
  | [] => [last]
  | r :: rest =>
    if r.1 ≤ last.2 + 1 then join (last.1, max last.2 r.2) rest else last :: join r rest

def ofRanges (ranges : List (Nat × Nat)) : CodePoints :=
  match ranges.mergeSort fun a b => decide (a.1 ≤ b.1) with
  | [] => []
  | r :: rest => join r rest

def single (n : Nat) : CodePoints := [(n, n)]

/-! ## Set operations -/

def union (s t : CodePoints) : CodePoints := ofRanges (s ++ t)

/-- The gaps between the ranges from `next` up to `last`. -/
def gaps (last next : Nat) : CodePoints → CodePoints
  | [] => if next ≤ last then [(next, last)] else []
  | r :: rest =>
    if next < r.1 then (next, r.1 - 1) :: gaps last (r.2 + 1) rest else gaps last (r.2 + 1) rest

/-- The code points up to `last` outside the set. -/
def complement (last : Nat) (s : CodePoints) : CodePoints := gaps last 0 s

def inter (s t : CodePoints) : CodePoints :=
  complement top (union (complement top s) (complement top t))

def diff (s t : CodePoints) : CodePoints := inter s (complement top t)

def symmDiff (s t : CodePoints) : CodePoints := union (diff s t) (diff t s)

def isAscii (s : CodePoints) : Bool := s.all fun r => decide (r.2 < 0x80)

end CodePoints

namespace Unicode

/-! ## Tables -/

def readHexDigit (c : Char) : Nat :=
  if c.isDigit then c.toNat - '0'.toNat else c.toNat - 'A'.toNat + 10

/-- The number that upper-case hexadecimal digits stand for. -/
def readHex (digits : List Char) : Nat := digits.foldl (fun n c => 16 * n + readHexDigit c) 0

/-- The range written as one code point or as two with `-` between them. -/
def readRange (entry : List Char) : Nat × Nat :=
  let first := entry.takeWhile (· ≠ '-')
  match entry.dropWhile (· ≠ '-') with
  | _ :: last => (readHex first, readHex last)
  | [] => (readHex first, readHex first)

/-- The parts of a list between the separators. -/
def splitAt (separator : Char) : List Char → List (List Char)
  | [] => [[]]
  | c :: rest =>
    match splitAt separator rest with
    | [] => [[c]]
    | part :: parts => if c = separator then [] :: part :: parts else (c :: part) :: parts

def readRanges (lines : List String) : CodePoints :=
  CodePoints.ofRanges (lines.flatMap fun line => (splitAt ' ' line.toList).map readRange)

/-- A set under its names. The names are in lower case, without blanks and underscores. -/
structure NamedTable where
  names : List String
  lines : List String

def NamedTable.set (t : NamedTable) : CodePoints := readRanges t.lines

/-- The set with the name. -/
def lookup? (tables : List NamedTable) (name : String) : Option CodePoints :=
  (tables.find? fun t => t.names.contains name).map NamedTable.set

end Unicode

end ContractInterface
