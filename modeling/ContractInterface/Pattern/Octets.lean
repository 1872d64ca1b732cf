/-
The octets that encode characters: texts octet by octet, sets as runs of octet ranges.
-/
import ContractInterface.Unicode.CodePoints

namespace ContractInterface.Pattern

/-- The octets of a text. -/
def textOctets (text : List Char) : List UInt8 := text.flatMap String.utf8EncodeChar

/-- Characters that follow each other, as one range for each of their octets. -/
abbrev OctetRun := List (Nat × Nat)

/-- The runs of the numbers from `low` to `high` in so many digits of base 64 after the first. The
first digit is written with a marker, the others with that of a continuation. -/
def octetRuns (marker : Nat) : (digits : Nat) → (low high : Nat) → List OctetRun
  | 0, low, high => [[(marker + low, marker + high)]]
  | digits + 1, low, high =>
    let block := 64 ^ (digits + 1)
    let (a, x) := (low / block, low % block)
    let (b, y) := (high / block, high % block)
    let inBlock (n x y : Nat) : List OctetRun :=
      (octetRuns 0x80 digits x y).map ((marker + n, marker + n) :: ·)
    if a = b then inBlock a x y
    else
      let (first, a) := if x = 0 then ([], a) else (inBlock a x (block - 1), a + 1)
      let (last, b) := if y + 1 = block then ([], b + 1) else (inBlock b 0 y, b)
      let middle :=
        if a < b then
          [(marker + a, marker + b - 1) :: List.replicate (digits + 1) (0x80, 0xBF)]
        else []
      first ++ middle ++ last

/-- Code points that take the same number of octets. -/
structure OctetClass where
  marker : Nat
  digits : Nat
  least : Nat
  greatest : Nat

/-- All code points but the surrogates, in ascending order. -/
def octetClasses : List OctetClass := [
  ⟨0, 0, 0, 0x7F⟩,
  ⟨0xC0, 1, 0x80, 0x7FF⟩,
  ⟨0xE0, 2, 0x800, 0xD7FF⟩,
  ⟨0xE0, 2, 0xE000, 0xFFFF⟩,
  ⟨0xF0, 3, 0x10000, 0x10FFFF⟩]

/-- The runs of a set in ascending order. -/
def setRuns (s : CodePoints) : List OctetRun :=
  s.flatMap fun (low, high) => octetClasses.flatMap fun k =>
    let (low, high) := (max low k.least, min high k.greatest)
    if low ≤ high then octetRuns k.marker k.digits low high else []

end ContractInterface.Pattern
