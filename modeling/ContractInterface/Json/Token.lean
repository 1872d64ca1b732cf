/-
Tokens of JSON text. A token keeps what is wrong with it, because a value that is skipped is held
to fewer rules than one that is kept: surrogates need not pair up, and some faults at the end of
the text have other names. Nothing is read after a token that cannot be completed.
-/
import ContractInterface.Json.Fault
import ContractInterface.Json.Text

namespace ContractInterface.Json

/-! ## Strings -/

/-- One character of a string as written: itself (also by a short escape), or a UTF-16 unit by
`\u`. -/
inductive Piece where
  | char (c : Char)
  | unit (n : Nat)

/-- The character that a backslash and the letter stand for. -/
def shortEscape? : Char → Option Char
  | '"' => some '"'
  | '\\' => some '\\'
  | '/' => some '/'
  | 'b' => some '\x08'
  | 'f' => some '\x0c'
  | 'n' => some '\n'
  | 'r' => some '\r'
  | 't' => some '\t'
  | _ => none

def hexDigit? (c : Char) : Option Nat :=
  if '0' ≤ c ∧ c ≤ '9' then some (c.toNat - '0'.toNat)
  else if 'a' ≤ c ∧ c ≤ 'f' then some (c.toNat - 'a'.toNat + 10)
  else if 'A' ≤ c ∧ c ≤ 'F' then some (c.toNat - 'A'.toNat + 10)
  else none

def hexUnit? (a b c d : Char) : Option Nat := do
  return (((← hexDigit? a) * 16 + (← hexDigit? b)) * 16 + (← hexDigit? c)) * 16 + (← hexDigit? d)

/-- The pieces of a string up to the closing quote or a fault. Without a fault, the number of
characters up to and with the quote. -/
def scanString : List Char → List Piece × Except Fault Nat
  | [] => ([], .error .endInString)
  | '"' :: _ => ([], .ok 1)
  | '\\' :: 'u' :: a :: b :: c :: d :: rest =>
    match hexUnit? a b c d with
    | some n => prepend (.unit n) 6 (scanString rest)
    | none => ([], .error .invalidHexEscape)
  | '\\' :: 'u' :: rest =>
    -- four octets after the `u` make a bad escape, fewer an early end
    ([], .error (if (String.ofList rest).utf8ByteSize < 4 then .endInString else .invalidHexEscape))
  | '\\' :: e :: rest =>
    match shortEscape? e with
    | some c => prepend (.char c) 2 (scanString rest)
    | none => ([], .error .invalidEscape)
  | ['\\'] => ([], .error .endInString)
  | c :: rest =>
    if c.toNat < 0x20 then ([], .error .controlCharacter)
    else prepend (.char c) 1 (scanString rest)
where
  prepend (p : Piece) (width : Nat) (r : List Piece × Except Fault Nat) :
      List Piece × Except Fault Nat :=
    (p :: r.1, r.2.map (width + ·))

/-- The text of the pieces before a closing quote or, if `stop` is given, before that fault.
Surrogates must come in pairs. -/
def joinPieces (stop : Option Fault) : List Piece → Except Fault (List Char)
  | [] =>
    match stop with
    | none => .ok []
    | some f => .error f
  | .char c :: rest => (c :: ·) <$> joinPieces stop rest
  | .unit n :: rest =>
    if 0xDC00 ≤ n ∧ n ≤ 0xDFFF then .error .loneSurrogate
    else if 0xD800 ≤ n ∧ n ≤ 0xDBFF then
      match rest with
      | .unit m :: rest =>
        if 0xDC00 ≤ m ∧ m ≤ 0xDFFF then
          (Char.ofNat (0x10000 + (n - 0xD800) * 0x400 + (m - 0xDC00)) :: ·) <$> joinPieces stop rest
        else .error .loneSurrogate
      | .char _ :: _ => .error .brokenSurrogatePair
      | [] =>
        match stop with
        | some .endInString => .error .endInString
        | some .invalidHexEscape => .error .invalidHexEscape
        | _ => .error .brokenSurrogatePair
    else (Char.ofNat n :: ·) <$> joinPieces stop rest

/-! ## Numerals -/

/-- A numeral as written. A broken one keeps the digits of its whole part, if that is in order,
and the fault in a kept and in a skipped value. -/
inductive Numeral where
  | integer (negative : Bool) (digits : List Char)
  | decimal (negative : Bool) (digits fraction : List Char) (exponent : Int)
  | broken (negative : Bool) (digits : List Char) (kept skipped : Fault)

namespace Numeral

/-- A numeral that ends too early. -/
def cutShort (negative : Bool) (digits rest : List Char) : Numeral :=
  .broken negative digits (if rest.isEmpty then .endInValue else .invalidNumber) .invalidNumber

/-- The exponent after its letter, and the number of characters read. -/
def scanExponent (negative : Bool) (digits fraction : List Char) (cs : List Char) : Numeral × Nat :=
  let (sign, rest) := match cs with
    | '+' :: rest => ([false], rest)
    | '-' :: rest => ([true], rest)
    | rest => ([], rest)
  let exponent := rest.takeWhile Char.isDigit
  if exponent.isEmpty then (cutShort negative digits rest, 0)
  else
    let e : Int := Nat.ofDigitChars 10 exponent 0
    (.decimal negative digits fraction (if sign = [true] then -e else e),
      sign.length + exponent.length)

/-- A numeral after its sign, and the number of characters read. -/
def scan (negative : Bool) (cs : List Char) : Numeral × Nat :=
  let digits := cs.takeWhile Char.isDigit
  let rest := cs.dropWhile Char.isDigit
  match digits with
  | [] => (cutShort negative [] rest, 0)
  | '0' :: _ :: _ => (.broken negative [] .invalidNumber .invalidNumber, 0)
  | _ =>
    match rest with
    | '.' :: rest =>
      let fraction := rest.takeWhile Char.isDigit
      if fraction.isEmpty then (cutShort negative digits rest, 0)
      else
        let width := digits.length + 1 + fraction.length
        match rest.dropWhile Char.isDigit with
        | 'e' :: rest | 'E' :: rest =>
          (scanExponent negative digits fraction rest).map id (width + 1 + ·)
        | _ => (.decimal negative digits fraction 0, width)
    | 'e' :: rest | 'E' :: rest =>
      (scanExponent negative digits [] rest).map id (digits.length + 1 + ·)
    | _ => (.integer negative digits, digits.length)

/-- The number that a numeral stands for in a kept value. -/
def number : Numeral → Except Fault Number
  | .integer negative digits =>
    match Number.ofInteger? negative (Nat.ofDigitChars 10 digits 0) with
    | some n => .ok n
    | none => .error .numberOutOfRange
  | .decimal negative digits fraction exponent =>
    let all := Nat.ofDigitChars 10 (digits ++ fraction) 0
    match Double.ofDecimal? negative all (exponent - fraction.length) with
    | some x => .ok (.double x)
    | none => .error .numberOutOfRange
  | .broken _ _ kept _ => .error kept

def skippedFault? : Numeral → Option Fault
  | .broken _ _ _ skipped => some skipped
  | _ => none

end Numeral

/-! ## Tokens -/

inductive Word where
  | null
  | bool (b : Bool)

def Word.letters : Word → List Char
  | .null => ['n', 'u', 'l', 'l']
  | .bool true => ['t', 'r', 'u', 'e']
  | .bool false => ['f', 'a', 'l', 's', 'e']

inductive Token where
  | beginList
  | endList
  | beginObject
  | endObject
  | comma
  | colon
  | word (w : Word)
  /-- A word that goes wrong after its first letter. -/
  | badWord (w : Word) (fault : Fault)
  | numeral (n : Numeral)
  | text (s : String)
  /-- A string with its fault in a kept value and, if it has no end, in a skipped one. -/
  | badText (kept : Fault) (skipped : Option Fault)
  | stray

/-- The fault of text that should go on as the letters do. -/
def wordFault? : List Char → List Char → Option Fault
  | [], _ => none
  | _ :: _, [] => some .endInValue
  | e :: expected, c :: cs => if c = e then wordFault? expected cs else some .expectedWord

def scanWord (w : Word) (cs : List Char) : Token × Nat :=
  match wordFault? w.letters cs with
  | none => (.word w, w.letters.length)
  | some f => (.badWord w f, 0)

def scanText (cs : List Char) : Token × Nat :=
  match scanString cs with
  | (pieces, .ok width) =>
    match joinPieces none pieces with
    | .ok s => (.text (String.ofList s), 1 + width)
    | .error f => (.badText f none, 1 + width)
  | (pieces, .error f) =>
    match joinPieces (some f) pieces with
    | .ok _ => (.badText f (some f), 0)
    | .error kept => (.badText kept (some f), 0)

/-- The token that starts with the first character, and its width; width 0 means that the token
cannot be completed. -/
def Token.scan (c : Char) (rest : List Char) : Token × Nat :=
  match c with
  | '[' => (.beginList, 1)
  | ']' => (.endList, 1)
  | '\x7b' => (.beginObject, 1)
  | '\x7d' => (.endObject, 1)
  | ',' => (.comma, 1)
  | ':' => (.colon, 1)
  | 'n' => scanWord .null (c :: rest)
  | 't' => scanWord (.bool true) (c :: rest)
  | 'f' => scanWord (.bool false) (c :: rest)
  | '"' => scanText rest
  | '-' =>
    match Numeral.scan true rest with
    | (n, 0) => (.numeral n, 0)
    | (n, width) => (.numeral n, width + 1)
  | c => if c.isDigit then (Numeral.scan false (c :: rest)).map .numeral id else (.stray, 0)

def isBlank (c : Char) : Bool := c = ' ' ∨ c = '\t' ∨ c = '\n' ∨ c = '\r'

/-- The tokens of a text whose first characters, `covered` of them, belong to a token that is
already read. -/
def tokensAfter (covered : Nat) : List Char → List Token
  | [] => []
  | c :: rest =>
    match covered with
    | covered + 1 => tokensAfter covered rest
    | 0 =>
      if isBlank c then tokensAfter 0 rest
      else
        match Token.scan c rest with
        | (token, 0) => [token]
        | (token, width + 1) => token :: tokensAfter width rest

/-- The tokens of a text, up to the first that cannot be completed. -/
def tokens (cs : List Char) : List Token := tokensAfter 0 cs

end ContractInterface.Json
