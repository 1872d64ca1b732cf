/-
Decoders: from a draft to a value of a type. A decoder looks at a draft in the order of its text and
stops at the first thing that is wrong, so a fault of the text and a value of the wrong kind are
told in the order in which they stand.
-/
import ContractInterface.Json.DecodeError

namespace ContractInterface.Json

/-! ## Places -/

/-- What is being read; it decides what is said of a list with too many parts for a record. -/
inductive Origin where
  /-- The text itself. -/
  | text
  /-- A part of a text that has been kept whole before it is looked into. -/
  | block
  /-- A value without a text. -/
  | value

/-- Where a draft stands: how many more lists and objects may be open inside, what is being read,
and whether the draft is an item of a list or a member of an object. -/
structure Site where
  room : Nat
  origin : Origin
  isItem : Bool

abbrev Decoder (α : Type) := Site → Draft → Except DecodeError α

instance : MonadLift (Except Fault) (Except DecodeError) := ⟨fun x => x.mapError .fault⟩

namespace Site

/-- The place of a whole text or value. -/
def whole (origin : Origin) : Site := ⟨Draft.depthLimit, origin, false⟩

/-- The place of the parts of a list or an object. -/
def inside (site : Site) (isItem : Bool) : Except Fault Site :=
  match site.room with
  | 0 => .error .tooDeep
  | room + 1 => .ok { site with room, isItem }

/-- The fault of something left over after a part. -/
def leftOver (site : Site) : Fault :=
  if site.isItem then .expectedCommaOrListEnd else .expectedCommaOrObjectEnd

end Site

/-! ## Values of the wrong kind -/

def Number.found : Number → Found
  | .natural n => .integer n.toNat
  | .negative n => .integer (-(n.val + 1 : Int))
  | .double x => .double x

namespace Draft

/-- What a draft is, unless it is not even the beginning of a value. -/
def found : Draft → Except Fault Found
  | .missing gap => .error gap.fault
  | .word .null => .ok .null
  | .word (.bool b) => .ok (.bool b)
  | .badWord _ f => .error f
  | .numeral n => Number.found <$> n.number
  | .text s => .ok (.text s)
  | .badText f _ => .error f
  | .list .. => .ok .list
  | .object .. => .ok .object

/-- Fails because the draft is not what is expected. -/
def refuse {α : Type} (expected : Expected) (d : Draft) : Except DecodeError α := do
  let found ← d.found
  throw (.kind found expected)

end Draft

/-! ## Scalars -/

/-- The natural numbers below `2 ^ 128`. -/
abbrev Word128 := Fin 340282366920938463463374607431768211456

namespace Decoder

def text : Decoder String := fun _ d =>
  match d with
  | .text s => .ok s
  | d => d.refuse .text

def bool : Decoder Bool := fun _ d =>
  match d with
  | .word (.bool b) => .ok b
  | d => d.refuse .bool

/-- A natural number of 64 bits. -/
def word64 : Decoder UInt64 := fun _ d =>
  match d with
  | .numeral n => do
    match ← n.number with
    | .natural k => return k
    | .negative k => throw (.negative (-(k.val + 1 : Int)))
    | .double x => throw (.kind (.double x) .word64)
  | d => d.refuse .word64

/-- The value of digits, if it fits in 128 bits. -/
def word128OfDigits (digits : List Char) : Except Fault Word128 :=
  let n := Nat.ofDigitChars 10 digits 0
  if h : n < 340282366920938463463374607431768211456 then .ok ⟨n, h⟩ else .error .numberOutOfRange

/-- A natural number of 128 bits. It is read up to its last digit: a fraction or an exponent is
left over, and no other kind of value is told from a bad numeral. -/
def word128 : Decoder Word128 := fun site d =>
  match d with
  | .numeral (.integer true _) | .numeral (.decimal true ..) | .numeral (.broken true ..) =>
    .error (.fault .numberOutOfRange)
  | .numeral (.integer false digits) => word128OfDigits digits
  | .numeral (.decimal false digits ..) => do
    let _ ← word128OfDigits digits
    throw (.fault site.leftOver)
  | .numeral (.broken false [] kept _) => .error (.fault kept)
  | .numeral (.broken false digits ..) => do
    let _ ← word128OfDigits digits
    throw (.fault site.leftOver)
  | .missing .stray => .error (.fault .invalidNumber)
  | .missing gap => .error (.fault gap.fault)
  | _ => .error (.fault .invalidNumber)

/-- A value of any kind. -/
def value : Decoder Value := fun site d => d.keep site.room

/-- Null, or what the decoder reads. -/
def nullable {α : Type} (decoder : Decoder α) : Decoder (Option α) := fun site d =>
  match d with
  | .word .null => .ok none
  | .badWord .null f => .error (.fault f)
  | d => some <$> decoder site d

/-! ## Lists and tables -/

def listOf {α : Type} (decoder : Decoder α) : Decoder (List α) := fun site d =>
  match d with
  | .list items closing => do
    let inner ← site.inside true
    let values ← items.mapM (decoder inner)
    throwIf? closing.listFault?
    return values
  | d => d.refuse .list

/-- Values of any kind by name, in the order of the names. -/
def table : Decoder Members := fun site d =>
  match d with
  | .object members closing => do
    let inner ← site.inside false
    let values ← Draft.keepMembers inner.room [] members
    throwIf? closing.objectFault?
    return Value.orderMembers values
  | d => d.refuse .object

/-! ## Alternatives -/

/-- The alternative of a name. -/
def select {α : Type} (variants : List (String × α)) (name : String) : Except DecodeError α :=
  match variants.lookup name with
  | some a => .ok a
  | none => .error (.unknownVariant name (variants.map Prod.fst))

/-- An alternative by its name. -/
def variantName {α : Type} (variants : List (String × α)) : Decoder α := fun _ d =>
  match d with
  | .text name => select variants name
  | d => d.refuse .variant

/-- An alternative in the place of a key. The draft is what stands there if it is no key. -/
def variantKey {α : Type} (variants : List (String × α)) (key : Key) (d : Draft) :
    Except DecodeError α :=
  match key with
  | .text name => select variants name
  | .badText f _ => .error (.fault f)
  | .notText => d.refuse .variant

def unit : Decoder Unit := fun _ d =>
  match d with
  | .word .null => .ok ()
  | d => d.refuse .unit

/-- An alternative, written as its name or as an object with null under its name. -/
def variant {α : Type} (variants : List (String × α)) : Decoder α := fun site d =>
  match d with
  | .text name => select variants name
  | .badText f _ => .error (.fault f)
  | .missing gap => .error (.fault gap.fault)
  | .object members closing => do
    let inner ← site.inside false
    match members with
    | [] => throw (.fault (if closing = .endOfText then .endInValue else .expectedValue))
    | (key, d) :: rest =>
      let a ← variantKey variants key d
      unit inner d
      if !rest.isEmpty then throw (.fault .expectedValue)
      match closing with
      | .closed => return a
      | .endOfText => throw (.fault .endInObject)
      | _ => throw (.fault .expectedValue)
  | _ => .error (.fault .expectedValue)

/-! ## Whole texts -/

/-- Decodes a whole text. -/
def ofText {α : Type} (decoder : Decoder α) (text : String) : Except DecodeError α := do
  let (d, surplus) := Draft.ofText text
  let a ← decoder (.whole .text) d
  if surplus then throw (.fault .trailingCharacters)
  return a

end Decoder

end ContractInterface.Json
