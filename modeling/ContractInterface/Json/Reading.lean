/-
The two readings of a draft. A kept value must be a JSON value in full: numbers in range,
surrogates in pairs, at most 127 open lists and objects. A skipped value only has to be laid out as
one.
-/
import ContractInterface.Json.Draft

namespace ContractInterface.Json

/-! ## Faults -/

def Gap.fault : Gap → Fault
  | .endOfText => .endInValue
  | .stray => .expectedValue
  | .noColon => .expectedColon
  | .endBeforeColon => .endInObject

namespace Closing

/-- The fault of a list that is kept. -/
def listFault? : Closing → Option Fault
  | .closed => none
  | .endOfText => some .endInList
  | .noComma => some .expectedCommaOrListEnd
  | .trailingComma => some .trailingComma
  | .endAfterComma => some .endInValue

/-- The fault of an object that is kept. -/
def objectFault? : Closing → Option Fault
  | .closed => none
  | .endOfText => some .endInObject
  | .noComma => some .expectedCommaOrObjectEnd
  | .trailingComma => some .trailingComma
  | .endAfterComma => some .endInValue

/-- The fault of a list that is skipped: after a comma a value is expected. -/
def skippedListFault? : Closing → Option Fault
  | .trailingComma => some .expectedValue
  | c => c.listFault?

/-- The fault of an object that is skipped: after a comma a key is expected. -/
def skippedObjectFault? : Closing → Option Fault
  | .trailingComma => some .keyNotString
  | .endAfterComma => some .endInObject
  | c => c.objectFault?

end Closing

def throwIf? (fault : Option Fault) : Except Fault Unit :=
  match fault with
  | none => .ok ()
  | some f => .error f

/-- The name of a member that is kept. -/
def Key.kept : Key → Except Fault String
  | .text s => .ok s
  | .badText f _ => .error f
  | .notText => .error .keyNotString

def Key.skippedFault? : Key → Option Fault
  | .text _ => none
  | .badText _ skipped => skipped
  | .notText => some .keyNotString

/-! ## Kept values -/

namespace Draft

mutual

/-- The value of a draft that may open `room` more lists or objects inside each other. -/
def keep (room : Nat) : Draft → Except Fault Value
  | .missing gap => .error gap.fault
  | .word .null => .ok .null
  | .word (.bool b) => .ok (.bool b)
  | .badWord _ f => .error f
  | .numeral n => .number <$> n.number
  | .text s => .ok (.string s)
  | .badText f _ => .error f
  | .list items closing =>
    match room with
    | 0 => .error .tooDeep
    | room + 1 => do
      let values ← keepItems room items
      throwIf? closing.listFault?
      return .array values
  | .object members closing =>
    match room with
    | 0 => .error .tooDeep
    | room + 1 => do
      let members ← keepMembers room [] members
      throwIf? closing.objectFault?
      return .object members
termination_by structural d => d

def keepItems (room : Nat) : List Draft → Except Fault (List Value)
  | [] => .ok []
  | d :: rest => do
    let v ← d.keep room
    return v :: (← keepItems room rest)
termination_by structural ds => ds

/-- The members of an object after those that are set already. -/
def keepMembers (room : Nat) (sofar : Members) : List (Key × Draft) → Except Fault Members
  | [] => .ok sofar
  | (key, d) :: rest => do
    let name ← key.kept
    let v ← d.keep room
    keepMembers room (sofar.set name v) rest
termination_by structural ms => ms

end

/-! ## Skipped values -/

mutual

/-- The first fault of a draft that is skipped. -/
def skippedFault? : Draft → Option Fault
  | .missing gap => some gap.fault
  | .word _ | .text _ => none
  | .badWord _ f => some f
  | .numeral n => n.skippedFault?
  | .badText _ skipped => skipped
  | .list items closing => skippedItemsFault? items <|> closing.skippedListFault?
  | .object members closing => skippedMembersFault? members <|> closing.skippedObjectFault?
termination_by structural d => d

def skippedItemsFault? : List Draft → Option Fault
  | [] => none
  | d :: rest => d.skippedFault? <|> skippedItemsFault? rest
termination_by structural ds => ds

def skippedMembersFault? : List (Key × Draft) → Option Fault
  | [] => none
  | (key, d) :: rest => key.skippedFault? <|> d.skippedFault? <|> skippedMembersFault? rest
termination_by structural ms => ms

end

/-- The number of lists and objects that may be open at once in a kept value. -/
def depthLimit : Nat := 127

end Draft

/-- The value of a JSON text. -/
def Value.parse (text : String) : Except Fault Value := do
  let (draft, surplus) := Draft.ofText text
  let value ← draft.keep Draft.depthLimit
  if surplus then .error .trailingCharacters else .ok value

end ContractInterface.Json
