/-
Records: objects with fields of known names, also written as lists of their fields in order. A field
that is read yields an update of the record; the updates of different fields do not depend on each
other, so the order of fields in an object matters for errors only.
-/
import ContractInterface.Json.Decoding

namespace ContractInterface.Json

/-- When a field may be left out. -/
inductive Presence where
  | required
  /-- An object may leave the field out, which means null; a list may not. -/
  | nullable
  | optional
deriving DecidableEq

/-- A field of a record: its name, whether it may be left out, and how to set it. -/
structure Field (α : Type) where
  name : String
  presence : Presence
  update : Decoder (α → α)

def Field.of {α β : Type} (name : String) (presence : Presence) (decoder : Decoder β)
    (set : β → α → α) : Field α :=
  ⟨name, presence, fun site d => set <$> decoder site d⟩

/-- A kind of record: its name in messages, the record with no field set, its fields in order, and
for other members of an object, if they are kept, how to add one. -/
structure Record (α : Type) where
  name : String
  blank : α
  fields : List (Field α)
  addOther : Option (String → Value → α → α)

namespace Record

variable {α : Type}

def field? (r : Record α) (name : String) : Option (Field α) :=
  r.fields.find? fun f => f.name == name

/-! ## Objects -/

/-- Reads a member that is no field. -/
def readOther (r : Record α) (site : Site) (name : String) (d : Draft) (a : α) :
    Except DecodeError α :=
  match r.addOther with
  | some add => do return add name (← Decoder.value site d) a
  | none => do
    throwIf? d.skippedFault?
    return a

/-- Reads the members of an object in their order into a record in which the fields `given` are
set. -/
def readMembers (r : Record α) (site : Site) (given : List String) (a : α) :
    List (Key × Draft) → Except DecodeError (List String × α)
  | [] => .ok (given, a)
  | (key, d) :: rest => do
    let name ← key.kept
    match r.field? name with
    | none => readMembers r site given (← r.readOther site name d a) rest
    | some f =>
      if given.contains name then throw (.duplicateField name)
      let update ← f.update site d
      readMembers r site (name :: given) (update a) rest

/-- The first field that must be there and is not. -/
def firstMissing? (r : Record α) (given : List String) : Option (Field α) :=
  r.fields.find? fun f => f.presence = .required && !given.contains f.name

def ofMembers (r : Record α) (site : Site) (members : List (Key × Draft)) (closing : Closing) :
    Except DecodeError α := do
  let (given, a) ← r.readMembers site [] r.blank members
  throwIf? closing.objectFault?
  match r.firstMissing? given with
  | some f => throw (.missingField f.name)
  | none => return a

/-! ## Lists -/

/-- Reads items into the fields in their order, of which `index` are done, and gives what is left
over. -/
def readItems (r : Record α) (site : Site) (closing : Closing) :
    (index : Nat) → List (Field α) → List Draft → α → Except DecodeError (List Draft × α)
  | _, [], items, a => .ok (items, a)
  | index, f :: fields, [], a => do
    throwIf? closing.listFault?
    if f.presence = .optional then readItems r site closing (index + 1) fields [] a
    else throw (.tooFew index r.name r.fields.length)
  | index, f :: fields, d :: items, a => do
    let update ← f.update site d
    readItems r site closing (index + 1) fields items (update a)

/-- Refuses a list that does not end where the last field does. Text is not read beyond the comma
that should be the end. -/
def checkEnd (origin : Origin) (given fields : Nat) (closing : Closing) : Except DecodeError Unit :=
  if fields < given then
    match origin with
    | .text => .error (.fault .trailingCharacters)
    | .block => .error (.tooMany given fields)
    | .value => .error (.surplus given)
  else
    match closing with
    | .closed => .ok ()
    | .endOfText => .error (.fault .endInList)
    | .trailingComma => .error (.fault .trailingComma)
    | .noComma | .endAfterComma => .error (.fault .trailingCharacters)

def ofItems (r : Record α) (site : Site) (items : List Draft) (closing : Closing) :
    Except DecodeError α := do
  let (_, a) ← r.readItems site closing 0 r.fields items r.blank
  checkEnd site.origin items.length r.fields.length closing
  return a

/-! ## Decoders -/

/-- Reads a record from an object or, unless it keeps other members, from a list. -/
def decoder (r : Record α) : Decoder α := fun site d =>
  match d with
  | .object members closing => do r.ofMembers (← site.inside false) members closing
  | .list items closing =>
    if r.addOther.isSome then d.refuse (.record r.name)
    else do r.ofItems (← site.inside true) items closing
  | d => d.refuse (.record r.name)

end Record

/-! ## Records with alternatives -/

/-- A kind of record that names one of a few alternatives in a field of its own, the tag. -/
structure Block (τ α : Type) where
  /-- The name of the type in messages. -/
  name : String
  tagName : String
  tags : List (String × τ)
  /-- The record of the other fields; the tag alone stands in a list before them. -/
  record : Record α

namespace Block

variable {τ α : Type}

/-- Reads the tag from the members of an object and keeps the others whole. -/
def readTag (b : Block τ α) (site : Site) (tag : Option τ) (others : List (Key × Draft)) :
    List (Key × Draft) → Except DecodeError (Option τ × List (Key × Draft))
  | [] => .ok (tag, others.reverse)
  | (key, d) :: rest => do
    let name ← key.kept
    if name = b.tagName then
      if tag.isSome then throw (.duplicateField name)
      let t ← Decoder.variantName b.tags site d
      readTag b site (some t) others rest
    else
      let _ ← d.keep site.room
      readTag b site tag ((key, d) :: others) rest

/-- Reads a block from an object with the tag in any place, or from a list with the tag first. The
other fields are kept whole until the end of the block, and only then read. -/
def decoder (b : Block τ α) : Decoder (τ × α) := fun site d =>
  match d with
  | .object members closing => do
    let inner ← site.inside false
    let (tag, others) ← b.readTag inner none [] members
    throwIf? closing.objectFault?
    match tag with
    | none => throw (.missingField b.tagName)
    | some t =>
      return (t, ← b.record.ofMembers { inner with origin := .block } others .closed)
  | .list items closing => do
    let inner ← site.inside true
    match items with
    | [] =>
      throwIf? closing.listFault?
      throw (.missingField b.tagName)
    | first :: rest =>
      let t ← Decoder.variantName b.tags inner first
      let _ ← Draft.keepItems inner.room rest
      throwIf? closing.listFault?
      return (t, ← b.record.ofItems { inner with origin := .block } rest .closed)
  | d => d.refuse (.tagged b.name)

end Block

end ContractInterface.Json
