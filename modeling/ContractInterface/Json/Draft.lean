/-
A JSON value as written, together with the place where reading could not go on. Readers of a draft
walk it in the order of the text, so the first fault that they meet is the first one in the text
that matters to them.
-/
import ContractInterface.Json.Token

namespace ContractInterface.Json

/-! ## Drafts -/

/-- Why no value starts where one must. -/
inductive Gap where
  | endOfText
  | stray
  | noColon
  | endBeforeColon
deriving DecidableEq

/-- How a list or an object ends. -/
inductive Closing where
  | closed
  | endOfText
  /-- Something other than a comma or the end follows a part. -/
  | noComma
  | trailingComma
  | endAfterComma
deriving DecidableEq

/-- What stands in the place of a key. -/
inductive Key where
  | text (s : String)
  | badText (kept : Fault) (skipped : Option Fault)
  /-- Something that is no string; the draft beside it is what was found. -/
  | notText

inductive Draft where
  | missing (gap : Gap)
  | word (w : Word)
  | badWord (w : Word) (fault : Fault)
  | numeral (n : Numeral)
  | text (s : String)
  | badText (kept : Fault) (skipped : Option Fault)
  | list (items : List Draft) (closing : Closing)
  | object (members : List (Key × Draft)) (closing : Closing)

/-- The draft of one token alone. -/
def Token.draft : Token → Draft
  | .beginList => .list [] .endOfText
  | .beginObject => .object [] .endOfText
  | .word w => .word w
  | .badWord w f => .badWord w f
  | .numeral n => .numeral n
  | .text s => .text s
  | .badText kept skipped => .badText kept skipped
  | .endList | .endObject | .comma | .colon | .stray => .missing .stray

/-! ## Assembly -/

/-- A list or an object around the place of reading, with its parts so far, last first. -/
inductive Frame where
  | list (items : List Draft)
  | object (members : List (Key × Draft)) (key : Key)

/-- Where the next token stands. Parts are held last first. -/
inductive Assembly where
  | value (frames : List Frame)
  | listStart (frames : List Frame)
  | afterItem (items : List Draft) (frames : List Frame)
  | afterListComma (items : List Draft) (frames : List Frame)
  | objectStart (frames : List Frame)
  | afterKey (members : List (Key × Draft)) (key : Key) (frames : List Frame)
  | afterMember (members : List (Key × Draft)) (frames : List Frame)
  | afterObjectComma (members : List (Key × Draft)) (frames : List Frame)
  | complete (draft : Draft)
  /-- More text after a complete value. -/
  | surplus (draft : Draft)
  | stopped (draft : Draft)

namespace Assembly

/-- Gives a finished value to the innermost frame. -/
def deliver (d : Draft) : List Frame → Assembly
  | [] => .complete d
  | .list items :: frames => .afterItem (d :: items) frames
  | .object members key :: frames => .afterMember ((key, d) :: members) frames

/-- Puts the value at which reading stops into all frames. -/
def enclose (d : Draft) : List Frame → Draft
  | [] => d
  | .list items :: frames => enclose (.list (d :: items).reverse .endOfText) frames
  | .object members key :: frames => enclose (.object ((key, d) :: members).reverse .endOfText) frames

def stop (d : Draft) (frames : List Frame) : Assembly := .stopped (enclose d frames)

/-- A token where a value must start. -/
def start (frames : List Frame) (token : Token) : Assembly :=
  match token with
  | .beginList => .listStart frames
  | .beginObject => .objectStart frames
  | .word _ | .text _ | .badText _ none | .numeral (.integer ..) | .numeral (.decimal ..) =>
    deliver token.draft frames
  | _ => stop token.draft frames

/-- A token where a key must stand. -/
def startKey (members : List (Key × Draft)) (frames : List Frame) : Token → Assembly
  | .text s => .afterKey members (.text s) frames
  | .badText kept none => .afterKey members (.badText kept none) frames
  | .badText kept (some f) =>
    stop (.missing .endBeforeColon) (.object members (.badText kept (some f)) :: frames)
  | token => stop token.draft (.object members .notText :: frames)

def step : Assembly → Token → Assembly
  | .value frames, token => start frames token
  | .listStart frames, .endList => deliver (.list [] .closed) frames
  | .listStart frames, token => start (.list [] :: frames) token
  | .afterItem items frames, .comma => .afterListComma items frames
  | .afterItem items frames, .endList => deliver (.list items.reverse .closed) frames
  | .afterItem items frames, _ => stop (.list items.reverse .noComma) frames
  | .afterListComma items frames, .endList => stop (.list items.reverse .trailingComma) frames
  | .afterListComma items frames, token => start (.list items :: frames) token
  | .objectStart frames, .endObject => deliver (.object [] .closed) frames
  | .objectStart frames, token => startKey [] frames token
  | .afterKey members key frames, .colon => .value (.object members key :: frames)
  | .afterKey members key frames, _ => stop (.missing .noColon) (.object members key :: frames)
  | .afterMember members frames, .comma => .afterObjectComma members frames
  | .afterMember members frames, .endObject => deliver (.object members.reverse .closed) frames
  | .afterMember members frames, _ => stop (.object members.reverse .noComma) frames
  | .afterObjectComma members frames, .endObject =>
    stop (.object members.reverse .trailingComma) frames
  | .afterObjectComma members frames, token => startKey members frames token
  | .complete d, _ => .surplus d
  | .surplus d, _ => .surplus d
  | .stopped d, _ => .stopped d

/-- The draft at the end of the text, and whether text follows a complete value. -/
def finish : Assembly → Draft × Bool
  | .value frames => (enclose (.missing .endOfText) frames, false)
  | .listStart frames => (enclose (.list [] .endOfText) frames, false)
  | .afterItem items frames => (enclose (.list items.reverse .endOfText) frames, false)
  | .afterListComma items frames => (enclose (.list items.reverse .endAfterComma) frames, false)
  | .objectStart frames => (enclose (.object [] .endOfText) frames, false)
  | .afterKey members key frames =>
    (enclose (.missing .endBeforeColon) (.object members key :: frames), false)
  | .afterMember members frames => (enclose (.object members.reverse .endOfText) frames, false)
  | .afterObjectComma members frames =>
    (enclose (.object members.reverse .endAfterComma) frames, false)
  | .complete d => (d, false)
  | .surplus d => (d, true)
  | .stopped d => (d, false)

def run (tokens : List Token) (state : Assembly) : Assembly := tokens.foldl step state

end Assembly

/-- The draft of a text, and whether text follows a complete value. -/
def Draft.ofText (text : String) : Draft × Bool :=
  (Assembly.run (tokens text.toList) (.value [])).finish

end ContractInterface.Json
