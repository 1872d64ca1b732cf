/-
The switches of a contract, and their JSON form. A switch that is not given has its default.
-/
import ContractInterface.Json.Record
import ContractInterface.Json.Written

namespace ContractInterface

open Json

structure Config where
  /-- Arguments are checked before they are sent. -/
  checksArguments : Bool
  /-- A result that does not conform is noted in the log. -/
  checksResults : Bool
deriving DecidableEq

namespace Config

def default : Config := ⟨true, false⟩

def record : Record Config where
  name := "ContractConfig"
  blank := default
  fields := [
    .of "validate_args" .optional .bool fun v c => { c with checksArguments := v },
    .of "check_results" .optional .bool fun v c => { c with checksResults := v }]
  addOther := none

def ofText (text : String) : Except DecodeError Config := Decoder.ofText record.decoder text

def ofValue (v : Value) : Except DecodeError Config := Decoder.ofValue record.decoder v

def toValue (c : Config) : Value :=
  .object [("validate_args", .bool c.checksArguments), ("check_results", .bool c.checksResults)]

end Config

end ContractInterface
