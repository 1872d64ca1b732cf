/-
What a transaction may spend and how long its sender waits, and the JSON form of these options. All
three members are always written; null and absence both mean that an option is not set.
-/
import ContractInterface.Json.Record

namespace ContractInterface

open Json

/-! ## Units -/

structure Gas where
  units : UInt64
deriving DecidableEq

/-- The number of gas units in a teragas. -/
def Gas.perTgas : Nat := 1000000000000

/-- Teragas as gas, if the number of units fits in 64 bits. -/
def Gas.ofTgas? (tgas : UInt64) : Option Gas :=
  let units := tgas.toNat * perTgas
  if units < UInt64.size then some ⟨UInt64.ofNat units⟩ else none

structure Deposit where
  units : Word128
deriving DecidableEq

/-- The number of the smallest units in a whole coin. -/
def Deposit.perNear : Nat := 1000000000000000000000000

/-- Whole coins as a deposit, if the number of units fits in 128 bits. -/
def Deposit.ofNear? (near : Word128) : Option Deposit :=
  let units := near.val * perNear
  if h : units < 340282366920938463463374607431768211456 then some ⟨⟨units, h⟩⟩ else none

/-! ## Options -/

/-- How far a transaction must get before its sender goes on. -/
inductive WaitPolicy where
  | none
  | included
  | executedOptimistic
  | includedFinal
  | executed
  | final
deriving DecidableEq

namespace WaitPolicy

def name : WaitPolicy → String
  | .none => "NONE"
  | .included => "INCLUDED"
  | .executedOptimistic => "EXECUTED_OPTIMISTIC"
  | .includedFinal => "INCLUDED_FINAL"
  | .executed => "EXECUTED"
  | .final => "FINAL"

def all : List WaitPolicy :=
  [.none, .included, .executedOptimistic, .includedFinal, .executed, .final]

def ofName? (name : String) : Option WaitPolicy := all.find? fun p => p.name = name

end WaitPolicy

structure TransactionOptions where
  gas : Option Gas
  deposit : Option Deposit
  waitUntil : Option WaitPolicy
deriving DecidableEq

namespace TransactionOptions

def empty : TransactionOptions := ⟨none, none, none⟩

/-! ## JSON form -/

def record : Record TransactionOptions where
  name := "TxOptions"
  blank := empty
  fields := [
    .of "gas" .nullable (.nullable .word64) fun v o => { o with gas := v.map Gas.mk },
    .of "deposit" .nullable (.nullable .word128) fun v o => { o with deposit := v.map Deposit.mk },
    .of "wait_until" .nullable (.nullable (.variant (WaitPolicy.all.map fun p => (p.name, p))))
      fun v o => { o with waitUntil := v }]
  addOther := none

def ofText (text : String) : Except DecodeError TransactionOptions :=
  Decoder.ofText record.decoder text

/-- The text of a member that is null if it is not set. -/
def writeMember {α : Type} (key : String) (write : α → List Char) (a : Option α) : List Char :=
  writeString key ++ ':' :: (match a with
    | some a => write a
    | none => Value.null.write)

/-- Compact JSON text. -/
def text (o : TransactionOptions) : String :=
  let members := [
    writeMember "gas" (fun g => Nat.toDigits 10 g.units.toNat) o.gas,
    writeMember "deposit" (fun d => Nat.toDigits 10 d.units.val) o.deposit,
    writeMember "wait_until" (fun p => writeString p.name) o.waitUntil]
  String.ofList ('\x7b' :: (commaSeparated members ++ ['\x7d']))

end TransactionOptions

end ContractInterface
