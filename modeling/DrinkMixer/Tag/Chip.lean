import DrinkMixer.Board
import DrinkMixer.Program.World
import DrinkMixer.Tag.Requests

/-!
# The contactless reader chip

How the MFRC522 carries out the requests of the tag reader. Its `select` command does anticollision
and selection in one, so it is given when a tag is to be singled out, and selecting a tag is only a
check that it is the one in hand. What tags answer when they are asked for, of a type `ρ` that only
the chip looks into, is handed back to it with that command. After a refused key and after a read
block the encryption that the key armed is stopped, and the tag in hand is forgotten.
-/

namespace DrinkMixer

namespace TagChip

/-- Why a command of the chip failed, as far as faults are told apart. -/
inductive Fault
  | timeout
  /-- The chip itself could not be reached, for the reason named. -/
  | transfer (reason : String)
  /-- Any other fault, by its name. -/
  | other (name : String)
  deriving DecidableEq, Repr

/-- The name of a fault in the log. -/
def Fault.name : Fault → String
  | timeout => "Timeout"
  | transfer reason => "Comm(" ++ reason ++ ")"
  | other name => name

/-- Commands of the chip. -/
inductive Request (ρ : Type)
  | reqa
  /-- Single out and select one of the tags that answered, with what they answered. -/
  | select (atqa : ρ)
  /-- Open a block of a selected tag. -/
  | authenticate (uid : Uid) (block : UInt8) (key : AuthKey)
  | read (block : UInt8)
  | halt
  | stopCrypto

/-- What a command gives. -/
def Request.Answer {ρ : Type} : Request ρ → Type
  | reqa => Except Fault ρ
  | select _ => Except Fault Uid
  | authenticate _ _ _ => Except Fault Unit
  | read _ => Except Fault Block
  | halt => Except Fault Unit
  | stopCrypto => Except Fault Unit

/-- What is remembered between requests. -/
structure Memory (ρ : Type) where
  /-- What was answered when tags were last asked for, unless one was to be singled out since. -/
  answered : Option ρ := none
  selected : Option Uid := none
  deriving DecidableEq, Repr

end TagChip

/-- The contactless reader chip. -/
abbrev TagChip (ρ : Type) : Signature := ⟨TagChip.Request ρ, TagChip.Request.Answer⟩

namespace TagChip

variable {ρ : Type}

/-- What carrying out requests needs: the chip, and the log. -/
abbrev ChipBoard (ρ : Type) : Signature := (TagChip ρ).sum Board

/-- A step towards the answer to a request. -/
abbrev ChipProcedure (ρ : Type) := StateT (Memory ρ) (Program (ChipBoard ρ))

/-- Puts a record into the log. -/
def note (level : LogLevel) (text : String) : ChipProcedure ρ Unit :=
  StateT.lift (.note level text)

/-- Gives a command. -/
def command (request : Request ρ) : ChipProcedure ρ request.Answer :=
  StateT.lift (Program.request (S := TagChip ρ) request)

/-- Tells a tag that misbehaved from a chip that cannot be reached. -/
def classify (operation : String) (fault : Fault) : ChipProcedure ρ (Except TagFault TagStatus) :=
  match fault with
  | .timeout => pure (.ok .noTag)
  | .transfer reason => do
    note .warn ("mfrc522 " ++ operation ++ ": SPI error " ++ reason)
    pure (.error .transport)
  | fault => do
    note .debug ("mfrc522 " ++ operation ++ ": " ++ fault.name)
    pure (.ok .error)

/-- Asks the tags in the field to answer. -/
def request : ChipProcedure ρ (Except TagFault TagStatus) := do
  match ← command .reqa with
  | .ok (atqa : ρ) =>
    modify fun memory => { memory with answered := some atqa }
    pure (.ok .ok)
  | .error (fault : Fault) =>
    modify fun memory => { memory with answered := none }
    classify "reqa" fault

/-- Takes a tag that was selected in hand, and hands on its identifier. -/
def hold (uid : Uid) : ChipProcedure ρ (Except TagFault (Option Uid)) :=
  match Uid.ofBytes? uid.bytes with
  | none => pure (.error .protocol)
  | some copy => do
    modify fun memory => { memory with selected := some uid }
    pure (.ok (some copy))

/-- Singles out and selects a tag, if one answered since the last time. -/
def anticollision : ChipProcedure ρ (Except TagFault (Option Uid)) := do
  match (← get).answered with
  | none => pure (.ok none)
  | some atqa =>
    modify fun memory => { memory with answered := none }
    match ← command (.select atqa) with
    | .ok (uid : Uid) => hold uid
    | .error (fault : Fault) =>
      modify fun memory => { memory with selected := none }
      return (← classify "select" fault).map fun _ => none

/-- Checks that the tag is the one in hand. -/
def select (uid : Uid) : ChipProcedure ρ (Except TagFault Unit) := do
  if (← get).selected = some uid then pure (.ok ()) else pure (.error .noTagSelected)

/-- Notes a failure that has no consequences. -/
def noteFailure (operation : String) : Except Fault Unit → ChipProcedure ρ Unit
  | .ok () => pure ()
  | .error fault => note .debug ("mfrc522 " ++ operation ++ ": " ++ fault.name)

/-- Stops the encryption; a failure is only noted. -/
def stopCrypto : ChipProcedure ρ Unit := do
  noteFailure "stop_crypto1" (← command .stopCrypto)

/-- Halts the tag; a failure is only noted. -/
def halt : ChipProcedure ρ Unit := do
  noteFailure "hlta" (← command .halt)

/-- Forgets the tag in hand. -/
def forget : ChipProcedure ρ Unit :=
  modify fun memory => { memory with selected := none }

/-- Opens a block of the tag in hand. -/
def authenticate (block : UInt8) (key : AuthKey) : ChipProcedure ρ (Except TagFault TagStatus) := do
  match (← get).selected with
  | none => pure (.error .noTagSelected)
  | some uid =>
    match ← command (.authenticate uid block key) with
    | .ok () => pure (.ok .ok)
    | .error (fault : Fault) =>
      match ← classify "auth" fault with
      | .error fault => pure (.error fault)
      | .ok status =>
        -- A refused key leaves the encryption half armed.
        stopCrypto
        forget
        pure (.ok status)

/-- Why a block could not be read. -/
def readFault (block : UInt8) (fault : Fault) : ChipProcedure ρ TagFault :=
  match fault with
  | .transfer reason => do
    note .warn ("mfrc522 read: SPI error " ++ reason)
    pure .transport
  | fault => do
    note .debug (s!"mfrc522 read block {block}: " ++ fault.name)
    pure .protocol

/-- Reads a block of the tag in hand, and leaves the tag halted and unencrypted. -/
def readBlock (block : UInt8) : ChipProcedure ρ (Except TagFault Block) := do
  match (← get).selected with
  | none => pure (.error .noTagSelected)
  | some _ =>
    match ← command (.read block) with
    | .error (fault : Fault) => return .error (← readFault block fault)
    | .ok (data : Block) =>
      halt
      stopCrypto
      forget
      pure (.ok data)

/-- How the chip carries out the requests of the tag reader. -/
def onChip : Realization Card (ChipBoard ρ) (Memory ρ)
  | .request => request
  | .anticollision => anticollision
  | .select uid => select uid
  | .authenticate block key _ => authenticate block key
  | .read block => readBlock block

end TagChip

end DrinkMixer
