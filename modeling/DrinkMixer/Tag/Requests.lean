import DrinkMixer.Failure
import DrinkMixer.Program.Basic
import DrinkMixer.Tag.Uid

/-!
# What the tag reader asks of the contactless reader
-/

namespace DrinkMixer

/-- How a command to a tag went. -/
inductive TagStatus
  | ok
  | noTag
  | error
  deriving DecidableEq, Repr

/-- The name of a status in the log. -/
def TagStatus.name : TagStatus → String
  | ok => "Ok"
  | noTag => "NoTag"
  | error => "Error"

/-- Requests to the contactless reader. -/
inductive Card.Request
  /-- Ask the tags in the field to answer. -/
  | request
  /-- Single out one tag and give its identifier, if it is still there. -/
  | anticollision
  | select (uid : Uid)
  | authenticate (block : UInt8) (key : AuthKey) (uid : Uid)
  | read (block : UInt8)

/-- What a request gives. -/
def Card.Request.Answer : Card.Request → Type
  | request => Except TagFault TagStatus
  | anticollision => Except TagFault (Option Uid)
  | select _ => Except TagFault Unit
  | authenticate _ _ _ => Except TagFault TagStatus
  | read _ => Except TagFault Block

/-- The contactless reader. -/
abbrev Card : Signature := ⟨Card.Request, Card.Request.Answer⟩

/-- Requests to the pins that the reader hardware reserves. -/
inductive Pins.Request
  | release

/-- The reserved pins. -/
abbrev Pins : Signature := ⟨Pins.Request, fun _ => Unit⟩

end DrinkMixer
