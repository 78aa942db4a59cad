import DrinkMixer.Program.Basic

/-!
# The I2C bus

Transactions with the devices on a two-wire bus, and how they can fail.
-/

namespace DrinkMixer

namespace I2c

/-- Which byte was not acknowledged. -/
inductive NackSource
  | address
  | data
  | unknown
  deriving DecidableEq, Repr

/-- Why a transaction failed. -/
inductive Fault
  | bus
  | arbitrationLoss
  | overrun
  | noAcknowledge (source : NackSource)
  | other
  deriving DecidableEq, Repr

/-- The name of the missing acknowledge in the log. -/
def NackSource.name : NackSource → String
  | address => "Address"
  | data => "Data"
  | unknown => "Unknown"

/-- The name of a fault in the log. -/
def Fault.name : Fault → String
  | bus => "Bus"
  | arbitrationLoss => "ArbitrationLoss"
  | overrun => "Overrun"
  | noAcknowledge source => "NoAcknowledge(" ++ source.name ++ ")"
  | other => "Other"

/-- Transactions with the device at an address. -/
inductive Request
  | write (address : UInt8) (bytes : List UInt8)
  | writeRead (address : UInt8) (bytes : List UInt8) (length : Nat)
  | read (address : UInt8) (length : Nat)

/-- What a transaction gives. -/
def Request.Answer : Request → Type
  | write _ _ => Except Fault Unit
  | writeRead _ _ length => Except Fault (Vector UInt8 length)
  | read _ length => Except Fault (Vector UInt8 length)

end I2c

/-- The I2C bus. -/
abbrev I2c : Signature := ⟨I2c.Request, I2c.Request.Answer⟩

end DrinkMixer
