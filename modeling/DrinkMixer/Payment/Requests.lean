import DrinkMixer.Failure
import DrinkMixer.Program.Basic

/-!
# What the tag reader asks of the payment reader
-/

namespace DrinkMixer

/-- Requests to the payment reader. -/
inductive PaymentBus.Request
  /-- Read so many bytes from the device at an address. -/
  | read (address : UInt8) (length : Nat)

/-- What a read gives. -/
def PaymentBus.Request.Answer : PaymentBus.Request → Type
  | read _ length => Except BusFault (Vector UInt8 length)

/-- The bus with the payment reader. -/
abbrev PaymentBus : Signature := ⟨PaymentBus.Request, PaymentBus.Request.Answer⟩

end DrinkMixer
