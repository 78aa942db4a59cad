import DrinkMixer.Board
import DrinkMixer.I2c.Requests
import DrinkMixer.Payment.Requests
import DrinkMixer.Program.World
import DrinkMixer.Text.Hex

/-!
# The payment reader on the bus

How reads from the PN532 are carried out: as plain reads from the I2C bus, where a device that does
not answer is told apart from other faults.
-/

namespace DrinkMixer.Payment

/-- What went wrong with a read from an address. -/
def faultAt (address : UInt8) : I2c.Fault → BusFault
  | .noAcknowledge _ => .noAcknowledge address
  | _ => .readFailed

/-- Reads bytes from the device at an address. -/
def read (address : UInt8) (length : Nat) :
    Program (I2c.sum Board) (Except BusFault (Vector UInt8 length)) := do
  match ← Program.request (S := I2c) (.read address length) with
  | .error (fault : I2c.Fault) => pure (.error (faultAt address fault))
  | .ok (frame : Vector UInt8 length) =>
    let status := Text.Hex.lower (frame.toList.head?.getD 0)
    Program.note .trace
      ("i2c 0x" ++ Text.Hex.lower address ++ s!": {length} byte(s), status 0x" ++ status)
    pure (.ok frame)

/-- How the payment reader's requests are carried out on the bus. -/
def onBus {τ : Type} : Realization PaymentBus (I2c.sum Board) τ :=
  .stateless fun
    | .read address length => read address length

end DrinkMixer.Payment
