import DrinkMixer.Tag.Uid

/-!
# Settings

The tunable values of the servo procedures, the tag reader and the payment reader. The defaults
describe the stock board.
-/

namespace DrinkMixer

/-- The PWM controller and the timing of the servos. -/
structure ServoSettings where
  /-- The address of the controller on the bus. -/
  address : UInt8 := 0x40
  frequency : UInt16 := 60
  /-- The length of a pulse at the closed extreme, in ticks. -/
  pulseMin : UInt16 := 150
  /-- The length of a pulse at the open extreme, in ticks. -/
  pulseMax : UInt16 := 600
  /-- How long the closed extreme is held. -/
  holdMinMs : UInt32 := 1000
  /-- How long the open extreme is held. -/
  holdMaxMs : UInt32 := 2000
  /-- The output that the mixer is wired to. -/
  mixOutput : UInt8 := 6
  deriving DecidableEq, Repr

/-- The contactless reader. -/
structure TagSettings where
  /-- The key that opens the data block. -/
  key : AuthKey := Vector.replicate 6 0xFF
  block : UInt8 := 8
  /-- The pause after a request that no tag answered. -/
  pollIntervalMs : UInt32 := 50
  /-- The pin of the reader's reset line. -/
  resetPin : UInt8 := 25
  clockHz : UInt32 := 1000000
  deriving DecidableEq, Repr

/-- The payment reader. -/
structure PaymentSettings where
  /-- The address of the reader on the bus. -/
  address : UInt8 := 0x24
  frameLength : UInt64 := 64
  pollIntervalMs : UInt32 := 500
  deriving DecidableEq, Repr

/-- All settings of the mixer. -/
structure Settings where
  servo : ServoSettings := {}
  tag : TagSettings := {}
  payment : PaymentSettings := {}
  deriving DecidableEq, Repr

end DrinkMixer
