import DrinkMixer.Board
import DrinkMixer.I2c.Requests
import DrinkMixer.Program.World
import DrinkMixer.Pwm.Prescale
import DrinkMixer.Pwm.Requests
import DrinkMixer.Text.Hex

/-!
# The PWM controller chip

How the sixteen-channel PCA9685 carries out the commands of the servo procedures: every register is
written by a transaction of its own, so that the chip never has to count registers up, and the
prescaler is written only while the chip sleeps.
-/

namespace DrinkMixer.Pwm

/-! ### Registers and their bits -/

/-- The first mode register. -/
def mode1 : UInt8 := 0x00

/-- The second mode register. -/
def mode2 : UInt8 := 0x01

/-- The first of the four registers of channel 0; four more follow for each further channel. -/
def channelBase : UInt8 := 0x06

/-- The first of the four registers that stand for all channels at once. -/
def allChannelsBase : UInt8 := 0xFA

/-- The prescaler. -/
def prescaler : UInt8 := 0xFE

/-- Bit of `mode1`: restart the outputs. -/
def restart : UInt8 := 0x80

/-- Bit of `mode1`: the oscillator is off. -/
def sleep : UInt8 := 0x10

/-- Bit of `mode1`: the chip also answers at the common address. -/
def allCall : UInt8 := 0x01

/-- Bit of `mode2`: the outputs drive both ways. -/
def pushPull : UInt8 := 0x04

/-- How many outputs the chip has. -/
def channelCount : UInt8 := 16

/-- How long the oscillator takes to settle after sleep, in milliseconds. -/
def wakeMs : UInt32 := 5

/-- The first of the four registers of a channel. -/
def channelRegister (channel : UInt8) : UInt8 :=
  channelBase + 4 * channel

/-! ### Operations -/

/-- What the controller needs: the bus, waits and the log. -/
abbrev ControllerBus : Signature := I2c.sum Board

/-- An operation on the chip; the first transaction that fails ends it. -/
abbrev ControllerProcedure := ExceptT PwmFault (Program ControllerBus)

/-- The chip at a bus address. -/
structure Controller where
  address : UInt8
  deriving DecidableEq, Repr

namespace Controller

/-- Lets time pass. -/
def wait (ms : UInt32) : ControllerProcedure Unit :=
  Program.always (.wait ms)

/-- Puts a debug record into the log. -/
def note (text : String) : ControllerProcedure Unit :=
  Program.always (.note .debug text)

/-- Notes in the log that a transaction for a register failed. -/
def noteFailed (transfer : String) (register : UInt8) (fault : I2c.Fault) :
    Program ControllerBus Unit :=
  .note .warn s!"pca9685 {transfer} 0x{Text.Hex.lower register} failed: {fault.name}"

/-- Writes one register. -/
def writeRegister (controller : Controller) (register value : UInt8) : ControllerProcedure Unit :=
  ExceptT.mk do
    match ← Program.request (S := I2c) (.write controller.address [register, value]) with
    | .ok () => pure (.ok ())
    | .error (fault : I2c.Fault) =>
      noteFailed "write" register fault
      pure (.error .writeFailed)

/-- Reads one register. -/
def readRegister (controller : Controller) (register : UInt8) : ControllerProcedure UInt8 :=
  ExceptT.mk do
    match ← Program.request (S := I2c) (.writeRead controller.address [register] 1) with
    | .ok (bytes : Vector UInt8 1) => pure (.ok bytes[0])
    | .error (fault : I2c.Fault) =>
      noteFailed "read" register fault
      pure (.error .readFailed)

/-- Writes the on and off ticks into four registers, low bytes first. -/
def writeTicks (controller : Controller) (base : UInt8) (on off : UInt16) :
    ControllerProcedure Unit := do
  controller.writeRegister base on.toUInt8
  controller.writeRegister (base + 1) (on >>> 8).toUInt8
  controller.writeRegister (base + 2) off.toUInt8
  controller.writeRegister (base + 3) (off >>> 8).toUInt8

/-- The same ticks on every channel. -/
def setAllPulses (controller : Controller) (on off : UInt16) : ControllerProcedure Unit :=
  controller.writeTicks allChannelsBase on off

/-- Brings the chip to a known state: all outputs off and driven both ways, awake. -/
def setUp (controller : Controller) : ControllerProcedure Unit := do
  controller.setAllPulses 0 0
  controller.writeRegister mode2 pushPull
  controller.writeRegister mode1 allCall
  wait wakeMs
  let mode ← controller.readRegister mode1
  controller.writeRegister mode1 (mode &&& ~~~sleep)
  wait wakeMs
  note ("pca9685@0x" ++ Text.Hex.lower controller.address ++ ": initialised")

/-- Sets the frequency: the chip is put to sleep, its prescaler written, and it is woken up in the
mode it was in and restarted. -/
def setFrequency (controller : Controller) (hz : UInt16) : ControllerProcedure Unit := do
  match prescale? hz with
  | none => throw (.frequencyOutOfRange hz)
  | some prescale =>
    let mode ← controller.readRegister mode1
    controller.writeRegister mode1 ((mode &&& ~~~restart) ||| sleep)
    controller.writeRegister prescaler prescale
    controller.writeRegister mode1 mode
    wait wakeMs
    controller.writeRegister mode1 (mode ||| restart)
    note s!"pca9685: {hz} Hz, prescale {prescale}"

/-- Sets the ticks of one channel. -/
def setPulse (controller : Controller) (channel : UInt8) (on off : UInt16) :
    ControllerProcedure Unit :=
  if channel < channelCount then controller.writeTicks (channelRegister channel) on off
  else throw (.invalidChannel channel)

/-- How the chip carries out a command of the servo procedures. -/
def perform (controller : Controller) : Pwm.Request → ControllerProcedure Unit
  | .setFrequency hz => controller.setFrequency hz
  | .setPulse channel on off => controller.setPulse channel on off

/-- How the chip carries out the commands of the servo procedures. -/
def onChip {τ : Type} (controller : Controller) : Realization Pwm ControllerBus τ :=
  .stateless fun request => (controller.perform request).run

end Controller

/-! ### Histories -/

/-- Everything that the chip can be told to do. -/
inductive Operation
  | setUp
  | command (request : Pwm.Request)
  | setAllPulses (on off : UInt16)

/-- How the chip does what it is told. -/
def Controller.operate (controller : Controller) : Operation → ControllerProcedure Unit
  | .setUp => controller.setUp
  | .command request => controller.perform request
  | .setAllPulses on off => controller.setAllPulses on off

/-- The chip is told one thing after another, whatever comes of each; all results are kept. -/
def Controller.operateAll (controller : Controller) :
    List Operation → Program ControllerBus (List (Except PwmFault Unit))
  | [] => pure []
  | operation :: rest => do
    let result ← (controller.operate operation).run
    return result :: (← controller.operateAll rest)

end DrinkMixer.Pwm
