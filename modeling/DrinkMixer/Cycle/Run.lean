import DrinkMixer.Board
import DrinkMixer.Cycle.Request
import DrinkMixer.Pwm.Requests
import DrinkMixer.Settings.Basic

/-!
# Cycle runs

A cycle takes one controller output to its closed extreme, holds it there, takes it to its open
extreme and holds it there. A run repeats the cycle, counting down to zero, and stops at the first
pulse that fails, with the servo wherever it was sent last.
-/

namespace DrinkMixer

/-- What the servo procedures ask for: the controller, waits and the log, a receiver of events. -/
abbrev Servos : Signature := Pwm.sum (Board.sum Progress)

/-- A servo procedure: it can fail, and nothing follows a failure. -/
abbrev ServoProcedure := ExceptT Failure (Program Servos)

namespace ServoProcedure

/-- A command to the controller. -/
def command (request : Pwm.Request) : ServoProcedure Unit :=
  Program.attempt .pwm (Program.request (S := Pwm) request)

/-- Lets time pass. -/
def wait (ms : UInt32) : ServoProcedure Unit :=
  Program.always (.wait ms)

/-- Puts a record into the log. -/
def note (level : LogLevel) (text : String) : ServoProcedure Unit :=
  Program.always (.note level text)

/-- Tells an event. -/
def emit (event : Event) : ServoProcedure Unit :=
  Program.always (.emit event)

end ServoProcedure

namespace ServoSettings

open ServoProcedure

/-- The controller output of an actuator. -/
def output (settings : ServoSettings) : Actuator → UInt8
  | .pour channel => channel.output
  | .mixer => settings.mixOutput

/-- Sets the pulse frequency, once before any run. -/
def prepare (settings : ServoSettings) : ServoProcedure Unit := do
  command (.setFrequency settings.frequency)
  note .info s!"PWM frequency set to {settings.frequency} Hz"

/-- One cycle of a controller output. -/
def cycle (settings : ServoSettings) (channel : UInt8) : ServoProcedure Unit := do
  note .debug s!"ch{channel} -> min {settings.pulseMin}"
  command (.setPulse channel 0 settings.pulseMin)
  wait settings.holdMinMs
  note .debug s!"ch{channel} -> max {settings.pulseMax}"
  command (.setPulse channel 0 settings.pulseMax)
  wait settings.holdMaxMs

/-- The cycles that are left of a run. -/
def countdown (settings : ServoSettings) (actuator : Actuator) : Nat → ServoProcedure Unit
  | 0 => pure ()
  | remaining + 1 => do
    settings.cycle (settings.output actuator)
    emit (.cycleCompleted actuator (UInt32.ofNat remaining))
    settings.countdown actuator remaining

/-- How many cycles a run has: as many as asked for, but one of the mixer. -/
def total : Actuator → UInt32 → UInt32
  | .pour _, count => count
  | .mixer, _ => 1

/-- Runs the cycles of an actuator and returns how many there were. -/
def run (settings : ServoSettings) (actuator : Actuator) (count : UInt32) :
    ServoProcedure UInt32 := do
  let total := total actuator count
  emit (.cycleStarted actuator total)
  settings.countdown actuator total.toNat
  note .info s!"{total} cycle(s) done on selector {actuator.name}"
  pure total

end ServoSettings

/-! ### From arguments to a run -/

/-- Requests that make a controller available. -/
inductive Opening.Request
  /-- Make the controller described by the settings available. -/
  | openController (settings : ServoSettings)

/-- Where controllers come from; opening one fails in a way of its own. -/
abbrev Opening (ε : Type) : Signature := ⟨Opening.Request, fun _ => Except ε Unit⟩

namespace CycleRequest

variable {ε : Type}

/-- The whole procedure: read the arguments, open the controller, prepare it and run. The
controller is opened only for arguments that are accepted. -/
def serve (wrap : Failure → ε) (settings : ServoSettings) (arguments : List String) :
    ExceptT ε (Program ((Opening ε).sum Servos)) UInt32 := do
  let request ← Program.attempt wrap (.done (CycleRequest.ofArguments arguments))
  Program.attempt id (Program.request (S := Opening ε) (.openController settings))
  Program.attempt wrap (settings.prepare.run.lift)
  Program.attempt wrap ((settings.run request.actuator request.count).run.lift)

end CycleRequest

end DrinkMixer
