import DrinkMixer.Bench.Tape
import DrinkMixer.Order.Document
import DrinkMixer.Order.Pour
import DrinkMixer.Pwm.Controller
import DrinkMixer.Pwm.Device

/-!
# The servo bench

Servo procedures on simulated hardware: either a controller that answers commands from a script, or
the controller chip with its registers. One controller lives through all steps of a session.
-/

namespace DrinkMixer.Bench

/-- Which calls are made to fail, numbered from zero on through a session. -/
structure Faults (ε : Type) where
  /-- Faults of single calls; the first entry for a call counts. -/
  single : List (Nat × ε) := []
  /-- The fault of a call and of all later ones. -/
  from? : Option (Nat × ε) := none

/-- The fault that a call is made to have. -/
def Faults.of? {ε : Type} (faults : Faults ε) (call : Nat) : Option ε :=
  match faults.single.lookup call with
  | some fault => some fault
  | none => (faults.from?.filter fun (first, _) => first ≤ call).map (·.2)

/-- The controller of a session. -/
inductive ServoHardware
  | scripted (faults : Faults PwmFault)
  /-- It is the chip, with the device at an address. -/
  | chip (address : UInt8) (faults : Faults I2c.Fault)

/-- What the simulated servo hardware is asked for. -/
abbrev ServoRig : Signature :=
  Pwm.sum (I2c.sum (Board.sum (Progress.sum (Console.sum Tape.Mark))))

/-- What the simulated servo hardware keeps. -/
structure ServoState where
  tape : Tape
  /-- How many commands the scripted controller got. -/
  commands : Nat := 0
  device : Pwm.Device.State := {}

namespace ServoState

/-- Records an entry. -/
def add (state : ServoState) (entry : Entry) : ServoState :=
  { state with tape := state.tape.add entry }

/-- A world of the tape alone. -/
def onTape {S : Signature} (w : World S Tape) : World S ServoState :=
  w.focus tape fun state tape => { state with tape := tape }

/-- The entry for a command to the controller. -/
def commandEntry : Pwm.Request → Entry
  | .setFrequency hz => .frequency hz
  | .setPulse channel on off => .pulse channel on off

/-- The controller that answers from a script. -/
def scripted (faults : Faults PwmFault) : World Pwm ServoState where
  answer request state :=
    let result := match faults.of? state.commands with
      | some fault => .error fault
      | none => .ok ()
    (result, { state.add (commandEntry request) with commands := state.commands + 1 })

/-- The entry for a transaction. -/
def transactionEntry : I2c.Request → Entry
  | .write address bytes => .i2cWrite address bytes
  | .writeRead address bytes length => .i2cWriteRead address bytes length
  | .read address length => .i2cRead address length

/-- The bus with the device, with a record of all transactions. -/
def bus (device : Pwm.Device) : World I2c ServoState where
  answer request state :=
    let (answer, after) := device.world.answer request state.device
    (answer, { state.add (transactionEntry request) with device := after })

end ServoState

namespace ServoHardware

open ServoState

/-- The simulated hardware. -/
def world (hardware : ServoHardware) : World ServoRig ServoState :=
  let rest := (onTape Tape.board).sum
    ((onTape Tape.progress).sum ((onTape Tape.console).sum (onTape Tape.marks)))
  match hardware with
  | scripted faults => (ServoState.scripted faults).sum ((bus ⟨0, fun _ => none⟩).sum rest)
  | chip address faults => (ServoState.scripted {}).sum ((bus ⟨address, faults.of?⟩).sum rest)

/-- How commands to the controller are carried out. -/
def commands (hardware : ServoHardware) (settings : ServoSettings) :
    Realization Pwm ServoRig Unit :=
  match hardware with
  | scripted _ => .direct Pwm
  | chip _ _ => (Pwm.Controller.onChip ⟨settings.address⟩).lift

/-- How everything a servo procedure asks for is carried out. -/
def realization (hardware : ServoHardware) (settings : ServoSettings) (follower : Follower) :
    Realization Servos ServoRig Unit :=
  (hardware.commands settings).sum ((Realization.direct Board).sum follower.realization)

end ServoHardware

/-! ### Sessions -/

/-- What is done in a step of a session. -/
inductive ServoStep
  /-- Set the pulse frequency of the settings. -/
  | prepare
  | run (actuator : Actuator) (count : UInt32)
  /-- Ask for the output of an actuator. -/
  | output (actuator : Actuator)
  /-- Carry out arguments; opening the controller may fail, and may set the chip up. -/
  | serve (arguments : List String) (openFault : Option PwmFault) (setUp : Bool)
  /-- Pour the order that a text holds. -/
  | pour (text : String)
  | operate (operation : Pwm.Operation)
  /-- Change a register behind the back of the controller. -/
  | poke (register value : UInt8)

/-- What a step gives. -/
inductive ServoAnswer
  | unit
  | number (value : Nat)

/-- The servo bench. -/
structure ServoBench where
  settings : ServoSettings
  hardware : ServoHardware
  follower : Follower

namespace ServoBench

variable {α : Type}

/-- Runs a program on the simulated hardware. -/
def perform (bench : ServoBench) (p : Program ServoRig α) (state : ServoState) :
    α × ServoState :=
  p.eval bench.hardware.world state

/-- A servo procedure on the simulated hardware. -/
def procedure (bench : ServoBench) (p : ServoProcedure α) :
    Program ServoRig (Except Failure α) :=
  (p.run.realize (bench.hardware.realization bench.settings bench.follower)).run' ()

/-- What the controller is told to do; one that answers from a script knows commands only, and has
nothing to do otherwise. -/
def operate (bench : ServoBench) (operation : Pwm.Operation) :
    Program ServoRig (Except PwmFault Unit) :=
  match bench.hardware, operation with
  | .scripted _, .command request => Program.request (S := Pwm) request
  | .scripted _, _ => pure (.ok ())
  | .chip _ _, operation => (Pwm.Controller.operate ⟨bench.settings.address⟩ operation).run.lift

/-- Opening the controller: it may fail, and may set the chip up. -/
def opening (bench : ServoBench) (openFault : Option PwmFault) (setUp : Bool) :
    Realization (Opening Failure) ServoRig Unit :=
  .stateless fun
    | .openController settings => do
      Program.request (S := Tape.Mark) (.mark (.opened settings.address))
      match openFault with
      | some fault => pure (.error (.pwm fault))
      | none =>
        if setUp then
          return (← bench.operate .setUp).mapError Failure.pwm
        else pure (.ok ())

/-- The program of a step that asks something of the hardware. -/
def program (bench : ServoBench) : ServoStep → Program ServoRig (Except Refusal ServoAnswer)
  | .prepare => unit (bench.procedure bench.settings.prepare)
  | .run actuator count => number (bench.procedure (bench.settings.run actuator count))
  | .output actuator => pure (.ok (.number (bench.settings.output actuator).toNat))
  | .serve arguments openFault setUp =>
    let serving := CycleRequest.serve id bench.settings arguments
    number ((serving.run.realize ((bench.opening openFault setUp).sum
      (bench.hardware.realization bench.settings bench.follower))).run' ())
  | .pour text => do
    match Order.ofText text with
    | .error failure => pure (.error (.ofProcedure failure))
    | .ok order => number (bench.procedure (order.pour bench.settings))
  | .operate operation => device (bench.operate operation)
  | .poke _ _ => pure (.ok .unit)
where
  /-- The answer of a device that gives nothing. -/
  device (p : Program ServoRig (Except PwmFault Unit)) :
      Program ServoRig (Except Refusal ServoAnswer) := do
    return ((← p).mapError fun fault => Refusal.ofDevice (.pwm fault)).map fun _ => .unit
  /-- The answer of a procedure that gives nothing. -/
  unit (p : Program ServoRig (Except Failure Unit)) :
      Program ServoRig (Except Refusal ServoAnswer) := do
    return ((← p).mapError .ofProcedure).map fun _ => .unit
  /-- The answer of a procedure that gives a number. -/
  number (p : Program ServoRig (Except Failure UInt32)) :
      Program ServoRig (Except Refusal ServoAnswer) := do
    return ((← p).mapError .ofProcedure).map fun n => .number n.toNat

/-- Makes a step: its result, and what it did to the outside. -/
def step (bench : ServoBench) (step : ServoStep) (state : ServoState) :
    (Except Refusal ServoAnswer × List Entry) × ServoState :=
  let state := match step with
    | .poke register value =>
      { state with device.registers := state.device.registers.store register value }
    | _ => state
  let (result, state) := bench.perform (bench.program step) state
  let (entries, tape) := state.tape.take
  ((result, entries), { state with tape := tape })

end ServoBench

end DrinkMixer.Bench
