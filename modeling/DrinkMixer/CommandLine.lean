import DrinkMixer.Console
import DrinkMixer.Cycle.Run
import DrinkMixer.Order.Document
import DrinkMixer.Order.Pour
import DrinkMixer.Settings.Document
import DrinkMixer.Tag.Reader
import DrinkMixer.Text.Hex

/-!
# The command line

Three tools: one cycles an actuator, one waits for a tag or a payment frame, one pours an order.
Each looks at what it was given before it opens any hardware, in an order of its own, and ends with
the first thing that is wrong. What it leaves behind is an exit status, what it printed, the log
records that are shown, and the text of its error (`Report`).
-/

namespace DrinkMixer

/-- The tools. -/
inductive Tool
  | actuatorCycle
  /-- Waits for a tag or a payment frame. -/
  | tagReader
  | pourOrder
  deriving DecidableEq, Repr

/-- The tool with the given name. -/
def Tool.ofName? : String → Option Tool
  | "actuator-cycle" => some actuatorCycle
  | "tag-reader" => some tagReader
  | "pour-order" => some pourOrder
  | _ => none

/-- Why a tool fails: what could not be done, and what was the cause if that is told apart. -/
structure Trouble where
  text : String
  cause : Option String := none
  deriving DecidableEq, Repr

namespace Trouble

/-- The failure of a procedure, shown as it is. -/
def ofFailure (failure : Failure) : Trouble :=
  ⟨failure.message, none⟩

/-- Settings that cannot be used. -/
def ofSettings (fault : SettingsFault) : Trouble :=
  ⟨"loading configuration", some fault.message⟩

/-- The text that a tool ends with. -/
def shown : Trouble → String
  | ⟨text, none⟩ => "Error: " ++ text ++ "\n"
  | ⟨text, some cause⟩ => "Error: " ++ text ++ "\n\nCaused by:\n    " ++ cause ++ "\n"

end Trouble

/-! ### What a tool asks for -/

/-- A file that was named for the settings, under its path. -/
structure SettingsFile where
  path : String
  source : SettingsSource
  deriving DecidableEq, Repr

/-- Requests to the machine that a tool runs on. -/
inductive Machine.Request
  /-- Look whether a file is named for the settings, and what is in it. -/
  | findSettings
  /-- Let interrupts raise the stop flag. -/
  | handleInterrupts
  /-- Make the reader hardware described by the settings available. -/
  | openReader (settings : TagSettings)
  | print (line : String)

/-- What a request gives. -/
def Machine.Request.Answer : Machine.Request → Type
  | findSettings => Option SettingsFile
  | handleInterrupts => Except String Unit
  | openReader _ => Except Trouble Unit
  | print _ => Unit

/-- The machine that a tool runs on. -/
abbrev Machine : Signature := ⟨Machine.Request, Machine.Request.Answer⟩

/-- What the tools ask for: controllers, the machine, and what their procedures ask for. -/
abbrev ToolStation : Signature :=
  (Opening Trouble).sum (Machine.sum (Pwm.sum TagStation))

/-- A procedure of a tool: nothing follows the first trouble. -/
abbrev ToolProcedure := ExceptT Trouble (Program ToolStation)

namespace ToolProcedure

variable {α : Type}

/-- Goes on with what was accepted. -/
def accept (answer : Except Failure α) : ToolProcedure α :=
  Program.attempt .ofFailure (.done answer)

/-- A servo procedure as a part of a tool. -/
def servos (p : ServoProcedure α) : ToolProcedure α :=
  Program.attempt .ofFailure p.run.lift

/-- A procedure of the tag reader as a part of a tool, from a fresh start; where the reader stands
at its end is given as well. -/
def reader (p : ReadProcedure α) : ToolProcedure (α × Standing) :=
  Program.attempt .ofFailure <| (p.run.run {}).lift >>= fun (answer, standing) =>
    .done (answer.map fun value => (value, standing))

/-- Puts a record into the log. -/
def note (level : LogLevel) (text : String) : ToolProcedure Unit :=
  Program.always (.note level text)

/-- Prints a line. -/
def print (line : String) : ToolProcedure Unit :=
  Program.always (Program.request (S := Machine) (.print line))

/-- Takes the settings out of the file that is named for them, or the defaults if none is. -/
def takeSettings : Option SettingsFile → ToolProcedure Settings
  | some file => do
    let settings ← Program.attempt .ofSettings (.done file.source.load)
    note .info ("config: loaded " ++ file.path)
    pure settings
  | none => pure {}

/-- Looks for the settings and takes them. -/
def loadSettings : ToolProcedure Settings := do
  takeSettings (← Program.always (Program.request (S := Machine) .findSettings))

/-- Lets interrupts raise the stop flag. -/
def handleInterrupts : ToolProcedure Unit :=
  Program.attempt (fun reason => ⟨"installing Ctrl-C handler", some reason⟩)
    (Program.request (S := Machine) .handleInterrupts)

/-- Makes the controller available. -/
def openController (settings : ServoSettings) : ToolProcedure Unit :=
  Program.attempt id (Program.request (S := Opening Trouble) (.openController settings))

/-- Makes the reader hardware available. -/
def openReader (settings : TagSettings) : ToolProcedure Unit :=
  Program.attempt id (Program.request (S := Machine) (.openReader settings))

end ToolProcedure

/-! ### The tools -/

/-- Bytes in hexadecimal, one after the other. -/
def hexLine (bytes : List UInt8) : String :=
  String.join (bytes.map Text.Hex.lower)

/-- The lines that are printed for what a reader ended with. -/
def ReadOutcome.lines : ReadOutcome → List String
  | read (.tag uid block) => ["UID " ++ uid.text, hexLine block.toList]
  | read (.frame bytes) => [hexLine bytes]
  | cancelled => []

namespace Tool

open ToolProcedure

/-- Cycles an actuator. -/
def cycle (arguments : List String) : ToolProcedure Unit := do
  let settings ← loadSettings
  let cycles ← ExceptT.mk (CycleRequest.serve .ofFailure settings.servo arguments).run.lift
  note .info s!"actuator-cycle: {cycles} cycle(s)"

/-- Waits for a tag or a payment frame and prints it; `false` if that takes more rounds than the
fuel allows. -/
def read (arguments : List String) (fuel : Nat) : ToolProcedure Bool := do
  let mode ← accept (ReaderMode.ofArguments arguments)
  let settings ← loadSettings
  handleInterrupts
  openReader settings.tag
  match ← reader (ReadProcedure.read settings mode fuel) with
  | (none, _) => pure false
  | (some outcome, standing) =>
    outcome.lines.forM print
    note .info s!"tag-reader: {standing.polls} poll(s)"
    pure true

/-- Pours an order. -/
def pour : List String → ToolProcedure Unit
  | [] => accept (.error (.missingArgument "order"))
  | document :: _ => do
    let order ← accept (Order.ofText document)
    if order.isEmpty then
      note .warn "pour-order: nothing to pour"
    else
      let settings ← loadSettings
      openController settings.servo
      let cycles ← servos (order.pour settings.servo)
      note .info s!"pour-order: {cycles} cycle(s)"

/-- What a tool does with its arguments; `false` if it reads and that takes more rounds than the
fuel allows. -/
def launch (tool : Tool) (arguments : List String) (fuel : Nat) : ToolProcedure Bool :=
  match tool with
  | actuatorCycle => do
    cycle arguments
    pure true
  | tagReader => read arguments fuel
  | pourOrder => do
    pour arguments
    pure true

end Tool

/-! ### Reports -/

/-- What a tool leaves behind. -/
structure Report where
  /-- The exit status, once the tool is finished. -/
  status : Option UInt8
  output : String
  /-- The log records that are shown. -/
  records : List LogRecord
  /-- The text of the error that it ended with. -/
  errors : String
  deriving DecidableEq, Repr

namespace ToolStation

/-- The line that a call prints; events are followed on a console. -/
def line? : Call ToolStation → Option String
  | ⟨.inr (.inl (.print line)), _⟩ => some line
  | ⟨.inr (.inr (.inr (.inr (.inr (.inr (.inr (.inr (.emit event)))))))), _⟩ => event.line?
  | _ => none

/-- The record that a call puts into the log. -/
def record? : Call ToolStation → Option LogRecord
  | ⟨.inr (.inr (.inr (.inr (.inr (.inr (.inr (.inl (.note record)))))))), _⟩ => some record
  | ⟨.inr (.inr (.inr (.inr (.inr (.inr (.inr (.inr (.emit event)))))))), _⟩ => some event.record
  | _ => none

end ToolStation

/-- What is left behind by some calls and a result. -/
def Report.of (calls : List (Call ToolStation)) (result : Except Trouble Bool) : Report where
  status :=
    match result with
    | .ok true => some 0
    | .ok false => none
    | .error _ => some 1
  output := String.join ((calls.filterMap ToolStation.line?).map (· ++ "\n"))
  records := (calls.filterMap ToolStation.record?).filter (·.level.isShown)
  errors :=
    match result with
    | .ok _ => ""
    | .error trouble => trouble.shown

/-- What a tool leaves behind in a world. -/
def Tool.report {σ : Type} (tool : Tool) (arguments : List String) (fuel : Nat)
    (w : World ToolStation σ) (s : σ) : Report :=
  let p := (tool.launch arguments fuel).run
  .of (p.calls w s) (p.eval w s).1

/-- A machine without any hardware, where a file may be named for the settings. -/
def unequipped (file : Option SettingsFile) : World ToolStation Unit where
  answer
    | .inl (.openController _), s => (.error ⟨"opening I2C bus 1", none⟩, s)
    | .inr (.inl .findSettings), s => (file, s)
    | .inr (.inl .handleInterrupts), s => (.ok (), s)
    | .inr (.inl (.openReader _)), s => (.error ⟨"opening GPIO", none⟩, s)
    | .inr (.inl (.print _)), s => ((), s)
    | .inr (.inr (.inl _)), s => (.error .writeFailed, s)
    | .inr (.inr (.inr (.inl .request))), s => (.error .transport, s)
    | .inr (.inr (.inr (.inl .anticollision))), s => (.error .transport, s)
    | .inr (.inr (.inr (.inl (.select _)))), s => (.error .transport, s)
    | .inr (.inr (.inr (.inl (.authenticate _ _ _)))), s => (.error .transport, s)
    | .inr (.inr (.inr (.inl (.read _)))), s => (.error .transport, s)
    | .inr (.inr (.inr (.inr (.inl (.read _ _))))), s => (.error .readFailed, s)
    | .inr (.inr (.inr (.inr (.inr (.inl _))))), s => ((), s)
    | .inr (.inr (.inr (.inr (.inr (.inr (.inl _)))))), s => (false, s)
    | .inr (.inr (.inr (.inr (.inr (.inr (.inr (.inl _))))))), s => ((), s)
    | .inr (.inr (.inr (.inr (.inr (.inr (.inr (.inr _))))))), s => ((), s)

end DrinkMixer
