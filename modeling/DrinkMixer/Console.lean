import DrinkMixer.Board
import DrinkMixer.Program.World

/-!
# The console

Progress as the operator sees it: every event is put into the log, and most of them also print a
line. A line that cannot be printed is noted in the log and otherwise lost; a console that has gone
away must not stop a servo half-way.
-/

namespace DrinkMixer

/-- Requests to the stream that lines are printed on. -/
inductive Console.Request
  | write (text : String)
  | flush

/-- The stream that lines are printed on; a failure comes with a text. -/
abbrev Console : Signature := ⟨Console.Request, fun _ => Except String Unit⟩

/-- The line for a finished cycle. -/
def Actuator.completionLine : Actuator → String
  | pour channel => s!"Servo {channel.val} Completed!"
  | mixer => "Mixing Completed!"

/-- The line for a run that begins. -/
def Actuator.startLine : Actuator → String
  | pour channel => s!"Moving servo on channel {channel.val}, press Ctrl-C to quit..."
  | mixer => "Turning mixing motor..."

namespace Event

/-- The line that is printed for an event. -/
def line? : Event → Option String
  | cycleStarted actuator _ => some actuator.startLine
  | cycleCompleted actuator _ => some actuator.completionLine
  | phaseChanged _ _ => none
  | authFailed uid => some s!"Authentication error for tag {uid.text}"
  | frameNotReady _ => none
  | cancelled => some "Aborted"
  | pourStarted _ _ => none
  | pourFinished => some "Pour Completed!"

/-- The log record of an event. -/
def record : Event → LogRecord
  | cycleStarted actuator count =>
    ⟨.info, s!"CYCLE | start selector={actuator.name} count={count}"⟩
  | cycleCompleted actuator remaining =>
    ⟨.info, s!"CYCLE | done selector={actuator.name} remaining={remaining}"⟩
  | phaseChanged before after => ⟨.debug, s!"READER | {before.name} -> {after.name}"⟩
  | authFailed uid => ⟨.warn, s!"READER | auth failed for {uid.text}"⟩
  | frameNotReady polls => ⟨.debug, s!"READER | payment frame not ready (poll {polls})"⟩
  | cancelled => ⟨.info, "READER | cancelled"⟩
  | pourStarted channels mix => ⟨.info, s!"POUR | start channels={channels} mix={mix}"⟩
  | pourFinished => ⟨.info, "POUR | finished"⟩

end Event

namespace Console

/-- Accepts and shows a text; the second is left out if the first fails. A line and its end are one
text here, which is taken whole or not at all; a formatted write may hand them to a stream in
parts. -/
def deliver (text : String) : Program (Console.sum Board) (Except String Unit) := do
  match ← Program.request (S := Console) (.write text) with
  | .ok () => Program.request (S := Console) .flush
  | .error reason => pure (.error reason)

/-- Prints a line; a failure is only noted. -/
def print (line : String) : Program (Console.sum Board) Unit := do
  match ← deliver (line ++ "\n") with
  | .ok () => pure ()
  | .error reason => Program.note .debug ("console write failed: " ++ reason)

/-- Puts an event into the log and prints its line. -/
def follow (event : Event) : Program (Console.sum Board) Unit := do
  Program.note event.record.level event.record.text
  match event.line? with
  | some line => print line
  | none => pure ()

/-- How events are followed on the console. -/
def onConsole {τ : Type} : Realization Progress (Console.sum Board) τ :=
  .stateless fun
    | .emit event => follow event

end Console

end DrinkMixer
