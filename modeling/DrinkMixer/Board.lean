import DrinkMixer.Event
import DrinkMixer.Log
import DrinkMixer.Program.Basic

/-!
# What every procedure asks of its surroundings

Waiting, the log, and a place for events.
-/

namespace DrinkMixer

/-- Requests to the board a procedure runs on. -/
inductive Board.Request
  | wait (ms : UInt32)
  | note (record : LogRecord)

/-- Waiting and the log. -/
abbrev Board : Signature := ⟨Board.Request, fun _ => Unit⟩

/-- Requests to whoever follows the progress. -/
inductive Progress.Request
  | emit (event : Event)

/-- The receiver of events. -/
abbrev Progress : Signature := ⟨Progress.Request, fun _ => Unit⟩

namespace Program

variable {S : Signature}

/-- Lets so many milliseconds pass. -/
def wait [Offers S Board] (ms : UInt32) : Program S Unit :=
  request (S := Board) (.wait ms)

/-- Puts a record into the log. -/
def note [Offers S Board] (level : LogLevel) (text : String) : Program S Unit :=
  request (S := Board) (.note ⟨level, text⟩)

/-- Tells an event to whoever follows the progress. -/
def emit [Offers S Progress] (event : Event) : Program S Unit :=
  request (S := Progress) (.emit event)

end Program

end DrinkMixer
