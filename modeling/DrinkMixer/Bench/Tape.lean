import DrinkMixer.Console
import DrinkMixer.Tag.Chip

/-!
# The bench tape

A test bench runs the procedures on simulated hardware and records on a tape what they do to the
outside, in order. The tape also holds the stream that lines are printed on, which can be made to
fail, and the stop flag, which can be made to go up at a given entry.
-/

namespace DrinkMixer.Bench

/-- What a procedure did to the outside. -/
inductive Entry
  | delay (ms : UInt32)
  | event (event : Event)
  | printed (text : String)
  /-- It put a record into the log. -/
  | logged (record : LogRecord)
  | opened (address : UInt8)
  /-- It gave the PWM controller a command. -/
  | frequency (hz : UInt16)
  | pulse (channel : UInt8) (on off : UInt16)
  /-- It made a transaction on the bus. -/
  | i2cWrite (address : UInt8) (bytes : List UInt8)
  | i2cWriteRead (address : UInt8) (bytes : List UInt8) (length : Nat)
  | i2cRead (address : UInt8) (length : Nat)
  /-- It asked something of the contactless reader. -/
  | card (asked : Card.Request)
  /-- It gave the contactless reader chip a command. -/
  | chip (command : TagChip.Request Unit)
  | payment (address : UInt8) (length : Nat)
  | cleanup

/-- A stream that can be made to fail. -/
structure Stream where
  /-- How many texts it accepts; all if nothing is said. -/
  limit : Option Nat := none
  /-- Whether it fails when it has shown what it accepted. -/
  flushFails : Bool := false
  accepted : Nat := 0
  /-- What it has accepted and not yet shown. -/
  pending : String := ""

/-- What the bench has recorded. -/
structure Tape where
  withLog : Bool := false
  /-- The entry, counted from one and without log records, at which the stop flag goes up. -/
  stopAt : Nat := 0
  /-- The entries since the last were taken off, in reverse. -/
  entries : List Entry := []
  /-- How many entries there were, without log records. -/
  count : Nat := 0
  stopped : Bool := false
  /-- The stream that lines are printed on. -/
  stream : Stream := {}

namespace Tape

/-- Records an entry. -/
def add (tape : Tape) (entry : Entry) : Tape :=
  let count := tape.count + 1
  { tape with
    entries := entry :: tape.entries
    count := count
    stopped := tape.stopped || count == tape.stopAt }

/-- Records a log record, if those are wanted. -/
def log (tape : Tape) (record : LogRecord) : Tape :=
  if tape.withLog then { tape with entries := .logged record :: tape.entries } else tape

/-- Takes the entries off the tape. -/
def take (tape : Tape) : List Entry × Tape :=
  (tape.entries.reverse, { tape with entries := [] })

/-- Accepts a text to be printed. -/
def write (tape : Tape) (text : String) : Except String Unit × Tape :=
  let stream := tape.stream
  if stream.limit.any (· ≤ stream.accepted) then (.error "scripted write failure", tape)
  else
    let stream :=
      { stream with accepted := stream.accepted + 1, pending := stream.pending ++ text }
    (.ok (), { tape with stream := stream })

/-- Shows the texts accepted. -/
def flush (tape : Tape) : Except String Unit × Tape :=
  let text := tape.stream.pending
  let shown := if text.isEmpty then tape else tape.add (.printed text)
  let shown := { shown with stream := { shown.stream with pending := "" } }
  (if tape.stream.flushFails then .error "scripted flush failure" else .ok (), shown)

/-- The board as the bench simulates it. -/
def board : World Board Tape where
  answer
    | .wait ms, tape => ((), tape.add (.delay ms))
    | .note record, tape => ((), tape.log record)

/-- A receiver that only records the events. -/
def progress : World Progress Tape where
  answer
    | .emit event, tape => ((), tape.add (.event event))

/-- The stream that lines are printed on. -/
def console : World Console Tape where
  answer
    | .write text, tape => tape.write text
    | .flush, tape => tape.flush

/-- Requests to record something that no hardware was asked for. -/
inductive Mark.Request
  | mark (entry : Entry)

/-- Marks on the tape. -/
abbrev Mark : Signature := ⟨Mark.Request, fun _ => Unit⟩

/-- Marks are recorded as they come. -/
def marks : World Mark Tape where
  answer
    | .mark entry, tape => ((), tape.add entry)

end Tape

/-- Who follows the progress. -/
inductive Follower
  /-- A receiver that only records the events. -/
  | recorder
  | console
  deriving DecidableEq, Repr

/-- How events reach their follower. -/
def Follower.realization {T : Signature} {τ : Type} [Offers T Progress] [Offers T Console]
    [Offers T Board] : Follower → Realization Progress T τ
  | recorder => .direct Progress
  | console => Realization.lift (T := Console.sum Board) Console.onConsole

/-- What can be seen of a failure: that of a procedure, or that of a device on its own. -/
inductive Refusal
  | ofProcedure (failure : Failure)
  | ofDevice (failure : Failure)
  deriving DecidableEq, Repr

end DrinkMixer.Bench
