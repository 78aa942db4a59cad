import DrinkMixer.Board
import DrinkMixer.Payment.Frame
import DrinkMixer.Payment.Requests
import DrinkMixer.Settings.Basic
import DrinkMixer.Stop
import DrinkMixer.Tag.Mode
import DrinkMixer.Tag.Requests

/-!
# The tag reader

The reader polls in rounds until one of them reads something. For a contactless tag a round asks
for a tag, singles it out, selects it, opens its data block and reads it; a tag that is not there,
has left or refuses the key sends the reader back to polling. For the payment reader a round waits
and reads a frame, always into the same buffer, which counts if it is marked ready. Before every
round the stop flag is looked at; if it is raised the pins are released, which is no failure.
-/

namespace DrinkMixer

/-- What the tag reader asks for. -/
abbrev TagStation : Signature :=
  Card.sum (PaymentBus.sum (Pins.sum (Stop.sum (Board.sum Progress))))

/-- Where the tag reader stands, and what it has counted since its last start. -/
structure Standing where
  phase : Phase := .idle
  polls : UInt32 := 0
  authFailures : UInt32 := 0
  deriving DecidableEq, Repr

/-- What was read. -/
inductive Reading
  | tag (uid : Uid) (block : Block)
  | frame (bytes : List UInt8)
  deriving DecidableEq, Repr

/-- How a run of the reader ends, unless it fails. -/
inductive ReadOutcome
  | read (reading : Reading)
  /-- The reader was stopped, and the pins are released. -/
  | cancelled
  deriving DecidableEq, Repr

/-- A procedure of the tag reader: its standing is kept when it fails. -/
abbrev ReadProcedure := ExceptT Failure (StateT Standing (Program TagStation))

namespace ReadProcedure

variable {α : Type}

/-- A step that cannot fail. -/
def always (p : Program TagStation α) : ReadProcedure α :=
  ExceptT.lift (StateT.lift p)

/-- A step whose failure ends the procedure. -/
def attempt {ε : Type} (wrap : ε → Failure) (p : Program TagStation (Except ε α)) :
    ReadProcedure α :=
  ExceptT.mk ((·.mapError wrap) <$> StateT.lift p)

/-- Asks the tags in the field to answer. -/
def request : ReadProcedure TagStatus :=
  attempt .tag (Program.request (S := Card) .request)

/-- Singles out one tag. -/
def anticollision : ReadProcedure (Option Uid) :=
  attempt .tag (Program.request (S := Card) .anticollision)

/-- Selects a tag. -/
def select (uid : Uid) : ReadProcedure Unit :=
  attempt .tag (Program.request (S := Card) (.select uid))

/-- Opens a block of a tag with a key. -/
def authenticate (block : UInt8) (key : AuthKey) (uid : Uid) : ReadProcedure TagStatus :=
  attempt .tag (Program.request (S := Card) (.authenticate block key uid))

/-- Reads an open block. -/
def readBlock (block : UInt8) : ReadProcedure Block :=
  attempt .tag (Program.request (S := Card) (.read block))

/-- Reads a frame of the payment reader. -/
def readFrame (address : UInt8) (length : Nat) : ReadProcedure (Vector UInt8 length) :=
  attempt .bus (Program.request (S := PaymentBus) (.read address length))

/-- Puts a record into the log. -/
def note (level : LogLevel) (text : String) : ReadProcedure Unit :=
  always (.note level text)

/-- Tells an event. -/
def emit (event : Event) : ReadProcedure Unit :=
  always (.emit event)

/-- Lets time pass. -/
def wait (ms : UInt32) : ReadProcedure Unit :=
  always (.wait ms)

/-- Goes over to another phase and tells so; staying in a phase is not told. -/
def enter (phase : Phase) : ReadProcedure Unit := do
  let before := (← get).phase
  if before = phase then pure ()
  else
    modify fun standing => { standing with phase := phase }
    note .debug s!"reader {before.name} -> {phase.name}"
    emit (.phaseChanged before phase)

/-- Begins another round. -/
def countPoll : ReadProcedure Unit :=
  modify fun standing => { standing with polls := standing.polls + 1 }

/-- Releases the pins of a reader that was stopped. -/
def release : ReadProcedure ReadOutcome := do
  note .warn s!"reader interrupted in {(← get).phase.name}, releasing pins"
  emit .cancelled
  always (Program.request (S := Pins) .release)
  modify fun standing => { standing with phase := .idle }
  pure .cancelled

/-- Makes rounds until one of them reads something or the reader is stopped; `none` if that takes
more rounds than the fuel allows. -/
def poll (round : ReadProcedure (Option Reading)) : (fuel : Nat) →
    ReadProcedure (Option ReadOutcome)
  | 0 => pure none
  | fuel + 1 => do
    if ← always (Program.request (S := Stop) .look) then
      some <$> release
    else
      match ← round with
      | some reading => pure (some (.read reading))
      | none => poll round fuel

/-! ### The two modes -/

/-- What is done about a tag that refused the key. -/
def refused (uid : Uid) (block : UInt8) (status : TagStatus) : ReadProcedure Unit := do
  modify fun standing => { standing with authFailures := standing.authFailures + 1 }
  let attempts := (← get).authFailures
  note .warn
    s!"tag {uid.text} rejected key for block {block} ({status.name}), attempt {attempts}"
  emit (.authFailed uid)
  enter .polling

/-- One round for a contactless tag. -/
def tagRound (settings : TagSettings) : ReadProcedure (Option Reading) := do
  countPoll
  if (← request) ≠ .ok then
    if 0 < settings.pollIntervalMs then wait settings.pollIntervalMs
    pure none
  else
    match ← anticollision with
    | none =>
      note .debug "tag left the field during anticollision"
      pure none
    | some uid =>
      enter .cardFound
      note .info s!"tag {uid.text} detected"
      select uid
      let status ← authenticate settings.block settings.key uid
      if status ≠ .ok then
        refused uid settings.block status
        pure none
      else
        enter .authenticated
        let block ← readBlock settings.block
        enter .blockRead
        enter .done
        pure (some (.tag uid block))

/-- One round for a payment frame, which is read into the buffer; the buffer is handed on. -/
def frameRound (settings : PaymentSettings) (buffer : Payment.Buffer) :
    ReadProcedure (Payment.Buffer × Option Reading) := do
  wait settings.pollIntervalMs
  countPoll
  let bytes ← readFrame settings.address settings.frameLength.toNat
  let buffer := buffer.fill bytes.toList
  let frame := buffer.front settings.frameLength.toNat
  let polls := (← get).polls
  if Payment.isReady frame then
    match Payment.copy? frame with
    | none => throw (.bus (.frameTooLong settings.frameLength))
    | some frame =>
      note .info s!"payment frame ready after {polls} poll(s)"
      enter .done
      pure (buffer, some (.frame frame))
  else
    emit (.frameNotReady polls)
    pure (buffer, none)

/-- Makes rounds for a payment frame, each with the buffer as the one before left it, until one of
them reads something or the reader is stopped; `none` if that takes more rounds than the fuel
allows. -/
def pollFrames (settings : PaymentSettings) : (fuel : Nat) → Payment.Buffer →
    ReadProcedure (Option ReadOutcome)
  | 0, _ => pure none
  | fuel + 1, buffer => do
    if ← always (Program.request (S := Stop) .look) then
      some <$> release
    else
      match ← frameRound settings buffer with
      | (_, some reading) => pure (some (.read reading))
      | (buffer, none) => pollFrames settings fuel buffer

/-- Starts afresh. -/
def reset : ReadProcedure Unit :=
  set ({} : Standing)

/-- Waits for a contactless tag and reads its data block. -/
def readTag (settings : TagSettings) (fuel : Nat) : ReadProcedure (Option ReadOutcome) := do
  reset
  enter .polling
  poll (tagRound settings) fuel

/-- Waits for a payment frame; a frame length that cannot be read is refused at once. -/
def readPayment (settings : PaymentSettings) (fuel : Nat) :
    ReadProcedure (Option ReadOutcome) := do
  reset
  if settings.frameLength = 0 then throw (.bus .emptyFrame)
  else if Payment.maxFrameLength < settings.frameLength then
    throw (.bus (.frameTooLong settings.frameLength))
  else
    enter .polling
    pollFrames settings fuel (Vector.replicate _ 0)

/-- Waits for what the mode names. -/
def read (settings : Settings) (mode : ReaderMode) (fuel : Nat) :
    ReadProcedure (Option ReadOutcome) :=
  match mode with
  | .uid => readTag settings.tag fuel
  | .payment => readPayment settings.payment fuel

end ReadProcedure

end DrinkMixer
