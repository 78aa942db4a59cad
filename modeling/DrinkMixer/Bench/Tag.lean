import DrinkMixer.Bench.Tape
import DrinkMixer.Payment.Bus
import DrinkMixer.Tag.Chip
import DrinkMixer.Tag.Reader

/-!
# The tag bench

The tag reader on simulated hardware: a contactless reader that answers from a script, or its chip
with scripted commands, for which all tags answer alike; a payment reader that answers from a
script, or its bus. One reader, one script and one stop flag live through all steps of a session.
-/

namespace DrinkMixer.Bench

/-- The answers that are still to be given, each kind in its own queue. -/
structure Script where
  request : List (Except TagFault TagStatus) := []
  anticollision : List (Except TagFault (Option Uid)) := []
  selectTag : List (Except TagFault Unit) := []
  authenticate : List (Except TagFault TagStatus) := []
  readBlock : List (Except TagFault Block) := []
  reqa : List (Except TagChip.Fault Unit) := []
  select : List (Except TagChip.Fault Uid) := []
  auth : List (Except TagChip.Fault Unit) := []
  read : List (Except TagChip.Fault Block) := []
  halt : List (Except TagChip.Fault Unit) := []
  stopCrypto : List (Except TagChip.Fault Unit) := []
  frame : List (Except BusFault (List UInt8)) := []
  wire : List (Except I2c.Fault (List UInt8)) := []

namespace Script

/-- Adds further answers at the end of each queue. -/
def append (first second : Script) : Script where
  request := first.request ++ second.request
  anticollision := first.anticollision ++ second.anticollision
  selectTag := first.selectTag ++ second.selectTag
  authenticate := first.authenticate ++ second.authenticate
  readBlock := first.readBlock ++ second.readBlock
  reqa := first.reqa ++ second.reqa
  select := first.select ++ second.select
  auth := first.auth ++ second.auth
  read := first.read ++ second.read
  halt := first.halt ++ second.halt
  stopCrypto := first.stopCrypto ++ second.stopCrypto
  frame := first.frame ++ second.frame
  wire := first.wire ++ second.wire

/-- More rounds than the tag reader can make before a queue that every round needs is used up and
its answer ends the run. -/
def rounds (script : Script) : Nat :=
  script.request.length + script.reqa.length + script.frame.length + script.wire.length + 2

/-- The first answer of a queue, or another one if it is used up, and the rest of the queue. -/
def next {α : Type} (empty : α) : List α → α × List α
  | [] => (empty, [])
  | first :: rest => (first, rest)

end Script

/-- The simulated hardware of the tag reader. -/
structure TagHardware where
  chip : Bool := false
  /-- The payment reader is on its bus. -/
  wired : Bool := false
  device : UInt8 := 0x24

/-- What the simulated tag reader hardware is asked for. -/
abbrev TagRig : Signature :=
  Card.sum ((TagChip Unit).sum (PaymentBus.sum (I2c.sum (Pins.sum (Stop.sum
    (Board.sum (Progress.sum Console)))))))

/-- What the simulated tag reader hardware keeps. -/
structure TagState where
  tape : Tape
  script : Script := {}
  memory : TagChip.Memory Unit := {}
  standing : Standing := {}

namespace TagState

/-- Records an entry. -/
def add (state : TagState) (entry : Entry) : TagState :=
  { state with tape := state.tape.add entry }

/-- A world of the tape alone. -/
def onTape {S : Signature} (w : World S Tape) : World S TagState :=
  w.focus tape fun state tape => { state with tape := tape }

/-- Takes an answer from a queue. -/
def draw {α : Type} (state : TagState) (empty : α) (get : Script → List α)
    (set : Script → List α → Script) : α × TagState :=
  let (answer, rest) := Script.next empty (get state.script)
  (answer, { state with script := set state.script rest })

/-- A block of zeros. -/
def zeroBlock : Block :=
  Vector.replicate 16 0

/-- The contactless reader that answers from a script. -/
def card : World Card TagState where
  answer asked state :=
    let state := state.add (.card asked)
    match asked with
    | .request =>
      state.draw (.error .transport) Script.request fun s q => { s with request := q }
    | .anticollision =>
      state.draw (.ok none) Script.anticollision fun s q => { s with anticollision := q }
    | .select _ => state.draw (.ok ()) Script.selectTag fun s q => { s with selectTag := q }
    | .authenticate _ _ _ =>
      state.draw (.ok .ok) Script.authenticate fun s q => { s with authenticate := q }
    | .read _ =>
      state.draw (.ok zeroBlock) Script.readBlock fun s q => { s with readBlock := q }

/-- The chip whose commands are scripted. -/
def chip : World (TagChip Unit) TagState where
  answer command state :=
    let state := state.add (.chip command)
    match command with
    | .reqa => state.draw (.error (.transfer "Other")) Script.reqa fun s q => { s with reqa := q }
    | .select _ => state.draw (.error .timeout) Script.select fun s q => { s with select := q }
    | .authenticate _ _ _ => state.draw (.ok ()) Script.auth fun s q => { s with auth := q }
    | .read _ => state.draw (.ok zeroBlock) Script.read fun s q => { s with read := q }
    | .halt => state.draw (.ok ()) Script.halt fun s q => { s with halt := q }
    | .stopCrypto => state.draw (.ok ()) Script.stopCrypto fun s q => { s with stopCrypto := q }

/-- A frame cut to a length, or filled up with zeros. -/
def fit (bytes : List UInt8) (length : Nat) : Vector UInt8 length :=
  Vector.ofFn fun i => bytes[i.val]?.getD 0

/-- The payment reader that answers from a script. -/
def payment : World PaymentBus TagState where
  answer
    | .read address length, state =>
      let state := state.add (.payment address length)
      let (frame, state) :=
        state.draw (.error .readFailed) Script.frame fun s q => { s with frame := q }
      (frame.map (fit · length), state)

/-- The bus with the payment reader at an address. -/
def wire (device : UInt8) : World I2c TagState where
  answer
    | .read address length, state =>
      let state := state.add (.i2cRead address length)
      if address = device then
        let (frame, state) := state.draw (.error .other) Script.wire fun s q => { s with wire := q }
        (frame.map (fit · length), state)
      else (.error (.noAcknowledge .address), state)
    | .write _ _, state => (.error .other, state)
    | .writeRead _ _ _, state => (.error .other, state)

/-- The pins; giving them back is recorded. -/
def pins : World Pins TagState where
  answer
    | .release, state => ((), state.add .cleanup)

/-- The stop flag on the tape. -/
def stop : World Stop TagState where
  answer
    | .look, state => (state.tape.stopped, state)

end TagState

namespace TagHardware

open TagState

/-- The simulated hardware. -/
def world (hardware : TagHardware) : World TagRig TagState :=
  card.sum (TagState.chip.sum (payment.sum ((wire hardware.device).sum (pins.sum (stop.sum
    ((onTape Tape.board).sum ((onTape Tape.progress).sum (onTape Tape.console))))))))

/-- How the contactless reader's requests are carried out. -/
def cards (hardware : TagHardware) : Realization Card TagRig (TagChip.Memory Unit) :=
  if hardware.chip then TagChip.onChip.lift else .direct Card

/-- How the payment reader's requests are carried out. -/
def payments (hardware : TagHardware) : Realization PaymentBus TagRig (TagChip.Memory Unit) :=
  if hardware.wired then Payment.onBus.lift else .direct PaymentBus

/-- How everything the tag reader asks for is carried out. -/
def realization (hardware : TagHardware) (follower : Follower) :
    Realization TagStation TagRig (TagChip.Memory Unit) :=
  hardware.cards.sum (hardware.payments.sum ((Realization.direct Pins).sum
    ((Realization.direct Stop).sum ((Realization.direct Board).sum follower.realization))))

end TagHardware

/-! ### Sessions -/

/-- What is done in a step of a session. -/
inductive TagStep
  | run (mode : ReaderMode)
  | card (asked : Card.Request)
  | payment (address : UInt8) (length : Nat)
  | cleanup
  | cancel
  /-- Take a stop flag that is down. -/
  | newFlag
  | push (script : Script)

/-- What a step gives. -/
inductive TagAnswer
  | unit
  | outcome (outcome : ReadOutcome)
  | status (status : TagStatus)
  | uid (uid : Option Uid)
  | bytes (bytes : List UInt8)
  /-- The run took more rounds than were allowed for. -/
  | unfinished

/-- The tag bench. -/
structure TagBench where
  settings : Settings
  hardware : TagHardware
  follower : Follower

namespace TagBench

variable {α : Type}

/-- Runs a program on the simulated hardware. -/
def perform (bench : TagBench) (p : StateT (TagChip.Memory Unit) (Program TagRig) α)
    (state : TagState) : α × TagState :=
  let ((value, memory), state) := (p.run state.memory).eval bench.hardware.world state
  (value, { state with memory := memory })

/-- Runs the reader. -/
def run (bench : TagBench) (mode : ReaderMode) (state : TagState) :
    Except Refusal TagAnswer × TagState :=
  let reading := ReadProcedure.read bench.settings mode state.script.rounds
  let ((result, standing), state) := bench.perform
    ((reading.run.run state.standing).realize (bench.hardware.realization bench.follower)) state
  let answer := (result.mapError Refusal.ofProcedure).map fun
    | some outcome => TagAnswer.outcome outcome
    | none => .unfinished
  (answer, { state with standing := standing })

/-- The answer of the contactless reader. -/
def cardAnswer : (asked : Card.Request) → asked.Answer → Except TagFault TagAnswer
  | .request, answer => Except.map (ε := TagFault) TagAnswer.status answer
  | .anticollision, answer => Except.map (ε := TagFault) TagAnswer.uid answer
  | .select _, answer => Except.map (ε := TagFault) (fun () => .unit) answer
  | .authenticate _ _ _, answer => Except.map (ε := TagFault) TagAnswer.status answer
  | .read _, answer =>
    Except.map (ε := TagFault) (fun (block : Block) => .bytes block.toList) answer

/-- Does what a step asks for. -/
def act (bench : TagBench) (step : TagStep) (state : TagState) :
    Except Refusal TagAnswer × TagState :=
  match step with
  | .run mode => bench.run mode state
  | .card asked =>
    let (answer, state) := bench.perform (bench.hardware.cards asked) state
    ((cardAnswer asked answer).mapError fun fault => .ofDevice (.tag fault), state)
  | .payment address length =>
    let (answer, state) := bench.perform
      (bench.hardware.payments (PaymentBus.Request.read address length)) state
    let result : Except BusFault TagAnswer :=
      Except.map (ε := BusFault) (fun (frame : Vector UInt8 length) => .bytes frame.toList) answer
    (result.mapError fun fault => .ofDevice (.bus fault), state)
  | .cleanup =>
    let (_, state) := bench.perform (Realization.direct Pins Pins.Request.release) state
    (.ok .unit, state)
  | .cancel => (.ok .unit, { state with tape.stopped := true })
  | .newFlag => (.ok .unit, { state with tape.stopped := false })
  | .push script => (.ok .unit, { state with script := state.script.append script })

/-- Makes a step: its result, and what it did to the outside. -/
def step (bench : TagBench) (step : TagStep) (state : TagState) :
    (Except Refusal TagAnswer × List Entry) × TagState :=
  let (result, state) := bench.act step state
  let (entries, tape) := state.tape.take
  ((result, entries), { state with tape := tape })

end TagBench

end DrinkMixer.Bench
