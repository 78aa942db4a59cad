import DrinkMixer.Actuator
import DrinkMixer.Tag.Phase
import DrinkMixer.Tag.Uid

/-!
# Events

What the procedures tell the outside about their progress.
-/

namespace DrinkMixer

/-- A step of progress. -/
inductive Event
  /-- A run of so many cycles begins. -/
  | cycleStarted (actuator : Actuator) (count : UInt32)
  /-- A cycle is finished, and so many are left. -/
  | cycleCompleted (actuator : Actuator) (remaining : UInt32)
  /-- The tag reader moved from one phase to another. -/
  | phaseChanged (before after : Phase)
  | authFailed (uid : Uid)
  /-- The payment reader had no frame at this poll. -/
  | frameNotReady (polls : UInt32)
  | cancelled
  /-- A pour order with so many channels begins. -/
  | pourStarted (channels : UInt64) (mix : Bool)
  | pourFinished
  deriving DecidableEq, Repr

end DrinkMixer
