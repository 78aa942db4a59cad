import DrinkMixer.Failure
import DrinkMixer.Program.Basic

/-!
# What the servo procedures ask of the PWM controller
-/

namespace DrinkMixer

/-- Requests to the PWM controller. -/
inductive Pwm.Request
  /-- Set the frequency that all outputs share. -/
  | setFrequency (hz : UInt16)
  /-- Set the ticks at which one output goes on and off in each period of 4096 ticks. -/
  | setPulse (channel : UInt8) (on off : UInt16)

/-- The PWM controller. -/
abbrev Pwm : Signature := ⟨Pwm.Request, fun _ => Except PwmFault Unit⟩

end DrinkMixer
