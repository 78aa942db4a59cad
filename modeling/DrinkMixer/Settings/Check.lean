import DrinkMixer.Failure
import DrinkMixer.Settings.Basic

/-!
# Range checks of settings

Each rule that settings have to obey is a condition with the text shown when it is broken. The
rules are checked in order, and the first broken one is reported; nothing is ever clamped.

Main statement: `check_eq_ok_iff`, settings pass exactly when they obey every rule.
-/

namespace DrinkMixer.Settings

/-- A condition on settings, with the text shown when it does not hold. -/
structure Rule where
  holds : Settings → Bool
  text : String

/-- What settings have to obey, in the order in which it is checked. -/
def rules : List Rule := [
  ⟨fun s => s.servo.address ≤ 0x7F, "pwm.i2c_address must be 7-bit"⟩,
  ⟨fun s => 24 ≤ s.servo.frequency && s.servo.frequency ≤ 1526,
    "pwm.frequency_hz must be 24..=1526"⟩,
  ⟨fun s => s.servo.pulseMin < s.servo.pulseMax && s.servo.pulseMax < 4096,
    "pwm.servo_min < pwm.servo_max < 4096 required"⟩,
  ⟨fun s => 6 ≤ s.servo.mixOutput && s.servo.mixOutput ≤ 15,
    "pwm.mix_channel must be a free channel in 6..=15"⟩,
  ⟨fun s => s.payment.address ≤ 0x7F, "payment.i2c_address must be 7-bit"⟩,
  ⟨fun s => 1 ≤ s.payment.frameLength && s.payment.frameLength ≤ 64,
    "payment.frame_len must be 1..=64"⟩,
  ⟨fun s => s.tag.clockHz != 0, "reader.spi_clock_hz must be non-zero"⟩]

/-- The first of some rules that settings break. -/
def firstBroken? (settings : Settings) (rules : List Rule) : Option Rule :=
  rules.find? fun rule => !rule.holds settings

/-- Refuses settings that break a rule. -/
def check (settings : Settings) : Except SettingsFault Unit :=
  match settings.firstBroken? rules with
  | some rule => .error (.invalid rule.text)
  | none => .ok ()

/-- Settings pass exactly when they obey every rule. -/
theorem check_eq_ok_iff (settings : Settings) :
    settings.check = .ok () ↔ ∀ rule ∈ rules, rule.holds settings = true := by
  unfold check firstBroken?
  cases h : rules.find? fun rule => !rule.holds settings with
  | none => simpa using List.find?_eq_none.mp h
  | some rule =>
    have hrule := List.find?_some h
    have hmem := List.mem_of_find?_eq_some h
    simp only [reduceCtorEq, false_iff]
    intro hall
    simp [hall rule hmem] at hrule

end DrinkMixer.Settings
