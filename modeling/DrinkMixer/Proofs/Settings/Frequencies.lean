import DrinkMixer.Proofs.Settings.InRange

/-!
# Frequencies that are refused

The chip refuses a frequency that its prescaler cannot give (`Refuses`), and settings with a
frequency out of range do not pass their checks (`Settings.Admits`). The two ranges begin at the
same frequency and end at different ones: the divisor of a frequency is rounded to the nearest
number, so the least divisor of the chip also stands for frequencies above the one that it gives.

Main statement: `refuses_iff_unreachable`, which frequencies are refused, and for which of them this
agrees with the checks of settings.
-/

namespace DrinkMixer

open Pwm

/-- Settings that pass their checks can have the frequency. -/
def Settings.Admits (hz : UInt16) : Prop :=
  ∃ settings : Settings, settings.check = .ok () ∧ settings.servo.frequency = hz

theorem Settings.admits_iff {hz : UInt16} : Admits hz ↔ 24 ≤ hz ∧ hz ≤ 1526 := by
  constructor
  · rintro ⟨settings, hcheck, rfl⟩
    rw [check_eq_ok_iff] at hcheck
    simpa using hcheck _ (List.mem_of_getElem? (i := 1) rfl)
  · intro hrange
    refine ⟨{ servo := { frequency := hz } }, ?_, rfl⟩
    rw [check_eq_ok_iff]
    simpa [rules] using hrange

namespace Pwm.Controller

variable {σ : Type}

/-- Setting the frequency, among all that the surroundings of the chip can be asked for. -/
def tuning (controller : Controller) (hz : UInt16) : Program ServoBus (Except PwmFault Unit) :=
  (controller.setFrequency hz).run.lift

/-- The chip refuses a frequency: there is no transaction and no wait, and the frequency is reported
as out of range. -/
def Refuses (controller : Controller) (w : World ServoBus σ) (s : σ) (hz : UInt16) : Prop :=
  (controller.tuning hz).calls w s = [] ∧
    ((controller.tuning hz).eval w s).1 = .error (.frequencyOutOfRange hz)

variable {controller : Controller} {w : World ServoBus σ} {s : σ} {hz : UInt16}

theorem refuses_of_prescale? (h : prescale? hz = none) : controller.Refuses w s hz := by
  rw [Refuses, tuning, setFrequency, h]
  exact ⟨rfl, rfl⟩

/-- A frequency with a prescaler is never reported as out of range, not even where a transaction
fails. -/
theorem ne_frequencyOutOfRange_of_prescale? {prescale : UInt8} (h : prescale? hz = some prescale)
    (other : UInt16) :
    ((controller.tuning hz).eval w s).1 ≠ .error (.frequencyOutOfRange other) := by
  intro hresult
  have hstops := (stops_setFrequency controller hz).failStop
    (Program.path_calls w (controller.tuning hz) s)
  rw [hresult] at hstops
  cases hstops with
  | refused reason _ =>
    rw [refusal?, h] at reason
    cases reason
  | failed _ _ _ _ fails =>
    exact not_outOfRange_of_reported? fails (.frequency other)

theorem refuses_iff : controller.Refuses w s hz ↔ ¬(24 ≤ hz ∧ hz ≤ 1743) := by
  rw [← prescale?_eq_none_iff]
  constructor
  · rintro ⟨_, hresult⟩
    by_contra hprescale
    obtain ⟨prescale, hsome⟩ := Option.ne_none_iff_exists'.mp hprescale
    exact ne_frequencyOutOfRange_of_prescale? hsome hz hresult
  · exact refuses_of_prescale?

/-- Whatever the bus answers, the chip refuses the frequencies outside `24..=1743` before it is
asked for anything, and reports no frequency inside as out of range. Settings admit `24..=1526`: the
chip refuses a frequency exactly if no settings admit it, except for those from 1527 to 1743, which
it sets. -/
theorem refuses_iff_unreachable (controller : Controller) (w : World ServoBus σ) (s : σ)
    (hz : UInt16) :
    (controller.Refuses w s hz ↔ ¬(24 ≤ hz ∧ hz ≤ 1743)) ∧
    (24 ≤ hz ∧ hz ≤ 1743 → ∀ other,
      ((controller.tuning hz).eval w s).1 ≠ .error (.frequencyOutOfRange other)) ∧
    ((controller.Refuses w s hz ↔ ¬Settings.Admits hz) ↔ ¬(1527 ≤ hz ∧ hz ≤ 1743)) := by
  refine ⟨refuses_iff, ?_, ?_⟩
  · intro hrange other
    have hprescale : prescale? hz ≠ none := fun hnone => prescale?_eq_none_iff.mp hnone hrange
    obtain ⟨prescale, hsome⟩ := Option.ne_none_iff_exists'.mp hprescale
    exact ne_frequencyOutOfRange_of_prescale? hsome other
  · rw [refuses_iff, Settings.admits_iff]
    simp only [UInt16.le_iff_toNat_le]
    simp
    omega

/-- The chip does not refuse every frequency that no settings admit: the next one is set. -/
theorem not_always_refused :
    ¬∀ (controller : Controller) (fault? : Nat → Option I2c.Fault) (s : Device.State) (hz : UInt16),
      controller.Refuses (controller.below fault?) s hz ↔ ¬(24 ≤ hz ∧ hz ≤ 1526) := by
  intro h
  have hrefused := (h ⟨0x40⟩ (fun _ => none) {} 1527).mpr (by decide)
  exact refuses_iff.mp hrefused (by decide)

end Pwm.Controller

end DrinkMixer
