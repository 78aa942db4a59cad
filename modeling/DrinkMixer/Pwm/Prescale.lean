/-!
# The prescaler of the PWM controller

The controller divides its 25 MHz oscillator by 4096 ticks and by one more than its prescaler. The
prescaler for a frequency is the nearest one, and it has to lie in `3..=255`.
-/

namespace DrinkMixer.Pwm

/-- The frequency of the controller's own oscillator. -/
def oscillatorHz : Nat := 25000000

/-- Ticks in one period. -/
def resolution : Nat := 4096

/-- The quotient, rounded to the nearest natural number, a half upwards. -/
def roundedQuotient (n d : Nat) : Nat :=
  (n + d / 2) / d

/-- The prescaler nearest to a frequency, if the controller has it. -/
def prescale? (hz : UInt16) : Option UInt8 :=
  if hz = 0 then none
  else
    let divisor := roundedQuotient oscillatorHz (resolution * hz.toNat)
    if 4 ≤ divisor ∧ divisor ≤ 256 then some (UInt8.ofNat (divisor - 1)) else none

end DrinkMixer.Pwm
