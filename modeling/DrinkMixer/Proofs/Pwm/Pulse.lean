import DrinkMixer.Proofs.Pwm.Frequency

/-!
# Pulses of single channels

The tick at which a channel goes off is kept in two registers, which are written one after the
other. Where the second of the two transactions fails, the channel is left with the low byte of the
new tick under the high byte of the old one (`torn`).

Main statements: `setPulse_off`, what telling a channel its ticks leaves in that channel, and
`setPulse_off_of_ne`, the other channels keep what they have.
-/

namespace DrinkMixer.Pwm

open Program

/-! ### Ticks of two bytes -/

/-- The tick with the given bytes. -/
def tick (high low : UInt8) : UInt16 :=
  (high.toUInt16 <<< 8) ||| low.toUInt16

/-- The low byte of one tick under the high byte of another. -/
def torn (new old : UInt16) : UInt16 :=
  tick (old >>> 8).toUInt8 new.toUInt8

theorem toNat_tick (high low : UInt8) : (tick high low).toNat = 256 * high.toNat + low.toNat := by
  have hhigh := high.toNat_lt
  have hlow : low.toNat < 2 ^ 8 := low.toNat_lt
  have hor := Nat.shiftLeft_add_eq_or_of_lt hlow high.toNat
  have hshift : (high.toUInt16 <<< 8).toNat = high.toNat <<< 8 := by
    rw [UInt16.toNat_shiftLeft, Nat.mod_eq_of_lt]
    · rfl
    · show high.toNat <<< 8 < 65536
      rw [Nat.shiftLeft_eq]
      omega
  rw [tick, UInt16.toNat_or, hshift, UInt8.toNat_toUInt16, ← hor, Nat.shiftLeft_eq]
  omega

/-- A tick is put together again from its bytes. -/
theorem tick_bytes (x : UInt16) : tick (x >>> 8).toUInt8 x.toUInt8 = x := by
  have hx := x.toNat_lt
  rw [← UInt16.toNat_inj, toNat_tick]
  simp [Nat.shiftRight_eq_div_pow]
  omega

theorem high_tick (high low : UInt8) : (tick high low >>> 8).toUInt8 = high := by
  have hhigh := high.toNat_lt
  have hlow := low.toNat_lt
  rw [← UInt8.toNat_inj]
  simp [toNat_tick, Nat.shiftRight_eq_div_pow]
  omega

namespace Registers

/-- The tick at which a channel goes off. -/
def off (registers : Registers) (channel : UInt8) : UInt16 :=
  tick (registers.read (channelRegister channel + 3)) (registers.read (channelRegister channel + 2))

variable {registers : Registers} {channel register value : UInt8}

theorem off_store_of_ne (hlow : register ≠ channelRegister channel + 2)
    (hhigh : register ≠ channelRegister channel + 3) :
    (registers.store register value).off channel = registers.off channel := by
  rw [off, read_store, read_store, if_neg hlow, if_neg hhigh, off]

/-- Registers beside those of the channels do not matter to the channels. -/
theorem off_store_of_outside (hchannel : channel < channelCount)
    (hregister : register < channelBase ∨ 70 ≤ register) :
    (registers.store register value).off channel = registers.off channel :=
  off_store_of_ne (channelRegister_add_ne_of_outside hchannel (by decide) hregister).symm
    (channelRegister_add_ne_of_outside hchannel (by decide) hregister).symm

end Registers

/-- Setting the frequency does not matter to the channels. -/
theorem FrequencySetting.off_eq {hz : UInt16} {s s' : Device.State}
    {result : Except PwmFault Unit} {channel : UInt8} (hchannel : channel < channelCount)
    (h : FrequencySetting hz s result s') :
    s'.registers.off channel = s.registers.off channel := by
  have hmode : ∀ (registers : Registers) value,
      (registers.store mode1 value).off channel = registers.off channel := by
    intro registers value
    exact Registers.off_store_of_outside hchannel (Or.inl (by decide))
  have hprescaler : ∀ (registers : Registers) value,
      (registers.store prescaler value).off channel = registers.off channel := by
    intro registers value
    exact Registers.off_store_of_outside hchannel (Or.inr (by decide))
  cases h <;> simp [Device.State.lulled, Device.State.tuned, Device.State.woken,
    Device.State.restarted, hmode, hprescaler]

namespace Controller

variable {controller : Controller} {fault? : Nat → Option I2c.Fault} {s s' : Device.State}
  {result : Except PwmFault Unit} {channel : UInt8} {on off : UInt16}

/-- Telling a channel its ticks: it goes off at the new tick if no transaction fails, at the old one
if one of the first three fails, and at the two torn into one if the fourth fails. -/
theorem setPulse_off (hchannel : channel < channelCount)
    (h : Runs (controller.onBus fault?) (controller.setPulse channel on off) s result s') :
    result = .ok () ∧ s'.registers.off channel = off ∧ s'.transactions = s.transactions + 4 ∨
    result = .error .writeFailed ∧
      (s'.registers.off channel = s.registers.off channel ∨
      s'.registers.off channel = torn off (s.registers.off channel) ∧
        s'.transactions = s.transactions + 4) := by
  rw [setPulse, if_pos hchannel] at h
  rcases writeTicks_runs h with ⟨rfl, rfl⟩ | ⟨k, hk, rfl, rfl⟩
  · refine Or.inl ⟨rfl, ?_, s.storedAll_transactions _⟩
    simp [ticks, Registers.off, Registers.read_store, tick_bytes]
  · refine Or.inr ⟨rfl, ?_⟩
    interval_cases k
    -- before the third transaction succeeds, neither byte of the tick is written
    · exact Or.inl rfl
    · exact Or.inl (by simp [ticks, Registers.off, Registers.read_store])
    · exact Or.inl (by simp [ticks, Registers.off, Registers.read_store])
    · -- the low byte was written, and the write of the high byte failed
      refine Or.inr ⟨?_, rfl⟩
      simp [ticks, torn, Registers.off, Registers.read_store, high_tick]

/-- Telling a channel its ticks, whatever comes of it, does not matter to the other channels. -/
theorem setPulse_off_of_ne {other : UInt8} (hother : other < channelCount) (hne : channel ≠ other)
    (h : Runs (controller.onBus fault?) (controller.setPulse channel on off) s result s') :
    s'.registers.off other = s.registers.off other := by
  rw [setPulse] at h
  split_ifs at h with hchannel
  · have hread : ∀ j < 4, s'.registers.read (channelRegister other + j) =
        s.registers.read (channelRegister other + j) := by
      intro j hj
      refine writeTicks_read h (ticks_ne ?_)
      intro i hi
      exact channelRegister_add_ne hchannel hother hne hi hj
    rw [Registers.off, hread 3 (by decide), hread 2 (by decide), Registers.off]
  · rcases runs_throw_iff.mp h with ⟨_, rfl⟩
    rfl

end Controller

end DrinkMixer.Pwm
