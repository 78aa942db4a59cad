import DrinkMixer.Order.Pour
import DrinkMixer.Proofs.Pwm.Pulse
import DrinkMixer.Proofs.Pwm.Servos
import DrinkMixer.Settings.Check

/-!
# Where a pour leaves the servos

Between two cycles every servo is as it was at the start or at its open extreme (`Resting`), and the
transactions are those of whole cycles. A pulse that fails leaves its servo where it was, unless its
last transaction failed: then the servo is driven by a tick torn together from two (`Halfway`).

Main statement: `pour_within`, an order is poured on the chip with any transactions failing, and at
the end every servo is within its extremes or one is torn.
-/

namespace DrinkMixer

open Program ServoProcedure Pwm

namespace ServoSettings

/-- A servo is not driven at all, or within its extremes. -/
def Within (settings : ServoSettings) (off : UInt16) : Prop :=
  off = 0 ∨ settings.pulseMin ≤ off ∧ off ≤ settings.pulseMax

/-- A servo is not driven at all, or at its open extreme. -/
def AtRest (settings : ServoSettings) (off : UInt16) : Prop :=
  off = 0 ∨ off = settings.pulseMax

/-- A servo is driven by a tick torn together from two of those that it is sent in a cycle, or from
the first of them and nothing. -/
def Torn (settings : ServoSettings) (off : UInt16) : Prop :=
  off = torn settings.pulseMin 0 ∨ off = torn settings.pulseMin settings.pulseMax ∨
    off = torn settings.pulseMax settings.pulseMin

/-- Between two cycles every servo is at rest. The transactions since `start` were those of whole
cycles. -/
structure Resting (settings : ServoSettings) (start : Nat) (s : Device.State) : Prop where
  /-- Every servo is at rest. -/
  atRest : ∀ channel < channelCount, settings.AtRest (s.registers.off channel)
  /-- Every cycle made eight transactions. -/
  whole : ∃ cycles, s.transactions = start + 8 * cycles

/-- The last transaction of a pulse failed. -/
structure Halfway (settings : ServoSettings) (start : Nat) (s : Device.State) : Prop where
  /-- The transactions since `start` are those of whole pulses, with the one that failed. -/
  whole : ∃ pulses, 0 < pulses ∧ s.transactions = start + 4 * pulses
  /-- One servo is torn between two ticks, and all others are at rest. -/
  torn : ∃ channel < channelCount, settings.Torn (s.registers.off channel) ∧
    ∀ other < channelCount, channel ≠ other → settings.AtRest (s.registers.off other)

/-- What a failure leaves behind. -/
def Halted (settings : ServoSettings) (start : Nat) (failure : Failure) (s : Device.State) : Prop :=
  (∀ channel < channelCount, settings.Within (s.registers.off channel)) ∨
    failure = .pwm .writeFailed ∧ settings.Halfway start s

variable {settings : ServoSettings} {controller : Controller}
  {fault? : Nat → Option I2c.Fault} {start : Nat} {s s' : Device.State}

theorem AtRest.within {off : UInt16} (hle : settings.pulseMin ≤ settings.pulseMax)
    (h : settings.AtRest off) : settings.Within off := by
  rcases h with rfl | rfl
  · exact Or.inl rfl
  · exact Or.inr ⟨hle, UInt16.le_refl _⟩

/-! ### Preparation -/

/-- Preparing the controller moves no servo. -/
theorem prepare_runs {result : Except Failure Unit}
    (hzero : ∀ channel < channelCount, s.registers.off channel = 0)
    (h : Runs (controller.servos fault?) settings.prepare s result s') :
    (∀ channel < channelCount, s'.registers.off channel = 0) ∧
      (result = .ok () → s'.transactions = s.transactions + 5) := by
  rw [prepare, runs_command_bind_iff] at h
  rcases h with ⟨fault, hset, rfl⟩ | ⟨middle, hset, h⟩
  · refine ⟨?_, fun hresult => by cases hresult⟩
    intro channel hchannel
    rw [(Controller.setFrequency_runs hset).off_eq hchannel]
    exact hzero channel hchannel
  · rw [runs_note_iff] at h
    rcases h with ⟨rfl, rfl⟩
    have hways := Controller.setFrequency_runs hset
    refine ⟨?_, fun _ => ?_⟩
    · intro channel hchannel
      rw [hways.off_eq hchannel]
      exact hzero channel hchannel
    · cases hways with
      | done => rfl

/-! ### Cycles -/

/-- A pulse that fails leaves its servo as it was or torn. -/
theorem halted_of_pulse_failed {channel : UInt8} {new : UInt16} {fault : PwmFault}
    (hle : settings.pulseMin ≤ settings.pulseMax) (hchannel : channel < channelCount)
    (hothers : ∀ other < channelCount, channel ≠ other → settings.AtRest (s.registers.off other))
    (hold : settings.Within (s.registers.off channel))
    (htorn : settings.Torn (torn new (s.registers.off channel)))
    (hwhole : ∃ pulses, s.transactions = start + 4 * pulses)
    (h : Runs (controller.onBus fault?) (controller.setPulse channel 0 new) s (.error fault) s') :
    settings.Halted start (.pwm fault) s' := by
  have hothers' : ∀ other < channelCount, channel ≠ other →
      settings.AtRest (s'.registers.off other) := by
    intro other hother hne
    rw [Controller.setPulse_off_of_ne hother hne h]
    exact hothers other hother hne
  rcases Controller.setPulse_off hchannel h with ⟨hresult, _⟩ | ⟨hresult, hsame | ⟨hnew, hmade⟩⟩
  · cases hresult
  · -- the channel still goes off at its old tick
    refine Or.inl ?_
    intro other hother
    by_cases hne : channel = other
    · rw [← hne, hsame]
      exact hold
    · exact (hothers' other hother hne).within hle
  · cases hresult
    -- the transaction that failed was the last of its pulse
    refine Or.inr ⟨rfl, ?_, channel, hchannel, ?_, hothers'⟩
    · rcases hwhole with ⟨pulses, hpulses⟩
      exact ⟨pulses + 1, by omega, by omega⟩
    · rw [hnew]
      exact htorn

/-- In a cycle a servo is sent to both extremes, and all others stay where they are. -/
theorem cycle_runs {channel : UInt8} {result : Except Failure Unit}
    (hle : settings.pulseMin ≤ settings.pulseMax) (hchannel : channel < channelCount)
    (hrest : settings.Resting start s)
    (h : Runs (controller.servos fault?) (settings.cycle channel) s result s') :
    result = .ok () ∧ settings.Resting start s' ∨
      ∃ failure, result = .error failure ∧ settings.Halted start failure s' := by
  rcases hrest.whole with ⟨cycles, hcycles⟩
  rw [cycle, runs_note_bind_iff, runs_command_bind_iff] at h
  rcases h with ⟨fault, hclose, rfl⟩ | ⟨middle, hclose, h⟩
  · refine Or.inr ⟨_, rfl, halted_of_pulse_failed hle hchannel ?_ ?_ ?_ ?_ hclose⟩
    · intro other hother _
      exact hrest.atRest other hother
    · exact (hrest.atRest channel hchannel).within hle
    · rcases hrest.atRest channel hchannel with hzero | hmax
      · rw [hzero]
        exact Or.inl rfl
      · rw [hmax]
        exact Or.inr (Or.inl rfl)
    · exact ⟨2 * cycles, by omega⟩
  have hothers : ∀ other < channelCount, channel ≠ other →
      settings.AtRest (middle.registers.off other) := by
    intro other hother hne
    rw [Controller.setPulse_off_of_ne hother hne hclose]
    exact hrest.atRest other hother
  rcases Controller.setPulse_off hchannel hclose with ⟨_, hmin, hmade⟩ | ⟨hresult, _⟩
  swap
  · cases hresult
  -- the servo is at its closed extreme
  rw [runs_wait_bind_iff, runs_note_bind_iff, runs_command_bind_iff] at h
  rcases h with ⟨fault, hopen, rfl⟩ | ⟨last, hopen, h⟩
  · refine Or.inr ⟨_, rfl, halted_of_pulse_failed hle hchannel hothers ?_ ?_ ?_ hopen⟩
    · rw [hmin]
      exact Or.inr ⟨UInt16.le_refl _, hle⟩
    · rw [hmin]
      exact Or.inr (Or.inr rfl)
    · exact ⟨2 * cycles + 1, by omega⟩
  rw [runs_wait_iff] at h
  rcases h with ⟨rfl, rfl⟩
  rcases Controller.setPulse_off hchannel hopen with ⟨_, hmax, hmade'⟩ | ⟨hresult, _⟩
  swap
  · cases hresult
  refine Or.inl ⟨rfl, ?_, cycles + 1, by omega⟩
  intro other hother
  by_cases hne : channel = other
  · rw [← hne, hmax]
    exact Or.inr rfl
  · rw [Controller.setPulse_off_of_ne hother hne hopen]
    exact hothers other hother hne

theorem keeps_cycle {channel : UInt8} (hle : settings.pulseMin ≤ settings.pulseMax)
    (hchannel : channel < channelCount) :
    Keeps (controller.servos fault?) (settings.Resting start) (settings.Halted start)
      (settings.cycle channel) where
  ok hrest h := by
    rcases cycle_runs hle hchannel hrest h with ⟨_, hafter⟩ | ⟨_, hresult, _⟩
    · exact hafter
    · cases hresult
  error hrest h := by
    rcases cycle_runs hle hchannel hrest h with ⟨hresult, _⟩ | ⟨_, hresult, hafter⟩
    · cases hresult
    · cases hresult
      exact hafter

/-- Any number of cycles leave all servos at rest, unless one of them fails. -/
theorem keeps_countdown {actuator : Actuator} (hle : settings.pulseMin ≤ settings.pulseMax)
    (hchannel : settings.output actuator < channelCount) (remaining : Nat) :
    Keeps (controller.servos fault?) (settings.Resting start) (settings.Halted start)
      (settings.countdown actuator remaining) := by
  induction remaining with
  | zero => exact keeps_pure ()
  | succ remaining ih =>
    rw [countdown]
    exact (keeps_cycle hle hchannel).bind fun _ => (keeps_emit _).bind fun _ => ih

theorem keeps_run {actuator : Actuator} {count : UInt32}
    (hle : settings.pulseMin ≤ settings.pulseMax)
    (hchannel : settings.output actuator < channelCount) :
    Keeps (controller.servos fault?) (settings.Resting start) (settings.Halted start)
      (settings.run actuator count) := by
  rw [run]
  refine (keeps_emit _).bind fun _ => ?_
  refine (keeps_countdown hle hchannel _).bind fun _ => ?_
  exact (keeps_note _ _).bind fun _ => keeps_pure _

end ServoSettings

/-! ### Orders -/

namespace Order

variable {settings : ServoSettings} {controller : Controller}
  {fault? : Nat → Option I2c.Fault} {start : Nat} {s s' : Device.State}

theorem keeps_pourChannels (order : Order) (hle : settings.pulseMin ≤ settings.pulseMax)
    (channels : List PourChannel) (cycles : UInt32) :
    Keeps (controller.servos fault?) (settings.Resting start) (settings.Halted start)
      (order.pourChannels settings channels cycles) := by
  induction channels generalizing cycles with
  | nil => exact keeps_pure cycles
  | cons channel rest ih =>
    rw [pourChannels]
    have hchannel : settings.output (.pour channel) < channelCount :=
      ServoSettings.output_pour_lt settings channel
    exact (ServoSettings.keeps_run hle hchannel).bind fun _ => ih _

/-- Pouring starts at rest and ends at rest or halted. -/
theorem pour_runs (order : Order) {result : Except Failure UInt32}
    (hle : settings.pulseMin ≤ settings.pulseMax) (hmix : settings.mixOutput < channelCount)
    (hzero : ∀ channel < channelCount, s.registers.off channel = 0)
    (h : Runs (controller.servos fault?) (order.pour settings) s result s') :
    (∃ total, result = .ok total) ∧ settings.Resting (s.transactions + 5) s' ∨
      ∃ failure, result = .error failure ∧
        settings.Halted (s.transactions + 5) failure s' := by
  rw [pour, runs_emit_bind_iff, runs_bind_iff] at h
  rcases h with ⟨failure, hprepare, rfl⟩ | ⟨_, middle, hprepare, h⟩
  · refine Or.inr ⟨failure, rfl, Or.inl ?_⟩
    intro channel hchannel
    exact Or.inl ((ServoSettings.prepare_runs hzero hprepare).1 channel hchannel)
  rcases ServoSettings.prepare_runs hzero hprepare with ⟨hzero', hmade⟩
  have hrest : settings.Resting (s.transactions + 5) middle :=
    ⟨fun channel hchannel => Or.inl (hzero' channel hchannel), 0, hmade rfl⟩
  -- after the last cycle no servo is moved any more
  have hfinish : ∀ cycles : UInt32, Keeps (controller.servos fault?)
      (settings.Resting (s.transactions + 5)) (settings.Halted (s.transactions + 5))
      (do
        note .info s!"pour order finished, {cycles} cycle(s)"
        emit .pourFinished
        pure cycles) := by
    intro cycles
    exact (keeps_note _ _).bind fun _ => (keeps_emit _).bind fun _ => keeps_pure cycles
  have hkeeps : Keeps (controller.servos fault?) (settings.Resting (s.transactions + 5))
      (settings.Halted (s.transactions + 5)) (do
        let cycles ← order.pourChannels settings order.channels 0
        if order.mix then do
          let made ← settings.run .mixer 1
          note .info s!"pour order finished, {cycles + made} cycle(s)"
          emit .pourFinished
          pure (cycles + made)
        else do
          note .info s!"pour order finished, {cycles} cycle(s)"
          emit .pourFinished
          pure cycles) := by
    refine (keeps_pourChannels order hle order.channels 0).bind fun cycles => ?_
    split_ifs
    · have hmixing : Keeps (controller.servos fault?) (settings.Resting (s.transactions + 5))
          (settings.Halted (s.transactions + 5)) (settings.run .mixer 1) :=
        ServoSettings.keeps_run hle hmix
      exact hmixing.bind fun made => hfinish (cycles + made)
    · exact hfinish cycles
  cases result with
  | ok total => exact Or.inl ⟨⟨total, rfl⟩, hkeeps.ok hrest h⟩
  | error failure => exact Or.inr ⟨failure, rfl, hkeeps.error hrest h⟩

/-- What the range checks of settings say about the servos. -/
theorem ranges_of_check {settings : Settings} (h : settings.check = .ok ()) :
    settings.servo.pulseMin ≤ settings.servo.pulseMax ∧
      settings.servo.mixOutput < channelCount := by
  rw [Settings.check_eq_ok_iff] at h
  have hpulse := h _ (List.mem_of_getElem? (i := 2) rfl)
  have hmix := h _ (List.mem_of_getElem? (i := 3) rfl)
  simp only [Bool.and_eq_true, decide_eq_true_eq] at hpulse hmix
  have hoff : settings.servo.mixOutput.toNat ≤ 15 := hmix.2
  exact ⟨UInt16.le_of_lt hpulse.1, show settings.servo.mixOutput.toNat < 16 by omega⟩

/-- Let an order be poured on the chip with settings that pass their checks, and let any of the
transactions fail. If no servo is driven at the start, then at the end every servo is not driven or
within its extremes, except when the last transaction of a pulse failed: then one servo may be
driven by a tick torn together from two, and all others are at rest. -/
theorem pour_within (settings : Settings) (order : Order) (fault? : Nat → Option I2c.Fault)
    (s : Device.State) (hcheck : settings.check = .ok ())
    (hzero : ∀ channel < channelCount, s.registers.off channel = 0) :
    let controller : Controller := ⟨settings.servo.address⟩
    let run := (((order.pour settings.servo).run.realize controller.onServos).run ()).eval
      (controller.below fault?) s
    (∀ channel < channelCount, settings.servo.Within (run.2.registers.off channel)) ∨
      run.1.1 = .error (.pwm .writeFailed) ∧
        settings.servo.Halfway (s.transactions + 5) run.2 := by
  intro controller run
  rcases ranges_of_check hcheck with ⟨hle, hmix⟩
  rcases exists_runs (controller.servos fault?) (order.pour settings.servo) s with
    ⟨result, s', hrun⟩
  -- the controller on its bus is a world of its own, where the run has one end
  have heval : run = ((result, ()), s') := by
    show (((order.pour settings.servo).run.realize controller.onServos).run ()).eval
      (controller.below fault?) s = _
    rw [Controller.eval_realize_onServos]
    unfold Runs at hrun
    rw [hrun]
  rw [heval]
  rcases pour_runs order hle hmix hzero hrun with ⟨_, hrest⟩ | ⟨failure, rfl, hhalted⟩
  · refine Or.inl ?_
    intro channel hchannel
    exact (hrest.atRest channel hchannel).within hle
  · rcases hhalted with hwithin | ⟨rfl, hhalfway⟩
    · exact Or.inl hwithin
    · exact Or.inr ⟨rfl, hhalfway⟩

/-- An order to pour once from the first servo. -/
def single : Order :=
  { amounts := #v[1, 0, 0, 0, 0, 0] }

/-- A chip that was just set up drives no servo. -/
theorem ready_read {channel i : UInt8} (hchannel : channel < channelCount) (hi : i < 4) :
    (Device.State.ready {}).registers.read (channelRegister channel + i) = 0 := by
  have hne : ∀ register, register < channelBase ∨ 70 ≤ register →
      register ≠ channelRegister channel + i := by
    intro register hregister
    exact (channelRegister_add_ne_of_outside hchannel hi hregister).symm
  rw [Device.State.ready, Device.State.stored_registers, Registers.read_store,
    if_neg (hne _ (by decide))]
  rw [Device.State.passed_registers, Device.State.called, Device.State.stored_registers,
    Registers.read_store, if_neg (hne _ (by decide)), Device.State.driven,
    Device.State.stored_registers, Registers.read_store, if_neg (hne _ (by decide)),
    Device.State.cleared, Device.State.storedAll_read]
  · simp [Registers.read, Registers.zero]
  · intro store hstore
    refine hne store.1 (Or.inr ?_)
    revert store
    simp [ticks, allChannelsBase]

/-- The last transaction of the second pulse after a chip was set up fails. -/
def tearing (n : Nat) : Option I2c.Fault :=
  if n = 20 then some .bus else none

/-- One servo pours once on a chip that was just set up. When it is sent from the closed to the open
extreme the low byte is written and the write of the high byte fails, which leaves it torn. -/
theorem pour_once_within :
    Settings.check {} = .ok () ∧
    (∀ channel < channelCount, (Device.State.ready {}).registers.off channel = 0) ∧
    let run := (((single.pour {}).run.realize (Controller.onServos ⟨0x40⟩)).run ()).eval
      (Controller.below ⟨0x40⟩ tearing) (Device.State.ready {})
    run.1.1 = .error (.pwm .writeFailed) ∧ ({} : ServoSettings).Halfway (8 + 5) run.2 := by
  have hcheck : Settings.check {} = .ok () := rfl
  have hzero : ∀ channel < channelCount, (Device.State.ready {}).registers.off channel = 0 := by
    intro channel hchannel
    rw [Registers.off, ready_read hchannel (by decide), ready_read hchannel (by decide)]
    rfl
  refine ⟨hcheck, hzero, ?_⟩
  refine (pour_within {} single tearing (Device.State.ready {}) hcheck hzero).resolve_left ?_
  intro hall
  -- the tick of the pour servo is computed: the low byte of 600 under the high byte of 150
  have hwithin : ({} : ServoSettings).Within 0x58 := hall 0 (by decide)
  revert hwithin
  unfold ServoSettings.Within
  decide

/-- A servo can be left driven outside its extremes: it pours once, and when it is sent from the
closed to the open extreme the low byte is written and the write of the high byte fails. -/
theorem not_always_within :
    ¬∀ (settings : Settings) (order : Order) (fault? : Nat → Option I2c.Fault)
      (start s : Device.State), settings.check = .ok () →
      (order.amounts.toList.map UInt32.toNat).sum + (if order.mix then 1 else 0) < 2 ^ 32 →
      Runs (Controller.onBus ⟨settings.servo.address⟩ fault?)
        (Controller.setUp ⟨settings.servo.address⟩) start (.ok ()) s →
      (∀ channel < channelCount, ∀ i < 4, s.registers.read (channelRegister channel + i) = 0) →
      let run := (((order.pour settings.servo).run.realize
        (Controller.onServos ⟨settings.servo.address⟩)).run ()).eval
          (Controller.below ⟨settings.servo.address⟩ fault?) s
      ∀ channel < channelCount, settings.servo.Within (run.2.registers.off channel) := by
  intro h
  -- the tick of the pour servo is computed: the low byte of 600 under the high byte of 150
  have hwithin : ({} : ServoSettings).Within 0x58 :=
    h {} single tearing {} (Device.State.ready {}) rfl (by decide) rfl
      (fun _ hchannel _ hi => ready_read hchannel hi) 0 (by decide)
  revert hwithin
  unfold ServoSettings.Within
  decide

end Order

end DrinkMixer
