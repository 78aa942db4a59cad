import DrinkMixer.Proofs.Pwm.ChipSteps
import Mathlib.Tactic.IntervalCases

/-!
# What setting the frequency leaves behind

Setting the frequency puts the chip to sleep, writes the prescaler and puts back the mode that was
read at first. If a transaction in between fails the chip stays asleep, and then the mode that is
read and put back the next time is one of a sleeping chip.

Main statement: `setFrequency_iff_leftAsleep`, after a successful set-up and whatever else, setting
the frequency without a failure gives the prescaler of that frequency, and leaves the chip awake
unless an earlier operation left it asleep and no later one woke it up.
-/

namespace DrinkMixer.Pwm

open Program

/-! ### Sleep -/

/-- The oscillator is off. -/
def Registers.Asleep (registers : Registers) : Prop :=
  registers.read mode1 &&& sleep ≠ 0

theorem asleep_store_iff {registers : Registers} {register value : UInt8} :
    (registers.store register value).Asleep ↔
      if register = mode1 then value &&& sleep ≠ 0 else registers.Asleep := by
  unfold Registers.Asleep
  rw [Registers.read_store]
  split_ifs <;> rfl

theorem asleep_mode_and_sleep (mode : UInt8) : ((mode &&& ~~~restart) ||| sleep) &&& sleep ≠ 0 := by
  have h : ((mode &&& ~~~restart) ||| sleep) &&& sleep = sleep := by
    rw [← UInt8.toBitVec_inj]
    ext i hi
    interval_cases i <;> simp [restart, sleep]
  rw [h]
  decide

theorem restart_and_sleep (mode : UInt8) : (mode ||| restart) &&& sleep = mode &&& sleep := by
  -- the restart bit is another one
  rw [← UInt8.toBitVec_inj]
  ext i hi
  interval_cases i <;> simp [restart, sleep]

theorem awake_and_sleep (mode : UInt8) : (mode &&& ~~~sleep) &&& sleep = 0 := by
  rw [← UInt8.toBitVec_inj]
  ext i hi
  interval_cases i <;> simp [sleep]

/-! ### The stages of setting the frequency -/

namespace Device.State

/-- The mode was read and the chip put to sleep. -/
def lulled (s : State) : State :=
  s.passed.stored mode1 ((s.registers.read mode1 &&& ~~~restart) ||| sleep)

/-- The prescaler of the sleeping chip was written. -/
def tuned (s : State) (prescale : UInt8) : State :=
  s.lulled.stored prescaler prescale

/-- The chip was put back into the mode that was read. -/
def woken (s : State) (prescale : UInt8) : State :=
  (s.tuned prescale).stored mode1 (s.registers.read mode1)

/-- The outputs were restarted. -/
def restarted (s : State) (prescale : UInt8) : State :=
  (s.woken prescale).stored mode1 (s.registers.read mode1 ||| restart)

variable (s : State) (prescale : UInt8)

theorem lulled_asleep : s.lulled.registers.Asleep :=
  asleep_store_iff.mpr (by simpa using asleep_mode_and_sleep _)

theorem tuned_asleep : (s.tuned prescale).registers.Asleep :=
  asleep_store_iff.mpr s.lulled_asleep

theorem woken_asleep_iff : (s.woken prescale).registers.Asleep ↔ s.registers.Asleep :=
  asleep_store_iff

theorem restarted_asleep_iff : (s.restarted prescale).registers.Asleep ↔ s.registers.Asleep := by
  unfold restarted
  rw [stored_registers, asleep_store_iff, if_pos rfl, restart_and_sleep]
  rfl

theorem restarted_prescaler : (s.restarted prescale).registers.read prescaler = prescale := by
  simp [restarted, woken, tuned, Registers.read_store, mode1, prescaler]

end Device.State

/-- The ways of setting the frequency: it is out of range, or one of the five transactions fails, or
none does. -/
inductive FrequencySetting (hz : UInt16) (s : Device.State) :
    Except PwmFault Unit → Device.State → Prop
  | outOfRange (h : prescale? hz = none) :
    FrequencySetting hz s (.error (.frequencyOutOfRange hz)) s
  | unread {prescale : UInt8} (h : prescale? hz = some prescale) :
    FrequencySetting hz s (.error .readFailed) s.passed
  | unlulled {prescale : UInt8} (h : prescale? hz = some prescale) :
    FrequencySetting hz s (.error .writeFailed) s.passed.passed
  | untuned {prescale : UInt8} (h : prescale? hz = some prescale) :
    FrequencySetting hz s (.error .writeFailed) s.lulled.passed
  | unwoken {prescale : UInt8} (h : prescale? hz = some prescale) :
    FrequencySetting hz s (.error .writeFailed) (s.tuned prescale).passed
  | unrestarted {prescale : UInt8} (h : prescale? hz = some prescale) :
    FrequencySetting hz s (.error .writeFailed) (s.woken prescale).passed
  | done {prescale : UInt8} (h : prescale? hz = some prescale) :
    FrequencySetting hz s (.ok ()) (s.restarted prescale)

/-! ### The stages of setting the chip up -/

theorem ticks_allChannelsBase_ne {on off : UInt16} :
    ∀ store ∈ ticks allChannelsBase on off, store.1 ≠ mode1 := by
  simp [ticks, allChannelsBase, mode1]

theorem ticks_channelRegister_ne {channel : UInt8} {on off : UInt16}
    (hchannel : channel < channelCount) :
    ∀ store ∈ ticks (channelRegister channel) on off, store.1 ≠ mode1 := by
  refine ticks_ne ?_
  intro i hi
  exact channelRegister_add_ne_of_outside hchannel hi (Or.inl (by decide))

namespace Device.State

/-- All pulses were set to nothing. -/
def cleared (s : State) : State :=
  s.storedAll (ticks allChannelsBase 0 0)

/-- The outputs were made to drive both ways. -/
def driven (s : State) : State :=
  s.cleared.stored mode2 pushPull

/-- The first mode was written. -/
def called (s : State) : State :=
  s.driven.stored mode1 allCall

/-- The mode was read and written back without sleep. -/
def ready (s : State) : State :=
  s.called.passed.stored mode1 (s.called.registers.read mode1 &&& ~~~sleep)

variable (s : State)

theorem cleared_asleep_iff : s.cleared.registers.Asleep ↔ s.registers.Asleep := by
  unfold Registers.Asleep
  rw [cleared, s.storedAll_read ticks_allChannelsBase_ne]

theorem driven_asleep_iff : s.driven.registers.Asleep ↔ s.registers.Asleep :=
  asleep_store_iff.trans s.cleared_asleep_iff

theorem called_not_asleep : ¬s.called.registers.Asleep := by
  rw [called, stored_registers, asleep_store_iff, if_pos rfl]
  decide

theorem ready_not_asleep : ¬s.ready.registers.Asleep := by
  rw [ready, stored_registers, asleep_store_iff, if_pos rfl, awake_and_sleep]
  simp

end Device.State

/-- The ways of setting the chip up: one of the eight transactions fails, or none does. -/
inductive SettingUp (s : Device.State) : Except PwmFault Unit → Device.State → Prop
  | uncleared (k : Nat) (h : k < 4) :
    SettingUp s (.error .writeFailed) (s.storedAll ((ticks allChannelsBase 0 0).take k)).passed
  | undriven : SettingUp s (.error .writeFailed) s.cleared.passed
  | uncalled : SettingUp s (.error .writeFailed) s.driven.passed
  | unread : SettingUp s (.error .readFailed) s.called.passed
  | unready : SettingUp s (.error .writeFailed) s.called.passed.passed
  | done : SettingUp s (.ok ()) s.ready

/-! ### Single operations -/

namespace Controller

section Operations

variable {controller : Controller} {fault? : Nat → Option I2c.Fault} {s s' : Device.State}
  {result : Except PwmFault Unit}

theorem setFrequency_runs {hz : UInt16}
    (h : Runs (controller.onBus fault?) (controller.setFrequency hz) s result s') :
    FrequencySetting hz s result s' := by
  rw [setFrequency] at h
  cases hprescale : prescale? hz with
  | none =>
    rw [hprescale] at h
    rcases runs_throw_iff.mp h with ⟨rfl, rfl⟩
    exact .outOfRange hprescale
  | some prescale =>
    rw [hprescale] at h
    -- one way for each transaction that can fail, and the one in which none does
    simp only [runs_read_bind_iff, runs_write_bind_iff, runs_wait_bind_iff, runs_note_iff] at h
    rcases h with ⟨_, _, rfl, rfl⟩ | ⟨_, ⟨_, _, rfl, rfl⟩ | ⟨_, ⟨_, _, rfl, rfl⟩ |
      ⟨_, ⟨_, _, rfl, rfl⟩ | ⟨_, ⟨_, _, rfl, rfl⟩ | ⟨_, rfl, rfl⟩⟩⟩⟩⟩
    · exact .unread hprescale
    · exact .unlulled hprescale
    · exact .untuned hprescale
    · exact .unwoken hprescale
    · exact .unrestarted hprescale
    · exact .done hprescale

/-- Setting the frequency leaves the chip asleep if its third or fourth transaction failed, and else
as it was. -/
theorem setFrequency_asleep_iff {hz : UInt16}
    (h : Runs (controller.onBus fault?) (controller.setFrequency hz) s result s') :
    s'.registers.Asleep ↔
      (s'.transactions = s.transactions + 3 ∨ s'.transactions = s.transactions + 4) ∨
        s.registers.Asleep := by
  cases setFrequency_runs h with
  | outOfRange | unread | unlulled => simp
  | untuned => exact iff_of_true s.lulled_asleep (Or.inl (Or.inl rfl))
  | @unwoken prescale => exact iff_of_true (s.tuned_asleep prescale) (Or.inl (Or.inr rfl))
  -- from here on the sleep bit is the one that was read at first
  | @unrestarted prescale =>
    have hmade : (s.woken prescale).passed.transactions = s.transactions + 5 := rfl
    rw [hmade, Device.State.passed_registers, s.woken_asleep_iff]
    simp
  | @done prescale =>
    have hmade : (s.restarted prescale).transactions = s.transactions + 5 := rfl
    rw [hmade, s.restarted_asleep_iff]
    simp

/-- Where setting the frequency does not fail, the prescaler is the one of the frequency. -/
theorem setFrequency_prescaler {hz : UInt16}
    (h : Runs (controller.onBus fault?) (controller.setFrequency hz) s (.ok ()) s') :
    prescale? hz = some (s'.registers.read prescaler) := by
  cases setFrequency_runs h with
  | @done prescale hprescale => rw [s.restarted_prescaler, hprescale]

theorem setUp_runs (h : Runs (controller.onBus fault?) controller.setUp s result s') :
    SettingUp s result s' := by
  rw [setUp, runs_bind_iff] at h
  rcases h with ⟨failure, h, rfl⟩ | ⟨_, middle, hclear, h⟩
  · rcases writeTicks_runs h with ⟨hresult, _⟩ | ⟨k, hk, hresult, rfl⟩
    · cases hresult
    · cases hresult
      exact .uncleared k hk
  rcases writeTicks_runs hclear with ⟨_, rfl⟩ | ⟨_, _, hresult, _⟩
  swap
  · cases hresult
  simp only [runs_read_bind_iff, runs_write_bind_iff, runs_wait_bind_iff, runs_note_iff] at h
  rcases h with ⟨_, _, rfl, rfl⟩ | ⟨_, ⟨_, _, rfl, rfl⟩ | ⟨_, ⟨_, _, rfl, rfl⟩ |
    ⟨_, ⟨_, _, rfl, rfl⟩ | ⟨_, rfl, rfl⟩⟩⟩⟩
  · exact .undriven
  · exact .uncalled
  · exact .unread
  · exact .unready
  · exact .done

/-- Setting the chip up wakes it if it comes beyond its sixth transaction, and else leaves it as it
was. -/
theorem setUp_asleep_iff (h : Runs (controller.onBus fault?) controller.setUp s result s') :
    s'.registers.Asleep ↔ s.registers.Asleep ∧ s'.transactions < s.transactions + 7 := by
  cases setUp_runs h with
  -- up to the sixth transaction the mode is not written
  | uncleared k hk =>
    have hasleep : (s.storedAll ((ticks allChannelsBase 0 0).take k)).registers.Asleep ↔
        s.registers.Asleep := by
      unfold Registers.Asleep
      rw [s.storedAll_read]
      intro store hstore
      exact ticks_allChannelsBase_ne store (List.mem_of_mem_take hstore)
    have hlt : (s.storedAll ((ticks allChannelsBase 0 0).take k)).passed.transactions <
        s.transactions + 7 := by
      rw [Device.State.passed_transactions, Device.State.storedAll_transactions, List.length_take]
      omega
    rw [and_iff_left hlt]
    exact hasleep
  | undriven =>
    have hmade : s.cleared.passed.transactions = s.transactions + 5 := rfl
    rw [and_iff_left (by omega)]
    exact s.cleared_asleep_iff
  | uncalled =>
    have hmade : s.driven.passed.transactions = s.transactions + 6 := rfl
    rw [and_iff_left (by omega)]
    exact s.driven_asleep_iff
  -- the mode is written without the sleep bit, and read back without it
  | unread =>
    have hmade : s.called.passed.transactions = s.transactions + 7 := rfl
    exact iff_of_false s.called_not_asleep (by omega)
  | unready =>
    have hmade : s.called.passed.passed.transactions = s.transactions + 8 := rfl
    exact iff_of_false s.called_not_asleep (by omega)
  | done =>
    have hmade : s.ready.transactions = s.transactions + 8 := rfl
    exact iff_of_false s.ready_not_asleep (by omega)

theorem setUp_not_asleep (h : Runs (controller.onBus fault?) controller.setUp s (.ok ()) s') :
    ¬s'.registers.Asleep := by
  cases setUp_runs h with
  | done => exact s.ready_not_asleep

theorem setPulse_asleep_iff {channel : UInt8} {on off : UInt16}
    (h : Runs (controller.onBus fault?) (controller.setPulse channel on off) s result s') :
    s'.registers.Asleep ↔ s.registers.Asleep := by
  rw [setPulse] at h
  split_ifs at h with hchannel
  · unfold Registers.Asleep
    rw [writeTicks_read h (ticks_channelRegister_ne hchannel)]
  · rcases runs_throw_iff.mp h with ⟨_, rfl⟩
    rfl

theorem setAllPulses_asleep_iff {on off : UInt16}
    (h : Runs (controller.onBus fault?) (controller.setAllPulses on off) s result s') :
    s'.registers.Asleep ↔ s.registers.Asleep := by
  unfold Registers.Asleep
  rw [writeTicks_read h ticks_allChannelsBase_ne]

end Operations

end Controller

/-! ### Histories -/

/-- What came of an operation. -/
structure Outcome where
  /-- What the chip was told to do. -/
  operation : Operation
  /-- How it ended. -/
  result : Except PwmFault Unit
  /-- How many transactions were made for it. -/
  transactions : Nat

namespace Outcome

/-- The frequency was to be set, and the write of the prescaler failed or the one after it. -/
def PutsToSleep (outcome : Outcome) : Prop :=
  (∃ hz, outcome.operation = .command (.setFrequency hz)) ∧
    (outcome.transactions = 3 ∨ outcome.transactions = 4)

/-- The chip was set up, at least beyond the first write of its mode. -/
def Wakes (outcome : Outcome) : Prop :=
  outcome.operation = .setUp ∧ 7 ≤ outcome.transactions

end Outcome

/-- One of the operations put the chip to sleep, and none of those after it woke it up. -/
def LeftAsleep (history : List Outcome) : Prop :=
  ∃ before outcome after, history = before ++ outcome :: after ∧ outcome.PutsToSleep ∧
    ∀ later ∈ after, ¬later.Wakes

theorem leftAsleep_cons_iff {outcome : Outcome} {rest : List Outcome} :
    LeftAsleep (outcome :: rest) ↔
      LeftAsleep rest ∨ outcome.PutsToSleep ∧ ∀ later ∈ rest, ¬later.Wakes := by
  constructor
  · rintro ⟨before, found, after, hsplit, hsleep, hlater⟩
    rcases List.cons_eq_append_iff.mp hsplit with ⟨_, hfirst⟩ | ⟨more, _, hrest⟩
    · rw [List.cons.injEq] at hfirst
      rcases hfirst with ⟨rfl, rfl⟩
      exact Or.inr ⟨hsleep, hlater⟩
    · exact Or.inl ⟨more, found, after, hrest, hsleep, hlater⟩
  · rintro (⟨before, found, after, rfl, hsleep, hlater⟩ | ⟨hsleep, hlater⟩)
    · exact ⟨outcome :: before, found, after, rfl, hsleep, hlater⟩
    · exact ⟨[], outcome, rest, rfl, hsleep, hlater⟩

namespace Controller

/-- What comes of operations one after another. -/
def history (controller : Controller) (fault? : Nat → Option I2c.Fault) :
    List Operation → Device.State → List Outcome
  | [], _ => []
  | operation :: rest, s =>
    let run := (controller.operate operation).run.eval (controller.onBus fault?) s
    ⟨operation, run.1, run.2.transactions - s.transactions⟩ :: controller.history fault? rest run.2

section Histories

variable {controller : Controller} {fault? : Nat → Option I2c.Fault} {s s' : Device.State}

theorem eval_operateAll_cons (operation : Operation) (rest : List Operation) :
    (controller.operateAll (operation :: rest)).eval (controller.onBus fault?) s =
      let run := (controller.operate operation).run.eval (controller.onBus fault?) s
      let later := (controller.operateAll rest).eval (controller.onBus fault?) run.2
      (run.1 :: later.1, later.2) := by
  rw [operateAll, eval_bind, eval_bind, pure_eq_done, eval_done]

theorem operate_asleep_iff {operation : Operation} {result : Except PwmFault Unit}
    (h : Runs (controller.onBus fault?) (controller.operate operation) s result s') :
    s'.registers.Asleep ↔
      Outcome.PutsToSleep ⟨operation, result, s'.transactions - s.transactions⟩ ∨
      s.registers.Asleep ∧
        ¬Outcome.Wakes ⟨operation, result, s'.transactions - s.transactions⟩ := by
  -- only setting up and setting a frequency touch the sleep bit
  cases operation with
  | setUp =>
    rw [setUp_asleep_iff h]
    simp [Outcome.PutsToSleep, Outcome.Wakes]
    omega
  | setAllPulses on off =>
    rw [setAllPulses_asleep_iff h]
    simp [Outcome.PutsToSleep, Outcome.Wakes]
  | command request =>
    cases request with
    | setPulse channel on off =>
      rw [setPulse_asleep_iff h]
      simp [Outcome.PutsToSleep, Outcome.Wakes]
    | setFrequency hz =>
      have hthree : s'.transactions - s.transactions = 3 ↔
          s'.transactions = s.transactions + 3 := by omega
      have hfour : s'.transactions - s.transactions = 4 ↔
          s'.transactions = s.transactions + 4 := by omega
      rw [setFrequency_asleep_iff h]
      simp [Outcome.PutsToSleep, Outcome.Wakes, hthree, hfour]

/-- What operations one after another do to the chip's sleep. -/
theorem operateAll_asleep_iff (operations : List Operation) :
    ((controller.operateAll operations).eval (controller.onBus fault?) s).2.registers.Asleep ↔
      LeftAsleep (controller.history fault? operations s) ∨
      s.registers.Asleep ∧ ∀ outcome ∈ controller.history fault? operations s,
        ¬outcome.Wakes := by
  induction operations generalizing s with
  | nil => simp [operateAll, history, LeftAsleep]
  | cons operation rest ih =>
    rcases exists_runs (controller.onBus fault?) (controller.operate operation) s with
      ⟨result, middle, hrun⟩
    have hstep := operate_asleep_iff hrun
    rw [eval_operateAll_cons, history]
    unfold Runs at hrun
    rw [hrun]
    show (Program.eval _ _ middle).2.registers.Asleep ↔ _
    -- the rest starts asleep or awake as the first operation leaves the chip
    rw [ih, hstep, leftAsleep_cons_iff, List.forall_mem_cons]
    tauto

end Histories

end Controller

/-- After the chip was set up and told whatever else, let the frequency be set without a failure.
Then the prescaler is the one of the frequency, and the chip is awake except when an earlier
operation left it asleep, and then it is not. -/
theorem setFrequency_iff_leftAsleep (controller : Controller) (fault? : Nat → Option I2c.Fault)
    {start s s' : Device.State} (operations : List Operation) (hz : UInt16)
    (hsetUp : Runs (controller.onBus fault?) (controller.operate .setUp) start (.ok ()) s)
    (hset : Runs (controller.onBus fault?) (controller.operate (.command (.setFrequency hz)))
      ((controller.operateAll operations).eval (controller.onBus fault?) s).2 (.ok ()) s') :
    prescale? hz = some (s'.registers.read prescaler) ∧
      (¬s'.registers.Asleep ↔ ¬LeftAsleep (controller.history fault? operations s)) := by
  refine ⟨Controller.setFrequency_prescaler hset, ?_⟩
  have hawake : ¬s.registers.Asleep := Controller.setUp_not_asleep hsetUp
  cases Controller.setFrequency_runs hset with
  | @done prescale =>
    rw [Device.State.restarted_asleep_iff, Controller.operateAll_asleep_iff]
    simp [hawake]

/-- The third transaction after a chip was set up fails: the write of the prescaler if the frequency
is set then. -/
def third (n : Nat) : Option I2c.Fault :=
  if n = 10 then some .bus else none

/-- The frequency is to be set, and an output is moved. -/
def started : List Operation :=
  [.command (.setFrequency 60), .command (.setPulse 2 0 150)]

/-- What a chip that was just set up is left with if the prescaler is not written. -/
def dozing : Device.State :=
  (Device.State.ready {}).lulled.passed.storedAll (ticks (channelRegister 2) 0 150)

/-- The chip is set up, its frequency cannot be set and a pulse is, and then the frequency is set
without a failure: the prescaler is right, and the chip is still asleep. -/
theorem setFrequency_after_setUp :
    Runs (Controller.onBus ⟨0x40⟩ third) (Controller.operate ⟨0x40⟩ .setUp) {} (.ok ())
      (Device.State.ready {}) ∧
    Runs (Controller.onBus ⟨0x40⟩ third)
      (Controller.operate ⟨0x40⟩ (.command (.setFrequency 60)))
      ((Controller.operateAll ⟨0x40⟩ started).eval (Controller.onBus ⟨0x40⟩ third)
        (Device.State.ready {})).2
      (.ok ()) (dozing.restarted 101) ∧
    prescale? 60 = some ((dozing.restarted 101).registers.read prescaler) ∧
      LeftAsleep (Controller.history ⟨0x40⟩ third started (Device.State.ready {})) ∧
      (dozing.restarted 101).registers.Asleep := by
  have hsetUp : Runs (Controller.onBus ⟨0x40⟩ third) (Controller.operate ⟨0x40⟩ .setUp) {} (.ok ())
      (Device.State.ready {}) := rfl
  have hset : Runs (Controller.onBus ⟨0x40⟩ third)
      (Controller.operate ⟨0x40⟩ (.command (.setFrequency 60)))
      ((Controller.operateAll ⟨0x40⟩ started).eval (Controller.onBus ⟨0x40⟩ third)
        (Device.State.ready {})).2
      (.ok ()) (dozing.restarted 101) := rfl
  have hleft : LeftAsleep (Controller.history ⟨0x40⟩ third started (Device.State.ready {})) := by
    refine ⟨[], ⟨.command (.setFrequency 60), .error .writeFailed, 3⟩,
      [⟨.command (.setPulse 2 0 150), .ok (), 4⟩], rfl, ⟨⟨60, rfl⟩, Or.inl rfl⟩, ?_⟩
    rw [List.forall_mem_singleton]
    rintro ⟨hoperation, _⟩
    cases hoperation
  obtain ⟨hprescale, hasleep⟩ := setFrequency_iff_leftAsleep ⟨0x40⟩ third started 60 hsetUp hset
  exact ⟨hsetUp, hset, hprescale, hleft, not_not.mp fun hawake => hasleep.mp hawake hleft⟩

/-- The chip does not always run after its frequency was set without a failure: it stays asleep when
the write of the prescaler failed the time before. -/
theorem not_always_awake :
    ¬∀ (controller : Controller) (fault? : Nat → Option I2c.Fault) (start s s' : Device.State)
      (operations : List Operation) (hz : UInt16),
      Runs (controller.onBus fault?) (controller.operate .setUp) start (.ok ()) s →
      Runs (controller.onBus fault?) (controller.operate (.command (.setFrequency hz)))
        ((controller.operateAll operations).eval (controller.onBus fault?) s).2 (.ok ()) s' →
      prescale? hz = some (s'.registers.read prescaler) ∧ ¬s'.registers.Asleep := by
  intro h
  have hawake := (h ⟨0x40⟩ third {} (Device.State.ready {})
    ((Device.State.ready {}).lulled.passed.restarted 101) [.command (.setFrequency 60)] 60
    rfl rfl).2
  rw [Device.State.restarted_asleep_iff] at hawake
  exact hawake (Device.State.ready {}).lulled_asleep

end DrinkMixer.Pwm
