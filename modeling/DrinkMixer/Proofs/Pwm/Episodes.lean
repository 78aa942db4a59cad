import DrinkMixer.Proofs.Pwm.Frequency
import DrinkMixer.Proofs.Pwm.Stores

/-!
# Histories, operation by operation

A history of the controller on its device is cut into episodes, one for each operation, with the
device before it, what it asked and how it ended (`Episode`).

The prescaler of the chip may be written only while its oscillator is off. Setting a frequency
writes it right after the chip was put to sleep, whatever failed before, and nothing else writes it.

Main statements: `calls_operateAll`, a history asks what its episodes ask one after the other, and
`prescaler_written_asleep`, what is written into the prescaler in a history, and what setting a
frequency leaves alone.
-/

namespace DrinkMixer.Pwm

open Program

/-! ### Episodes -/

/-- One operation of a history. -/
structure Episode where
  /-- What the chip was told to do. -/
  operation : Operation
  /-- The device before it. -/
  start : Device.State
  /-- What was asked, with the answers. -/
  calls : List (Call ControllerBus)
  /-- How it ended. -/
  result : Except PwmFault Unit

namespace Controller

/-- The episodes of a history: each starts with the device as the one before left it. -/
def episodes (controller : Controller) (fault? : Nat → Option I2c.Fault) :
    List Operation → Device.State → List Episode
  | [], _ => []
  | operation :: rest, s =>
    let run := (controller.operate operation).run.eval (controller.onBus fault?) s
    ⟨operation, s, (controller.operate operation).run.calls (controller.onBus fault?) s, run.1⟩ ::
      controller.episodes fault? rest run.2

section Episodes

variable {controller : Controller} {fault? : Nat → Option I2c.Fault} {s : Device.State}

/-- A history asks what its episodes ask. -/
theorem calls_operateAll (operations : List Operation) :
    (controller.operateAll operations).calls (controller.onBus fault?) s =
      (controller.episodes fault? operations s).flatMap Episode.calls := by
  induction operations generalizing s with
  | nil => rfl
  | cons operation rest ih =>
    rw [operateAll, calls_bind, calls_bind, pure_eq_done, calls_done, List.append_nil, ih, episodes,
      List.flatMap_cons]

/-- An episode is a run of its operation. -/
theorem episode_of_mem {operations : List Operation} {episode : Episode}
    (h : episode ∈ controller.episodes fault? operations s) :
    episode.calls =
        (controller.operate episode.operation).run.calls (controller.onBus fault?) episode.start ∧
      episode.result =
        ((controller.operate episode.operation).run.eval (controller.onBus fault?)
          episode.start).1 := by
  induction operations generalizing s with
  | nil => cases h
  | cons operation rest ih =>
    rcases List.mem_cons.mp h with rfl | hrest
    · exact ⟨rfl, rfl⟩
    · exact ih hrest

end Episodes

end Controller

/-! ### Registers beside the frequency -/

/-- The bits of the first mode register that setting a frequency may change. -/
def frequencyBits : UInt8 :=
  sleep ||| restart

theorem mode_and_sleep_and_frequencyBits (mode : UInt8) :
    ((mode &&& ~~~restart) ||| sleep) &&& ~~~frequencyBits = mode &&& ~~~frequencyBits := by
  rw [← UInt8.toBitVec_inj]
  ext i hi
  interval_cases i <;> simp [frequencyBits, restart, sleep]

theorem restart_and_frequencyBits (mode : UInt8) :
    (mode ||| restart) &&& ~~~frequencyBits = mode &&& ~~~frequencyBits := by
  rw [← UInt8.toBitVec_inj]
  ext i hi
  interval_cases i <;> simp [frequencyBits, restart, sleep]

/-- Registers differ from others in the prescaler and in the two bits of the mode only. -/
structure Registers.Retuned (old new : Registers) : Prop where
  others : ∀ register, register ≠ mode1 → register ≠ prescaler →
    new.read register = old.read register
  mode : new.read mode1 &&& ~~~frequencyBits = old.read mode1 &&& ~~~frequencyBits

namespace Registers.Retuned

variable {old new : Registers}

theorem refl (registers : Registers) : registers.Retuned registers :=
  ⟨fun _ _ _ => rfl, rfl⟩

theorem store_prescaler (h : old.Retuned new) (value : UInt8) :
    old.Retuned (new.store prescaler value) where
  others register hmode hprescaler := by
    rw [read_store, if_neg hprescaler.symm, h.others register hmode hprescaler]
  mode := by
    rw [read_store, if_neg (by decide), h.mode]

theorem store_mode (h : old.Retuned new) {value : UInt8}
    (hvalue : value &&& ~~~frequencyBits = old.read mode1 &&& ~~~frequencyBits) :
    old.Retuned (new.store mode1 value) where
  others register hmode hprescaler := by
    rw [read_store, if_neg hmode.symm, h.others register hmode hprescaler]
  mode := by
    rw [read_store, if_pos rfl, hvalue]

end Registers.Retuned

/-! ### Stores of single operations -/

namespace Operation

/-- What an operation may store: the prescaler of the frequency it sets, while the chip sleeps, and
anything in other registers. -/
def Guarded (operation : Operation) (s : Device.State) (store : UInt8 × UInt8) : Prop :=
  store.1 = prescaler →
    (∃ hz, operation = .command (.setFrequency hz) ∧ prescale? hz = some store.2) ∧
      s.registers.Asleep

theorem guarded_of_ne {operation : Operation} {s : Device.State} {store : UInt8 × UInt8}
    (h : store.1 ≠ prescaler) : operation.Guarded s store :=
  fun hprescaler => absurd hprescaler h

end Operation

namespace Controller

variable {controller : Controller} {fault? : Nat → Option I2c.Fault} {s : Device.State}

/-- The registers of pulses all lie below the prescaler. -/
theorem storing_writeTicks_guarded {operation : Operation} {base : UInt8} {on off : UInt16}
    (h : ∀ store ∈ ticks base on off, store.1 ≠ prescaler) :
    controller.Storing fault? operation.Guarded (controller.writeTicks base on off) s := by
  refine storing_writeTicks ?_
  intro s store hstore
  exact Operation.guarded_of_ne (h store hstore)

theorem storing_setAllPulses_guarded {operation : Operation} (on off : UInt16) :
    controller.Storing fault? operation.Guarded (controller.setAllPulses on off) s := by
  refine storing_writeTicks_guarded ?_
  simp [ticks, allChannelsBase, prescaler]

theorem storing_setUp_guarded {operation : Operation} :
    controller.Storing fault? operation.Guarded controller.setUp s := by
  have hmode2 : ∀ s value, operation.Guarded s (mode2, value) := by
    intro s value
    exact Operation.guarded_of_ne (show mode2 ≠ prescaler by decide)
  have hmode1 : ∀ s value, operation.Guarded s (mode1, value) := by
    intro s value
    exact Operation.guarded_of_ne (show mode1 ≠ prescaler by decide)
  refine storing_bind_iff.mpr ⟨storing_setAllPulses_guarded 0 0, fun _ _ _ => ?_⟩
  refine storing_write_bind_iff.mpr fun _ => ⟨hmode2 _ _, ?_⟩
  refine storing_write_bind_iff.mpr fun _ => ⟨hmode1 _ _, storing_wait_bind_iff.mpr ?_⟩
  refine storing_read_bind_iff.mpr fun _ => storing_write_bind_iff.mpr fun _ => ⟨hmode1 _ _, ?_⟩
  exact storing_wait_bind_iff.mpr (storing_note _)

/-- Setting a frequency writes its prescaler, and right before it puts the chip to sleep. -/
theorem storing_setFrequency_guarded (hz : UInt16) :
    controller.Storing fault? (Operation.command (.setFrequency hz)).Guarded
      (controller.setFrequency hz) s := by
  have hmode : ∀ s value, (Operation.command (.setFrequency hz)).Guarded s (mode1, value) := by
    intro s value
    exact Operation.guarded_of_ne (show mode1 ≠ prescaler by decide)
  unfold setFrequency
  cases hprescale : prescale? hz with
  | none => exact storing_throw _
  | some prescale =>
    refine storing_read_bind_iff.mpr fun _ => storing_write_bind_iff.mpr fun _ => ⟨hmode _ _, ?_⟩
    refine storing_write_bind_iff.mpr fun _ => ⟨?_, ?_⟩
    · intro _
      exact ⟨⟨hz, rfl, hprescale⟩, s.lulled_asleep⟩
    · refine storing_write_bind_iff.mpr fun _ => ⟨hmode _ _, storing_wait_bind_iff.mpr ?_⟩
      exact storing_write_bind_iff.mpr fun _ => ⟨hmode _ _, storing_note _⟩

theorem storing_operate_guarded (operation : Operation) :
    controller.Storing fault? operation.Guarded (controller.operate operation) s := by
  cases operation with
  | setUp => exact storing_setUp_guarded
  | setAllPulses on off => exact storing_setAllPulses_guarded on off
  | command request =>
    cases request with
    | setFrequency hz => exact storing_setFrequency_guarded hz
    | setPulse channel on off =>
      show controller.Storing fault? _ (controller.setPulse channel on off) s
      unfold setPulse
      split_ifs with hchannel
      · refine storing_writeTicks_guarded (ticks_ne ?_)
        intro i hi
        exact channelRegister_add_ne_of_outside hchannel hi (Or.inr (by decide))
      · exact storing_throw _

/-- Everything that setting a frequency stores keeps the other registers and the other bits of the
mode as they were. -/
theorem storing_setFrequency_retuned (hz : UInt16) :
    controller.Storing fault? (fun _ store => ∀ registers, s.registers.Retuned registers →
      s.registers.Retuned (registers.store store.1 store.2)) (controller.setFrequency hz) s := by
  unfold setFrequency
  cases prescale? hz with
  | none => exact storing_throw _
  | some prescale =>
    refine storing_read_bind_iff.mpr fun _ => storing_write_bind_iff.mpr fun _ => ⟨?_, ?_⟩
    · intro registers h
      exact h.store_mode (mode_and_sleep_and_frequencyBits _)
    refine storing_write_bind_iff.mpr fun _ => ⟨?_, ?_⟩
    · intro registers h
      exact h.store_prescaler prescale
    refine storing_write_bind_iff.mpr fun _ => ⟨?_, storing_wait_bind_iff.mpr ?_⟩
    · intro registers h
      exact h.store_mode rfl
    refine storing_write_bind_iff.mpr fun _ => ⟨?_, storing_note _⟩
    intro registers h
    exact h.store_mode (restart_and_frequencyBits _)

end Controller

/-! ### Histories -/

/-- In every history on a device, whatever transactions fail, what reaches the prescaler is the one
of a frequency that is being set, and the chip sleeps at that moment. Setting a frequency changes
nothing but the prescaler and two bits of the mode, at any moment of it and also where it fails. -/
theorem prescaler_written_asleep (controller : Controller) (fault? : Nat → Option I2c.Fault)
    (operations : List Operation) (s : Device.State) :
    (controller.operateAll operations).calls (controller.onBus fault?) s =
        (controller.episodes fault? operations s).flatMap Episode.calls ∧
      ∀ episode ∈ controller.episodes fault? operations s,
        (∀ before call after value, episode.calls = before ++ call :: after →
          (prescaler, value) ∈ stored call →
            ∃ hz, episode.operation = .command (.setFrequency hz) ∧ prescale? hz = some value ∧
              ((controller.onBus fault?).after (before.map Call.op)
                episode.start).registers.Asleep) ∧
        ∀ hz, episode.operation = .command (.setFrequency hz) →
          ∀ before after, episode.calls = before ++ after →
            episode.start.registers.Retuned
              ((controller.onBus fault?).after (before.map Call.op) episode.start).registers := by
  refine ⟨Controller.calls_operateAll operations, fun episode hepisode => ⟨?_, ?_⟩⟩
  · -- every store of an operation is guarded, and this one is for the prescaler
    intro before call after value hsplit hstored
    rw [(Controller.episode_of_mem hepisode).1] at hsplit
    have hguarded := Controller.storing_iff.mp
      (Controller.storing_operate_guarded episode.operation) before call after hsplit _ hstored rfl
    obtain ⟨⟨hz, hoperation, hprescale⟩, hasleep⟩ := hguarded
    exact ⟨hz, hoperation, hprescale, hasleep⟩
  · intro hz hoperation before after hsplit
    rw [(Controller.episode_of_mem hepisode).1, hoperation] at hsplit
    exact (Controller.storing_setFrequency_retuned hz).invariant (.refl _) hsplit

end DrinkMixer.Pwm
