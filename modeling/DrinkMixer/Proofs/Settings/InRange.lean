import DrinkMixer.Proofs.Order.FailStop
import DrinkMixer.Proofs.Order.Registers
import DrinkMixer.Proofs.Payment.Station
import DrinkMixer.Settings.Document

/-!
# Settings in range

Settings that were loaded, or the defaults, have every value in the range that the hardware has for
it (`Settings.InRange`). What the chip and the payment reader check again while they run therefore
never fails.

Main statement: `loaded_inRange`, with loaded settings no run ever ends for a value out of range,
and every pulse that is asked for sends an actuator of the request to one of its extremes.
-/

namespace DrinkMixer

open Pwm Controller Servos

/-- The failures that are due to a value out of its range. -/
inductive Failure.OutOfRange : Failure → Prop
  /-- The controller has no such output. -/
  | channel (channel : UInt8) : OutOfRange (.pwm (.invalidChannel channel))
  /-- The controller has no such frequency. -/
  | frequency (hz : UInt16) : OutOfRange (.pwm (.frequencyOutOfRange hz))
  /-- A frame without bytes was asked for. -/
  | emptyFrame : OutOfRange (.bus .emptyFrame)
  /-- A frame was asked for that does not fit the buffer. -/
  | frameTooLong (length : UInt64) : OutOfRange (.bus (.frameTooLong length))

namespace Settings

/-- Every value is in the range that the hardware has for it. -/
structure InRange (settings : Settings) : Prop where
  /-- The controller has the frequency. -/
  frequency : ∃ prescale, prescale? settings.servo.frequency = some prescale
  /-- The open extreme is longer than the closed one. -/
  pulses : settings.servo.pulseMin < settings.servo.pulseMax
  /-- Both extremes fit a period. -/
  ticks : settings.servo.pulseMax < 4096
  /-- The controller has the output of the mixer. -/
  mixer : settings.servo.mixOutput < channelCount
  /-- No pour servo is wired to the output of the mixer. -/
  free : ∀ channel : PourChannel, channel.output ≠ settings.servo.mixOutput
  /-- Frames of the length can be read. -/
  frame : settings.refusal? .payment = none

variable {settings : Settings}

theorem inRange_of_check (h : settings.check = .ok ()) : settings.InRange := by
  have hmixer := (Order.ranges_of_check h).2
  have hprescale := Order.exists_prescale_of_check h
  rw [check_eq_ok_iff] at h
  have hpulse := h _ (List.mem_of_getElem? (i := 2) rfl)
  have hmix := h _ (List.mem_of_getElem? (i := 3) rfl)
  have hframe := h _ (List.mem_of_getElem? (i := 5) rfl)
  simp only [Bool.and_eq_true, decide_eq_true_eq] at hpulse hmix hframe
  have houtput : ∀ channel : PourChannel, channel.output < 6 := by decide
  have hzero : settings.payment.frameLength ≠ 0 := by
    intro hzero
    rw [hzero] at hframe
    exact absurd hframe.1 (by decide)
  have hfits : settings.payment.frameLength ≤ Payment.maxFrameLength := hframe.2
  refine ⟨hprescale, hpulse.1, hpulse.2, hmixer, ?_, ?_⟩
  · intro channel hwired
    exact absurd hmix.1 (UInt8.not_le.mpr (hwired ▸ houtput channel))
  · rw [refusal?, if_neg hzero, if_neg (UInt64.not_lt.mpr hfits)]

theorem check_of_ofText {text : String} (h : ofText text = .ok settings) :
    settings.check = .ok () := by
  rw [ofText] at h
  split at h
  · cases h
  · next found _ =>
    cases hcheck : found.check with
    | error fault =>
      rw [hcheck] at h
      cases h
    | ok =>
      rw [hcheck] at h
      obtain rfl := Except.ok.inj h
      exact hcheck

/-- Settings that were loaded, and the defaults, pass the range checks. -/
theorem check_of_loadNamed {source : Option SettingsSource}
    (h : SettingsSource.loadNamed source = .ok settings) : settings.check = .ok () := by
  rcases source with _ | _ | _ | text
  · obtain rfl := Except.ok.inj h
    rfl
  · cases h
  · cases h
  · exact check_of_ofText h

/-- The chip has all that the settings ask it for. -/
theorem InRange.not_refusal {failure : Failure} (h : settings.InRange) :
    ¬settings.servo.Refusal failure := by
  rintro (hfrequency | hmixer)
  · obtain ⟨prescale, hprescale⟩ := h.frequency
    cases hfrequency.symm.trans hprescale
  · exact hmixer h.mixer

end Settings

/-! ### Failures of runs -/

/-- A transaction that failed is not out of range. -/
theorem Pwm.Controller.not_outOfRange_of_reported? {call : Call ServoBus} {fault : PwmFault}
    (h : reported? call = some fault) : ¬(Failure.pwm fault).OutOfRange := by
  have hfault : fault = .writeFailed ∨ fault = .readFailed := by
    unfold reported? at h
    split at h <;> cases h
    · exact Or.inl rfl
    · exact Or.inr rfl
    · exact Or.inr rfl
  rcases hfault with rfl | rfl
  · exact nofun
  · exact nofun

/-- What stops at the first transaction that fails and is not refused does not end for a value out
of range. -/
theorem Pwm.Controller.FailStop.not_outOfRange {ε α : Type} {wrap : Failure → ε}
    {Refused : ε → Prop} {calls : List (Call ServoBus)} {failure : ε}
    (h : FailStop (wrap ∘ .pwm) Refused calls (.error failure : Except ε α))
    (hrefused : ∀ failure, ¬Refused failure) :
    ∃ cause, failure = wrap cause ∧ ¬cause.OutOfRange := by
  cases h with
  | refused reason => exact absurd reason (hrefused _)
  | failed _ _ _ _ fails => exact ⟨_, rfl, not_outOfRange_of_reported? fails⟩

theorem Actuator.eq_of_ofText_eq_error {text : String} {failure : Failure}
    (h : ofText text = .error failure) : failure = .unknownActuator text := by
  unfold ofText at h
  split at h <;> cases h
  rfl

theorem RepeatCount.eq_of_ofText_eq_error {text : String} {failure : Failure}
    (h : ofText text = .error failure) : failure = .invalidCount text := by
  unfold ofText at h
  split at h <;> cases h
  rfl

/-- Arguments that are not accepted are not out of range. -/
theorem CycleRequest.not_outOfRange_of_ofArguments {arguments : List String} {failure : Failure}
    (h : ofArguments arguments = .error failure) : ¬failure.OutOfRange := by
  cases arguments with
  | nil =>
    cases h
    exact nofun
  | cons first rest =>
    rw [ofArguments] at h
    -- the checks in their order: the actuator, whether a count is there, and the count
    cases hactuator : Actuator.ofText first with
    | error cause =>
      rw [hactuator] at h
      cases h
      rw [Actuator.eq_of_ofText_eq_error hactuator]
      exact nofun
    | ok actuator =>
      rw [hactuator] at h
      cases actuator with
      | mixer => cases h
      | pour channel =>
        cases rest with
        | nil =>
          cases h
          exact nofun
        | cons count _ =>
          have hcounted : (RepeatCount.ofText count >>= fun count =>
              pure ⟨.pour channel, count⟩ : Except Failure CycleRequest) = .error failure := h
          cases hcount : RepeatCount.ofText count with
          | error cause =>
            rw [hcount] at hcounted
            cases hcounted
            rw [RepeatCount.eq_of_ofText_eq_error hcount]
            exact nofun
          | ok count =>
            rw [hcount] at hcounted
            cases hcounted

/-! ### Runs with settings in range -/

section Runs

variable {settings : Settings} {σ ε : Type}

theorem Order.pour_inRange (h : settings.InRange) (w : World ServoBus σ) (s : σ)
    (controller : Controller) (order : Order) :
    let run := (order.pour settings.servo).run
    (∀ failure, (((run.realize controller.onServos).run ()).eval w s).1.1 = .error failure →
      ¬failure.OutOfRange) ∧
    ∀ request, commanded request ∈ (run.calls (controller.onServos.world w) ((), s)).map Call.op →
      settings.servo.Commands order.Moves request := by
  intro run
  have hpath := Program.path_calls (controller.onServos.world w) run ((), s)
  constructor
  · intro failure hfailure
    rw [Program.eval_realize] at hfailure
    have hstop : FailStop (id ∘ .pwm) settings.servo.Refusal _ (.error failure) :=
      hfailure ▸ order.failStop_pour settings.servo hpath (Realization.carries_calls _ w run () s)
    obtain ⟨_, rfl, hcause⟩ := hstop.not_outOfRange fun _ => h.not_refusal
    exact hcause
  · intro request hmem
    have hpursued := (order.follows_pour settings.servo).pursued hpath
    exact order.commands_plan settings.servo (hpursued.commanded_mem hmem)

theorem CycleRequest.serve_inRange (h : settings.InRange) (w : World ServoBus σ) (s : σ)
    (controller : Controller) (wrap : Failure → ε) (setUp : Bool) (arguments : List String) :
    let run := (serve wrap settings.servo arguments).run
    let chip := controller.serving wrap setUp
    (∀ failure, (((run.realize chip).run ()).eval w s).1.1 = .error failure →
      ∃ cause, failure = wrap cause ∧ ¬cause.OutOfRange) ∧
    ∀ request, Sum.inr (commanded request) ∈ (run.calls (chip.world w) ((), s)).map Call.op →
      ∃ served, ofArguments arguments = .ok served ∧
        settings.servo.Commands (· = served.actuator) request := by
  intro run chip
  have hpath := Program.path_calls (chip.world w) run ((), s)
  refine ⟨?_, fun _ => commands_of_serve_path hpath⟩
  intro failure hfailure
  rw [Program.eval_realize] at hfailure
  -- arguments that are refused fail by themselves, and others only by a transaction
  cases harguments : ofArguments arguments with
  | error cause =>
    rcases serve_path hpath with ⟨_, hrefused, _, hresult⟩ | ⟨_, haccepted, _⟩
    · rw [hresult] at hfailure
      cases hfailure
      exact ⟨_, rfl, not_outOfRange_of_ofArguments hrefused⟩
    · cases harguments.symm.trans haccepted
  | ok request =>
    have hstop := failStop_serve harguments hpath (Realization.carries_calls _ w run () s)
    rw [hfailure] at hstop
    refine hstop.not_outOfRange ?_
    rintro _ ⟨cause, hrefusal, _⟩
    exact h.not_refusal hrefusal

theorem ReadProcedure.read_inRange (h : settings.InRange) (w : World Payment.PaymentStation σ)
    (s : σ) (fuel : Nat) (standing : Standing) :
    let run := (((read settings .payment fuel).run.run standing).realize Payment.onStation).run ()
    ∀ failure, (run.eval w s).1.1.1 = .error failure → ¬failure.OutOfRange := by
  intro run failure hfailure
  obtain ⟨above, habove, hcarries⟩ := Program.path_realize_iff.mp (Program.path_calls w run s)
  have hread : (read settings .payment fuel).Path standing above (.error failure)
      (run.eval w s).1.1.2 := hfailure ▸ habove
  obtain ⟨cause, rfl⟩ := failure_of_readPayment h.frame hread hcarries
  unfold Payment.faultAt
  split <;> exact nofun

/-- With settings that were loaded, or the defaults, no value out of range ends an order, a list of
arguments or a run for payment frames, whatever the chip or the bus answers. Every pulse that is
asked for takes an actuator of the order, or of the arguments, to one of the two extremes, and the
mixer has an output of its own. -/
theorem loaded_inRange {source : Option SettingsSource}
    (h : SettingsSource.loadNamed source = .ok settings) :
    settings.InRange ∧
    (∀ (w : World ServoBus σ) (s : σ) (controller : Controller) (order : Order),
      let run := (order.pour settings.servo).run
      (∀ failure, (((run.realize controller.onServos).run ()).eval w s).1.1 = .error failure →
        ¬failure.OutOfRange) ∧
      ∀ request, commanded request ∈ (run.calls (controller.onServos.world w) ((), s)).map Call.op →
        settings.servo.Commands order.Moves request) ∧
    (∀ (w : World ServoBus σ) (s : σ) (controller : Controller) (wrap : Failure → ε)
      (setUp : Bool) (arguments : List String),
      let run := (CycleRequest.serve wrap settings.servo arguments).run
      let chip := controller.serving wrap setUp
      (∀ failure, (((run.realize chip).run ()).eval w s).1.1 = .error failure →
        ∃ cause, failure = wrap cause ∧ ¬cause.OutOfRange) ∧
      ∀ request, Sum.inr (commanded request) ∈ (run.calls (chip.world w) ((), s)).map Call.op →
        ∃ served, CycleRequest.ofArguments arguments = .ok served ∧
          settings.servo.Commands (· = served.actuator) request) ∧
    ∀ (w : World Payment.PaymentStation σ) (s : σ) (fuel : Nat) (standing : Standing),
      let run := (((ReadProcedure.read settings .payment fuel).run.run standing).realize
        Payment.onStation).run ()
      ∀ failure, (run.eval w s).1.1.1 = .error failure → ¬failure.OutOfRange := by
  have hrange := Settings.inRange_of_check (Settings.check_of_loadNamed h)
  exact ⟨hrange, Order.pour_inRange hrange, CycleRequest.serve_inRange hrange,
    ReadProcedure.read_inRange hrange⟩

/-- A document that wires the mixer to another output. -/
def rewired : String :=
  "\x7b\"pwm\": \x7b\"mix_channel\": 7\x7d\x7d"

/-- Two servos pour and the mixer runs on the output of the document, until a transaction fails. -/
theorem rewired_inRange :
    SettingsSource.loadNamed (some (.text rewired)) = .ok { servo := { mixOutput := 7 } } ∧
    Settings.InRange { servo := { mixOutput := 7 } } ∧
    let w := below ⟨0x40⟩ fun n => if n = 40 then some .bus else none
    let run := (Order.mixed.pour { mixOutput := 7 }).run
    (∀ failure, (((run.realize (onServos ⟨0x40⟩)).run ()).eval w {}).1.1 = .error failure →
      ¬failure.OutOfRange) ∧
    ∀ request, commanded request ∈ (run.calls ((onServos ⟨0x40⟩).world w) ((), {})).map Call.op →
      ServoSettings.Commands { mixOutput := 7 } Order.mixed.Moves request := by
  have hload : SettingsSource.loadNamed (some (.text rewired)) =
      .ok { servo := { mixOutput := 7 } } := rfl
  have hall := loaded_inRange (σ := Device.State) (ε := Failure) hload
  exact ⟨hload, hall.1, hall.2.1 (below ⟨0x40⟩ _) {} ⟨0x40⟩ Order.mixed⟩

end Runs

end DrinkMixer
