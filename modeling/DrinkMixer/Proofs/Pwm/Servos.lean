import DrinkMixer.Cycle.Run
import DrinkMixer.Proofs.Pwm.ChipSteps

/-!
# Servo procedures on the PWM controller

The servo procedures with the chip below them (`Controller.onServos`), on a device at its address
whose transactions may fail. What the procedures see of all this is a world of its own
(`Controller.servos`), in which a command does what the chip does for it.

Main statements: `eval_realize_onServos`, running a procedure on the chip is running it in that
world, and the steps of a procedure there (`runs_command_bind_iff` and others).
-/

namespace DrinkMixer

open Program

namespace Pwm.Controller

/-- What the servo procedures need when the chip carries out their commands. -/
abbrev ServoBus : Signature := I2c.sum (Board.sum Progress)

/-- The chip carries out commands, and all else is handed on. -/
def onServos (controller : Controller) : Realization Servos ServoBus Unit :=
  (Realization.lift controller.onChip).sum (.direct (Board.sum Progress))

/-- What is below: a device at the controller's address whose transactions may fail, waits that
pass, a log and a receiver of events. -/
def below (controller : Controller) (fault? : Nat → Option I2c.Fault) :
    World ServoBus Device.State :=
  (Device.world ⟨controller.address, fault?⟩).sum (World.silent.sum .silent)

/-- What the servo procedures see. -/
def servos (controller : Controller) (fault? : Nat → Option I2c.Fault) :
    World Servos Device.State where
  answer
    | .inl request, s => (controller.perform request).run.eval (controller.onBus fault?) s
    | .inr (.inl _), s => ((), s)
    | .inr (.inr _), s => ((), s)

variable {controller : Controller} {fault? : Nat → Option I2c.Fault}

theorem offered_below :
    (controller.below fault?).offered (S := ControllerBus) = controller.onBus fault? := by
  refine congrArg World.mk ?_
  funext op s
  cases op with
  | inl op => rfl
  | inr op => rfl

/-- Running a servo procedure on the chip is running it in the world that it sees. -/
theorem eval_realize_onServos {α : Type} (p : Program Servos α) (s : Device.State) :
    ((p.realize controller.onServos).run ()).eval (controller.below fault?) s =
      (((p.eval (controller.servos fault?) s).1, ()), (p.eval (controller.servos fault?) s).2) := by
  induction p generalizing s with
  | done value => rfl
  | ask op next ih =>
    have hstep : ((controller.onServos op).run ()).eval (controller.below fault?) s =
        ((((controller.servos fault?).answer op s).1, ()),
          ((controller.servos fault?).answer op s).2) := by
      cases op with
      | inl request =>
        -- the chip remembers nothing: its memory is the unit that goes along
        show (((controller.perform request).run >>= fun answer => done (answer, ())).lift :
          Program ServoBus _).eval (controller.below fault?) s = _
        rw [eval_lift, offered_below, eval_bind]
        rfl
      | inr op =>
        cases op with
        | inl op => rfl
        | inr op => rfl
    rw [realize, StateT.run_bind, eval_bind, hstep, ih]
    rfl

end Pwm.Controller

/-- The chip has the outputs of all pour servos. -/
theorem ServoSettings.output_pour_lt (settings : ServoSettings) (channel : PourChannel) :
    settings.output (.pour channel) < Pwm.channelCount := by
  show channel.output < Pwm.channelCount
  revert channel
  decide

/-! ### Steps -/

namespace ServoProcedure

variable {controller : Pwm.Controller} {fault? : Nat → Option I2c.Fault}
  {s s' : Pwm.Device.State} {α : Type}

/-- A command does what the chip does for it. -/
theorem runs_command_bind_iff {request : Pwm.Request} {f : Unit → ServoProcedure α}
    {result : Except Failure α} :
    Runs (controller.servos fault?) (command request >>= f) s result s' ↔
      (∃ fault, Runs (controller.onBus fault?) (controller.perform request) s (.error fault) s' ∧
        result = .error (.pwm fault)) ∨
      ∃ middle, Runs (controller.onBus fault?) (controller.perform request) s (.ok ()) middle ∧
        Runs (controller.servos fault?) (f ()) middle result s' := by
  have hcommand : ∀ answer middle,
      Runs (controller.onBus fault?) (controller.perform request) s answer middle →
        Runs (controller.servos fault?) (command request) s (answer.mapError .pwm) middle := by
    intro answer middle h
    exact runs_attempt_iff.mpr ⟨answer, h, rfl⟩
  rcases exists_runs (controller.onBus fault?) (controller.perform request) s with
    ⟨fault | _, middle, h⟩
  · rw [runs_bind_of_error (hcommand _ _ h)]
    constructor
    · rintro ⟨rfl, rfl⟩
      exact Or.inl ⟨fault, h, rfl⟩
    · rintro (⟨_, h', rfl⟩ | ⟨_, h', _⟩) <;> cases h.symm.trans h'
      exact ⟨rfl, rfl⟩
  · rw [runs_bind_of_ok (hcommand _ _ h)]
    constructor
    · intro hrest
      exact Or.inr ⟨middle, h, hrest⟩
    · rintro (⟨_, h', _⟩ | ⟨_, h', hrest⟩) <;> cases h.symm.trans h'
      exact hrest

theorem runs_wait_iff {ms : UInt32} {result : Except Failure Unit} :
    Runs (controller.servos fault?) (wait ms) s result s' ↔ result = .ok () ∧ s' = s :=
  runs_always_iff

theorem runs_wait_bind_iff {ms : UInt32} {f : Unit → ServoProcedure α}
    {result : Except Failure α} :
    Runs (controller.servos fault?) (wait ms >>= f) s result s' ↔
      Runs (controller.servos fault?) (f ()) s result s' :=
  runs_always_bind_iff

theorem runs_note_iff {level : LogLevel} {text : String} {result : Except Failure Unit} :
    Runs (controller.servos fault?) (note level text) s result s' ↔ result = .ok () ∧ s' = s :=
  runs_always_iff

theorem runs_note_bind_iff {level : LogLevel} {text : String} {f : Unit → ServoProcedure α}
    {result : Except Failure α} :
    Runs (controller.servos fault?) (note level text >>= f) s result s' ↔
      Runs (controller.servos fault?) (f ()) s result s' :=
  runs_always_bind_iff

theorem runs_emit_bind_iff {event : Event} {f : Unit → ServoProcedure α}
    {result : Except Failure α} :
    Runs (controller.servos fault?) (emit event >>= f) s result s' ↔
      Runs (controller.servos fault?) (f ()) s result s' :=
  runs_always_bind_iff

variable {J : Pwm.Device.State → Prop} {F : Failure → Pwm.Device.State → Prop}

theorem keeps_note (level : LogLevel) (text : String) :
    Keeps (controller.servos fault?) J F (note level text) :=
  keeps_always fun _ => rfl

theorem keeps_emit (event : Event) : Keeps (controller.servos fault?) J F (emit event) :=
  keeps_always fun _ => rfl

end ServoProcedure

end DrinkMixer
