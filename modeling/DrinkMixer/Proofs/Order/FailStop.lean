import DrinkMixer.Proofs.Cycle.Serving
import DrinkMixer.Proofs.Order.Extremes
import DrinkMixer.Proofs.Order.Plan

/-!
# Orders and arguments on the chip

Pouring an order moves the actuators that it has something for. With the chip below, an order and
arguments stop at the first transaction that fails.

Main statement: `servos_failStop`, whatever fails below, an order and accepted arguments end at the
first transaction that fails and report it, and otherwise return something or are refused.
-/

namespace DrinkMixer

open Pwm Controller Servos

namespace Order

variable (settings : ServoSettings) (order : Order)

/-- The actuators that an order moves. -/
def Moves : Actuator → Prop
  | .pour channel => order.amount channel ≠ 0
  | .mixer => order.mix = true

/-- Pouring an order moves the actuators of the order. -/
theorem commands_plan {request : Pwm.Request} (h : commanded request ∈ order.plan settings) :
    settings.Commands order.Moves request := by
  rw [plan, List.mem_append, List.mem_append, List.mem_append] at h
  rcases h with ((hstart | hpour) | hmix) | hfinish
  · rcases List.mem_cons.mp hstart with htold | hfrequency
    · cases htold
    · obtain rfl : request = .setFrequency settings.frequency :=
        Sum.inl.inj (List.mem_singleton.mp hfrequency)
      exact .frequency
  · obtain ⟨channel, _, hrun⟩ := List.mem_flatMap.mp hpour
    split_ifs at hrun with hamount
    · cases hrun
    · have hmoves : order.Moves (.pour channel) := hamount
      exact ServoSettings.commands_runPlan_pour hmoves hrun
  · split_ifs at hmix with hmixing
    · have hmoves : order.Moves .mixer := hmixing
      exact ServoSettings.commands_runPlan_mixer hmoves hmix
    · cases hmix
  · cases List.mem_singleton.mp hfinish

/-- An order is poured up to the first transaction that fails. -/
theorem failStop_pour {controller : Controller} {memory final : Unit} {above : List (Call Servos)}
    {below : List (Call ServoBus)} {result : Except Failure UInt32}
    (h : Program.Path (order.pour settings).run above result)
    (hcarries : controller.onServos.Carries memory above below final) :
    FailStop .pwm settings.Refusal below result :=
  (((order.follows_pour settings).pursued h).failStop hcarries).mono fun _ =>
    ServoSettings.refusal_of_refusedIn fun _ => order.commands_plan settings

end Order

section OnChip

variable {σ ε : Type}

/-- The chip carries out the commands, whatever its registers hold and whichever transactions fail.
An order, and arguments that are accepted, whether the chip is set up for them or not, have no
effect after the first transaction that fails, and its fault is reported. Where none fails they
return something, or are refused for the frequency or for the output of the mixer. -/
theorem servos_failStop (w : World ServoBus σ) (s : σ) (controller : Controller)
    (settings : ServoSettings) (wrap : Failure → ε) :
    (∀ order : Order,
      let run := ((order.pour settings).run.realize controller.onServos).run ()
      FailStop .pwm settings.Refusal (run.calls w s) (run.eval w s).1.1) ∧
    ∀ arguments request setUp, CycleRequest.ofArguments arguments = .ok request →
      let run := ((CycleRequest.serve wrap settings arguments).run.realize
        (controller.serving wrap setUp)).run ()
      FailStop (wrap ∘ .pwm) (fun failure => ∃ cause, settings.Refusal cause ∧ failure = wrap cause)
        (run.calls w s) (run.eval w s).1.1 := by
  constructor
  · intro order run
    obtain ⟨above, habove, hcarries⟩ := Program.path_realize_iff.mp (Program.path_calls w run s)
    exact order.failStop_pour settings habove hcarries
  · intro arguments request setUp hrequest run
    obtain ⟨above, habove, hcarries⟩ := Program.path_realize_iff.mp (Program.path_calls w run s)
    exact CycleRequest.failStop_serve hrequest habove hcarries

/-- The mixer is run on a chip that is set up first, and the first transaction of a pulse fails. -/
theorem serve_mixer_failStop :
    CycleRequest.ofArguments ["mix"] = .ok ⟨.mixer, 1⟩ ∧
    let w := below ⟨0x40⟩ fun n => if n = 13 then some .bus else none
    let run := ((CycleRequest.serve id {} ["mix"]).run.realize (serving ⟨0x40⟩ id true)).run ()
    (run.eval w {}).1.1 = .error (.pwm .writeFailed) ∧
    FailStop (id ∘ .pwm)
      (fun failure => ∃ cause, ServoSettings.Refusal {} cause ∧ failure = id cause)
      (run.calls w {}) (run.eval w {}).1.1 := by
  have haccepted : CycleRequest.ofArguments ["mix"] = .ok ⟨.mixer, 1⟩ := rfl
  refine ⟨haccepted, ?_⟩
  intro w run
  exact ⟨rfl, (servos_failStop w {} ⟨0x40⟩ {} id).2 ["mix"] ⟨.mixer, 1⟩ true haccepted⟩

end OnChip

end DrinkMixer
