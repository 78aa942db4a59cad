import DrinkMixer.Cycle.Run
import DrinkMixer.Proofs.Program.Moments

/-!
# Plans of servo procedures

A plan lists the effects that a servo procedure is to have: commands, waits and events in order, but
no log records. A procedure follows its plan if, whatever the controller answers, it has all of
these effects or stops right after the first command that fails (`Pursued`).

Main statements: `Follows.bind`, procedures one after the other follow their plans one after the
other, and `follows_run_pour` and `follows_run_mixer`, the cycles of an actuator follow a plan that
counts down to zero.
-/

namespace DrinkMixer

namespace Servos

/-- A command to the controller. -/
def commanded (request : Pwm.Request) : Servos.Op :=
  .inl request

/-- Time is let pass. -/
def waited (ms : UInt32) : Servos.Op :=
  .inr (.inl (.wait ms))

/-- An event is told. -/
def told (event : Event) : Servos.Op :=
  .inr (.inr (.emit event))

/-- Whether a request only puts a record into the log. -/
def isNote : Servos.Op → Bool
  | .inr (.inl (.note _)) => true
  | _ => false

/-- The calls that have an effect on the outside. -/
def effects (calls : List (Call Servos)) : List (Call Servos) :=
  calls.filter fun call => !isNote call.op

/-- The fault of a command that failed. -/
def fault? : Call Servos → Option PwmFault
  | ⟨.inl _, .error fault⟩ => some fault
  | _ => none

@[simp] theorem effects_append (first second : List (Call Servos)) :
    effects (first ++ second) = effects first ++ effects second :=
  List.filter_append first second

end Servos

open Servos

/-! ### Following a plan -/

/-- The ways of a procedure that is to have the effects of a plan and to return a value. -/
inductive Pursued {α : Type} (plan : List Servos.Op) (value : α) (calls : List (Call Servos)) :
    Except Failure α → Prop
  /-- No command failed, and all of the plan was done. -/
  | whole (planned : (effects calls).map Call.op = plan)
      (unfailing : ∀ call ∈ effects calls, fault? call = none) :
    Pursued plan value calls (.ok value)
  /-- A command failed, and the plan was done up to and with this one. -/
  | cut {fault : PwmFault} (done : List (Call Servos)) (last : Call Servos)
      (planned : (effects calls).map Call.op <+: plan) (ends : effects calls = done ++ [last])
      (unfailing : ∀ call ∈ done, fault? call = none) (fails : fault? last = some fault) :
    Pursued plan value calls (.error (.pwm fault))

/-- Whatever is answered, a procedure does its plan up to the first command that fails, and returns
the given value if none does. -/
structure Follows {α : Type} (p : ServoProcedure α) (plan : List Servos.Op) (value : α) :
    Prop where
  /-- Every path is one of the ways. -/
  pursued : ∀ {calls result}, Program.Path p.run calls result → Pursued plan value calls result

section Follows

variable {α β : Type} {p : ServoProcedure α} {f : α → ServoProcedure β}
  {plan more : List Servos.Op} {x : α} {y : β}

/-- Nothing but the plan has an effect. -/
theorem Pursued.op_mem {calls : List (Call Servos)} {result : Except Failure α} {call : Call Servos}
    (h : Pursued plan x calls result) (hcall : call ∈ effects calls) : call.op ∈ plan := by
  have hop : call.op ∈ (effects calls).map Call.op := List.mem_map_of_mem hcall
  cases h with
  | whole planned _ => exact planned ▸ hop
  | cut _ _ planned _ _ _ => exact planned.subset hop

theorem Pursued.commanded_mem {calls : List (Call Servos)} {result : Except Failure α}
    {request : Pwm.Request} (h : Pursued plan x calls result)
    (hmem : commanded request ∈ calls.map Call.op) : commanded request ∈ plan := by
  obtain ⟨call, hcall, hop⟩ := List.mem_map.mp hmem
  rw [← hop]
  refine h.op_mem (List.mem_filter.mpr ⟨hcall, ?_⟩)
  rw [hop]
  rfl

/-- What follows a part of a plan that was done wholly. -/
theorem Pursued.append {first second : List (Call Servos)} {result : Except Failure β}
    (hfirst : Pursued plan x first (.ok x)) (hsecond : Pursued more y second result) :
    Pursued (plan ++ more) y (first ++ second) result := by
  cases hfirst with
  | whole hplan hnone =>
    cases hsecond with
    | whole hmore hnone' =>
      refine .whole ?_ ?_
      · rw [effects_append, List.map_append, hplan, hmore]
      · rw [effects_append, List.forall_mem_append]
        exact ⟨hnone, hnone'⟩
    | cut done last hmore hends hdone hlast =>
      refine .cut (effects first ++ done) last ?_ ?_ ?_ hlast
      · rw [effects_append, List.map_append, hplan, List.prefix_append_right_inj]
        exact hmore
      · rw [effects_append, hends, List.append_assoc]
      · rw [List.forall_mem_append]
        exact ⟨hnone, hdone⟩

/-- A single request that is no log record and does not fail. -/
theorem pursued_single {op : Servos.Op} {answer : Servos.Answer op} {value : α}
    (hnote : isNote op = false) (hfault : fault? ⟨op, answer⟩ = none) :
    Pursued [op] value [⟨op, answer⟩] (.ok value) := by
  have heffects : effects [⟨op, answer⟩] = [⟨op, answer⟩] := by simp [effects, hnote]
  refine .whole (by rw [heffects, List.map_singleton]) ?_
  rw [heffects, List.forall_mem_singleton]
  exact hfault

theorem follows_pure (x : α) : Follows (pure x) [] x := by
  refine ⟨fun {calls result} h => ?_⟩
  have hdone : Program.Path (.done (.ok x)) calls result := h
  obtain ⟨rfl, rfl⟩ := Program.path_done_iff.mp hdone
  exact .whole rfl (List.forall_mem_nil _)

/-- Procedures one after the other follow their plans one after the other. -/
theorem Follows.bind (hp : Follows p plan x) (hf : Follows (f x) more y) :
    Follows (p >>= f) (plan ++ more) y := by
  refine ⟨fun h => ?_⟩
  rcases Program.path_run_bind_iff.mp h with ⟨failure, hfirst, rfl⟩ |
    ⟨value, first, second, hfirst, hsecond, rfl⟩
  · -- the first procedure failed, which cuts the whole plan where it cuts the first one
    cases hp.pursued hfirst with
    | cut done last hplan hends hdone hlast =>
      exact .cut done last (hplan.trans (List.prefix_append plan more)) hends hdone hlast
  · have hpursued := hp.pursued hfirst
    have hvalue : value = x := by
      cases hpursued
      rfl
    subst hvalue
    exact hpursued.append (hf.pursued hsecond)

end Follows

/-! ### Controllers that never fail -/

/-- The controller carries out every command. -/
def World.Unfailing {σ : Type} (w : World Servos σ) : Prop :=
  ∀ request s, (w.answer (commanded request) s).1 = .ok ()

theorem World.Unfailing.fault?_eq_none {σ : Type} {w : World Servos σ} (hw : w.Unfailing)
    (op : Servos.Op) (s : σ) : fault? ⟨op, (w.answer op s).1⟩ = none := by
  rcases op with request | other
  · have hanswer : (w.answer (.inl request) s).1 = .ok () := hw request s
    rw [hanswer]
    rfl
  · rfl

/-- On a controller that never fails, a procedure carries out all of its plan and returns its
value. -/
theorem Follows.whole_of_unfailing {σ α : Type} {w : World Servos σ} {p : ServoProcedure α}
    {plan : List Servos.Op} {x : α} (h : Follows p plan x) (hw : w.Unfailing) (s : σ) :
    (effects (p.run.calls w s)).map Call.op = plan ∧ (p.run.eval w s).1 = .ok x := by
  have hpursued := h.pursued (Program.path_calls w p.run s)
  generalize (p.run.eval w s).1 = result at hpursued ⊢
  cases hpursued with
  | whole planned _ => exact ⟨planned, rfl⟩
  | cut done last _ ends _ fails =>
    have hlast : last ∈ effects (p.run.calls w s) := by simp [ends]
    obtain ⟨s', hanswer⟩ := Program.exists_answer_of_mem_calls (List.mem_of_mem_filter hlast)
    have hnone := hw.fault?_eq_none last.op s'
    rw [← hanswer, fails] at hnone
    cases hnone

/-- Hardware that carries out every command and remembers nothing. -/
def obliging : World Servos Unit where
  answer
    | .inl _, s => (.ok (), s)
    | .inr (.inl _), s => ((), s)
    | .inr (.inr _), s => ((), s)

theorem obliging_unfailing : obliging.Unfailing :=
  fun _ _ => rfl

/-- Hardware that carries out so many more commands, and fails from then on. -/
def tiring : World Servos Nat where
  answer
    | .inl _, 0 => (.error .writeFailed, 0)
    | .inl _, left + 1 => (.ok (), left)
    | .inr (.inl _), left => ((), left)
    | .inr (.inr _), left => ((), left)

/-! ### Single steps -/

theorem follows_wait (ms : UInt32) : Follows (ServoProcedure.wait ms) [waited ms] () := by
  refine ⟨fun h => ?_⟩
  rcases Program.path_always_request_iff.mp h with ⟨answer, rfl, rfl⟩
  exact pursued_single rfl rfl

theorem follows_emit (event : Event) : Follows (ServoProcedure.emit event) [told event] () := by
  refine ⟨fun h => ?_⟩
  rcases Program.path_always_request_iff.mp h with ⟨answer, rfl, rfl⟩
  exact pursued_single rfl rfl

/-- A log record is no part of a plan. -/
theorem follows_note (level : LogLevel) (text : String) :
    Follows (ServoProcedure.note level text) [] () := by
  refine ⟨fun h => ?_⟩
  rcases Program.path_always_request_iff.mp h with ⟨answer, rfl, rfl⟩
  exact .whole rfl (List.forall_mem_nil _)

/-- A command is the only step at which a plan can be cut. -/
theorem follows_command (request : Pwm.Request) :
    Follows (ServoProcedure.command request) [commanded request] () := by
  refine ⟨fun {calls result} h => ?_⟩
  have hask : Program.Path (.ask (S := Servos) (.inl request) fun answer =>
      .done (Except.mapError Failure.pwm answer)) calls result := h
  rcases Program.path_ask_iff.mp hask with ⟨answer, rest, hrest, rfl⟩
  obtain ⟨rfl, rfl⟩ := Program.path_done_iff.mp hrest
  rcases answer with fault | ⟨⟩
  · exact .cut [] _ (List.prefix_refl _) rfl (List.forall_mem_nil _) rfl
  · exact pursued_single rfl rfl

/-! ### Cycles -/

namespace ServoSettings

/-- The effects of one cycle of a controller output. -/
def cyclePlan (settings : ServoSettings) (output : UInt8) : List Servos.Op :=
  [commanded (.setPulse output 0 settings.pulseMin), waited settings.holdMinMs,
    commanded (.setPulse output 0 settings.pulseMax), waited settings.holdMaxMs]

/-- The effects of so many cycles of an actuator on an output, each of which tells how many are
left. -/
def cyclesPlan (settings : ServoSettings) (actuator : Actuator) (output : UInt8) (count : Nat) :
    List Servos.Op :=
  (List.range count).reverse.flatMap fun left =>
    settings.cyclePlan output ++ [told (.cycleCompleted actuator (UInt32.ofNat left))]

/-- The effects of a run of an actuator on an output. -/
def runPlan (settings : ServoSettings) (actuator : Actuator) (output : UInt8) (count : UInt32) :
    List Servos.Op :=
  told (.cycleStarted actuator count) :: settings.cyclesPlan actuator output count.toNat

variable (settings : ServoSettings)

theorem cyclesPlan_succ (actuator : Actuator) (output : UInt8) (count : Nat) :
    settings.cyclesPlan actuator output (count + 1) =
      settings.cyclePlan output ++
        (told (.cycleCompleted actuator (UInt32.ofNat count)) ::
          settings.cyclesPlan actuator output count) := by
  rw [cyclesPlan, List.range_succ, List.reverse_append, List.reverse_singleton,
    List.singleton_append, List.flatMap_cons, List.append_assoc, List.singleton_append, cyclesPlan]

/-- Preparing the controller is one command. -/
theorem follows_prepare :
    Follows settings.prepare [commanded (.setFrequency settings.frequency)] () :=
  (follows_command _).bind (follows_note _ _)

theorem follows_cycle (output : UInt8) :
    Follows (settings.cycle output) (settings.cyclePlan output) () := by
  refine (follows_note _ _).bind ((follows_command _).bind ((follows_wait _).bind ?_))
  exact (follows_note _ _).bind ((follows_command _).bind (follows_wait _))

/-- The cycles that are left of a run, with the number of those still left told after each. -/
theorem follows_countdown (actuator : Actuator) (remaining : Nat) :
    Follows (settings.countdown actuator remaining)
      (settings.cyclesPlan actuator (settings.output actuator) remaining) () := by
  induction remaining with
  | zero => exact follows_pure ()
  | succ remaining ih =>
    rw [countdown, cyclesPlan_succ]
    exact (settings.follows_cycle _).bind ((follows_emit _).bind ih)

/-- A run follows its plan: it is told how many cycles there will be, and they are made. -/
theorem follows_run (actuator : Actuator) (count : UInt32) :
    Follows (settings.run actuator count)
      (settings.runPlan actuator (settings.output actuator) (total actuator count))
      (total actuator count) := by
  have hplan : settings.runPlan actuator (settings.output actuator) (total actuator count) =
      [told (.cycleStarted actuator (total actuator count))] ++
        (settings.cyclesPlan actuator (settings.output actuator) (total actuator count).toNat ++
          ([] ++ [])) := by
    rw [List.append_nil, List.append_nil]
    rfl
  rw [run, hplan]
  refine (follows_emit _).bind ((settings.follows_countdown _ _).bind ?_)
  exact (follows_note _ _).bind (follows_pure _)

/-- A pour servo runs on the output of its own number, as often as is asked for. -/
theorem follows_run_pour (channel : PourChannel) (count : UInt32) :
    Follows (settings.run (.pour channel) count)
      (settings.runPlan (.pour channel) (UInt8.ofNat channel.val) count) count :=
  settings.follows_run (.pour channel) count

/-- The mixer runs once on the output that the settings name, whatever is asked for. -/
theorem follows_run_mixer (count : UInt32) :
    Follows (settings.run .mixer count) (settings.runPlan .mixer settings.mixOutput 1) 1 :=
  settings.follows_run .mixer count

end ServoSettings

end DrinkMixer
