import DrinkMixer.Proofs.Cycle.Plan

/-!
# Completed cycles

Every cycle of a run sets two pulses, and its completion is told only after both of them. So where a
command fails there is a completion for each pair of pulses before it, and the numbers of cycles
left that were told go down from the first one without a gap.

Main statements: `countdown_cycles`, the ways of the cycles that are left of a run, and
`run_countsDown`, what a run does and which completions it tells.
-/

namespace DrinkMixer

open Servos

/-! ### Counting in calls -/

/-- The completion of a cycle that a call tells: the actuator, and how many cycles are left. -/
def Servos.completion? : Call Servos → Option (Actuator × UInt32)
  | ⟨.inr (.inr (.emit (.cycleCompleted actuator remaining))), _⟩ => some (actuator, remaining)
  | _ => none

/-- The completions that are told, in order. -/
def Servos.completions (calls : List (Call Servos)) : List (Actuator × UInt32) :=
  calls.filterMap completion?

/-- Whether a call is a command to the controller. -/
def Servos.isCommand : Call Servos → Bool
  | ⟨.inl _, _⟩ => true
  | _ => false

/-- The pulse of so many ticks was set on an output. -/
def Servos.isSet (output : UInt8) (ticks : UInt16) : Call Servos → Bool
  | ⟨.inl (.setPulse channel on off), .ok ()⟩ => channel == output && on == 0 && off == ticks
  | _ => false

/-- How often, among some commands, the first of two pulses was set on an output and right after it
the second. -/
def Servos.pairs (output : UInt8) (first second : UInt16) : List (Call Servos) → Nat
  | command :: next :: rest =>
    if isSet output first command && isSet output second next then
      pairs output first second rest + 1
    else pairs output first second (next :: rest)
  | _ => 0

/-- Log records tell no completion. -/
theorem Servos.completions_effects (calls : List (Call Servos)) :
    completions (effects calls) = completions calls := by
  rw [completions, effects, List.filterMap_filter]
  refine List.filterMap_congr fun call _ => ?_
  rcases call with ⟨request | request | request, answer⟩ <;> cases request <;> rfl

theorem Servos.filter_isCommand_effects (calls : List (Call Servos)) :
    (effects calls).filter isCommand = calls.filter isCommand := by
  rw [effects, List.filter_filter]
  refine List.filter_congr fun call _ => ?_
  rcases call with ⟨request | request | request, answer⟩ <;> cases request <;> rfl

namespace ServoSettings

variable (settings : ServoSettings)

/-- How many cycles of a controller output had both of their pulses set. -/
def setCycles (output : UInt8) (calls : List (Call Servos)) : Nat :=
  pairs output settings.pulseMin settings.pulseMax (calls.filter isCommand)

theorem setCycles_effects (output : UInt8) (calls : List (Call Servos)) :
    settings.setCycles output (effects calls) = settings.setCycles output calls := by
  rw [setCycles, filter_isCommand_effects, setCycles]

/-! ### The ways of a run -/

/-- The effects of the cycles that are left of a run: all cycles were made, or a pulse of one of
them failed. -/
inductive Cycles (actuator : Actuator) : Nat → List (Call Servos) → Prop
  | finished : Cycles actuator 0 []
  /-- A cycle was made, and others follow. -/
  | cycle {left : Nat} {rest : List (Call Servos)} (more : Cycles actuator left rest) :
    Cycles actuator (left + 1)
      (⟨commanded (.setPulse (settings.output actuator) 0 settings.pulseMin), .ok ()⟩ ::
        ⟨waited settings.holdMinMs, ()⟩ ::
        ⟨commanded (.setPulse (settings.output actuator) 0 settings.pulseMax), .ok ()⟩ ::
        ⟨waited settings.holdMaxMs, ()⟩ ::
        ⟨told (.cycleCompleted actuator (UInt32.ofNat left)), ()⟩ :: rest)
  /-- The first pulse of a cycle failed. -/
  | unclosed {left : Nat} (fault : PwmFault) :
    Cycles actuator (left + 1)
      [⟨commanded (.setPulse (settings.output actuator) 0 settings.pulseMin), .error fault⟩]
  /-- The second pulse of a cycle failed. -/
  | unopened {left : Nat} (fault : PwmFault) :
    Cycles actuator (left + 1)
      [⟨commanded (.setPulse (settings.output actuator) 0 settings.pulseMin), .ok ()⟩,
        ⟨waited settings.holdMinMs, ()⟩,
        ⟨commanded (.setPulse (settings.output actuator) 0 settings.pulseMax), .error fault⟩]

end ServoSettings

/-! ### Steps -/

section Steps

variable {α : Type} {f : Unit → ServoProcedure α} {calls : List (Call Servos)}
  {result : Except Failure α}

/-- A command fails, or the rest comes after it. -/
theorem path_command_bind_iff {request : Pwm.Request} :
    Program.Path (ServoProcedure.command request >>= f).run calls result ↔
      (∃ fault, calls = [⟨commanded request, .error fault⟩] ∧ result = .error (.pwm fault)) ∨
      ∃ rest, Program.Path (f ()).run rest result ∧
        calls = ⟨commanded request, .ok ()⟩ :: rest := by
  show Program.Path (.ask (commanded request) fun answer =>
    ((.done (Except.mapError Failure.pwm answer) : Program Servos (Except Failure Unit)) >>=
      ExceptT.bindCont f)) calls result ↔ _
  rw [Program.path_ask_iff]
  constructor
  · rintro ⟨fault | ⟨⟩, rest, hrest, rfl⟩
    · have hdone : Program.Path (.done (.error (.pwm fault))) rest result := hrest
      obtain ⟨rfl, rfl⟩ := Program.path_done_iff.mp hdone
      exact Or.inl ⟨fault, rfl, rfl⟩
    · exact Or.inr ⟨rest, hrest, rfl⟩
  · rintro (⟨fault, rfl, rfl⟩ | ⟨rest, hrest, rfl⟩)
    · exact ⟨.error fault, [], .done _, rfl⟩
    · exact ⟨.ok (), rest, hrest, rfl⟩

/-- What cannot fail is asked, and the rest comes after it. -/
theorem path_always_bind_iff {S : Signature} [Offers Servos S] {op : S.Op}
    {f : S.Answer op → ServoProcedure α} :
    Program.Path (Program.always (Program.request op) >>= f).run calls result ↔
      ∃ answer rest, Program.Path (f (Offers.back op answer)).run rest result ∧
        calls = ⟨Offers.inject op, answer⟩ :: rest := by
  show Program.Path (.ask (Offers.inject op) fun answer => (f (Offers.back op answer)).run) calls
    result ↔ _
  exact Program.path_ask_iff

end Steps

/-! ### Cycles -/

namespace ServoSettings

variable {settings : ServoSettings} {actuator : Actuator} {output : UInt8}
  {calls : List (Call Servos)}

/-- A cycle sets both of its pulses and holds each, unless one of them fails. -/
theorem cycle_path {result : Except Failure Unit}
    (h : Program.Path (settings.cycle output).run calls result) :
    (result = .ok () ∧ effects calls =
      [⟨commanded (.setPulse output 0 settings.pulseMin), .ok ()⟩,
        ⟨waited settings.holdMinMs, ()⟩,
        ⟨commanded (.setPulse output 0 settings.pulseMax), .ok ()⟩,
        ⟨waited settings.holdMaxMs, ()⟩]) ∨
    ∃ fault, result = .error (.pwm fault) ∧
      (effects calls = [⟨commanded (.setPulse output 0 settings.pulseMin), .error fault⟩] ∨
      effects calls =
        [⟨commanded (.setPulse output 0 settings.pulseMin), .ok ()⟩,
          ⟨waited settings.holdMinMs, ()⟩,
          ⟨commanded (.setPulse output 0 settings.pulseMax), .error fault⟩]) := by
  obtain ⟨_, _, hclosing, rfl⟩ := path_always_bind_iff.mp h
  rcases path_command_bind_iff.mp hclosing with ⟨fault, rfl, rfl⟩ | ⟨_, hclosed, rfl⟩
  · exact Or.inr ⟨fault, rfl, Or.inl rfl⟩
  obtain ⟨_, _, hheld, rfl⟩ := path_always_bind_iff.mp hclosed
  obtain ⟨_, _, hopening, rfl⟩ := path_always_bind_iff.mp hheld
  rcases path_command_bind_iff.mp hopening with ⟨fault, rfl, rfl⟩ | ⟨_, hopened, rfl⟩
  · exact Or.inr ⟨fault, rfl, Or.inr rfl⟩
  · obtain ⟨_, rfl, rfl⟩ := Program.path_always_request_iff.mp hopened
    exact Or.inl ⟨rfl, rfl⟩

/-- The cycles that are left of a run are made one after the other, up to the first pulse that
fails. -/
theorem countdown_cycles {left : Nat} {result : Except Failure Unit}
    (h : Program.Path (settings.countdown actuator left).run calls result) :
    settings.Cycles actuator left (effects calls) := by
  induction left generalizing calls result with
  | zero =>
    have hdone : Program.Path (.done (.ok ())) calls result := h
    obtain ⟨rfl, rfl⟩ := Program.path_done_iff.mp hdone
    exact .finished
  | succ left ih =>
    rw [countdown, Program.path_run_bind_iff] at h
    rcases h with ⟨failure, hcycle, rfl⟩ | ⟨_, first, second, hcycle, hrest, rfl⟩
    · rcases cycle_path hcycle with ⟨hresult, _⟩ | ⟨fault, _, heffects | heffects⟩
      · cases hresult
      · rw [heffects]
        exact .unclosed fault
      · rw [heffects]
        exact .unopened fault
    · rcases cycle_path hcycle with ⟨_, heffects⟩ | ⟨_, hresult, _⟩
      · obtain ⟨_, rest, hmore, rfl⟩ := path_always_bind_iff.mp hrest
        rw [effects_append, heffects]
        exact .cycle (ih hmore)
      · cases hresult

/-- Each cycle of which both pulses were set is told, and the numbers of cycles left go down without
a gap. -/
theorem Cycles.completions_eq {left : Nat} (h : settings.Cycles actuator left calls) :
    settings.setCycles (settings.output actuator) calls ≤ left ∧
      completions calls =
        ((List.range left).reverse.take
          (settings.setCycles (settings.output actuator) calls)).map fun left =>
            (actuator, UInt32.ofNat left) := by
  have hset : ∀ ticks, isSet (settings.output actuator) ticks
      ⟨commanded (.setPulse (settings.output actuator) 0 ticks), .ok ()⟩ = true := by
    intro ticks
    simp [isSet, commanded]
  -- on the cycles: each whole one gives one pair of pulses and one completion
  induction h with
  | finished => exact ⟨Nat.le_refl 0, rfl⟩
  | @cycle left rest more ih =>
    obtain ⟨hle, heq⟩ := ih
    have hpairs : settings.setCycles (settings.output actuator)
        (⟨commanded (.setPulse (settings.output actuator) 0 settings.pulseMin), .ok ()⟩ ::
          ⟨waited settings.holdMinMs, ()⟩ ::
          ⟨commanded (.setPulse (settings.output actuator) 0 settings.pulseMax), .ok ()⟩ ::
          ⟨waited settings.holdMaxMs, ()⟩ ::
          ⟨told (.cycleCompleted actuator (UInt32.ofNat left)), ()⟩ :: rest) =
        settings.setCycles (settings.output actuator) rest + 1 := by
      show pairs _ _ _ (_ :: _ :: rest.filter isCommand) = _
      rw [pairs, hset, hset]
      rfl
    rw [hpairs]
    refine ⟨Nat.succ_le_succ hle, ?_⟩
    rw [List.range_succ, List.reverse_append, List.reverse_singleton, List.singleton_append,
      List.take_succ_cons, List.map_cons, ← heq]
    rfl
  | unclosed fault => exact ⟨Nat.zero_le _, rfl⟩
  | unopened fault =>
    have hpairs : settings.setCycles (settings.output actuator)
        [⟨commanded (.setPulse (settings.output actuator) 0 settings.pulseMin), .ok ()⟩,
          ⟨waited settings.holdMinMs, ()⟩,
          ⟨commanded (.setPulse (settings.output actuator) 0 settings.pulseMax), .error fault⟩] =
        0 := by
      show pairs _ _ _ [_, _] = 0
      rw [pairs, hset]
      rfl
    rw [hpairs]
    exact ⟨Nat.zero_le _, rfl⟩

/-! ### Runs -/

/-- The effects of a run are that it starts, and its cycles. -/
theorem run_cycles {count : UInt32} {result : Except Failure UInt32}
    (h : Program.Path (settings.run actuator count).run calls result) :
    ∃ rest, effects calls = ⟨told (.cycleStarted actuator (total actuator count)), ()⟩ :: rest ∧
      settings.Cycles actuator (total actuator count).toNat rest := by
  obtain ⟨_, _, hstarted, rfl⟩ := path_always_bind_iff.mp h
  rcases Program.path_run_bind_iff.mp hstarted with ⟨_, hcycles, _⟩ |
    ⟨_, first, second, hcycles, hend, rfl⟩
  · exact ⟨_, rfl, countdown_cycles hcycles⟩
  · -- what follows the cycles is a log record, which is no effect
    obtain ⟨answer, _, hnoted, rfl⟩ := path_always_bind_iff.mp hend
    have hdone : Program.Path (.done (.ok (total actuator count))) _ result := hnoted
    obtain ⟨rfl, rfl⟩ := Program.path_done_iff.mp hdone
    refine ⟨effects first, ?_, countdown_cycles hcycles⟩
    rw [← List.cons_append, effects_append]
    exact List.append_nil _

section Runs

variable {σ : Type} (settings : ServoSettings) (actuator : Actuator) (count : UInt32)
  (w : World Servos σ) (s : σ)

/-- The completions of a run are those of the cycles of which both pulses were set. -/
theorem completions_run :
    let calls := (settings.run actuator count).run.calls w s
    let made := settings.setCycles (settings.output actuator) calls
    completions calls =
        ((List.range (total actuator count).toNat).reverse.take made).map (fun left =>
          (actuator, UInt32.ofNat left)) ∧
      (completions calls).length = made := by
  intro calls made
  have hpath := Program.path_calls w (settings.run actuator count).run s
  obtain ⟨rest, heffects, hcycles⟩ := run_cycles hpath
  obtain ⟨hle, hrest⟩ := hcycles.completions_eq
  have hmade : made = settings.setCycles (settings.output actuator) rest := by
    show settings.setCycles _ calls = _
    rw [← setCycles_effects, heffects]
    rfl
  have hcompletions : completions calls = completions rest := by
    rw [← completions_effects, heffects]
    rfl
  have heq := hcompletions.trans hrest
  rw [← hmade] at hle heq
  refine ⟨heq, ?_⟩
  rw [heq, List.length_map, List.length_take, List.length_reverse, List.length_range]
  omega

/-- Whatever the controller answers, a run makes its cycles up to the first pulse that fails: on the
output of its own number as many as are asked for if it is a pour servo, and one on the output that
the settings name if it is the mixer. It tells a completion for each cycle of which both pulses were
set, and the numbers of cycles left follow each other down from the first one. -/
theorem run_countsDown :
    let output := match actuator with
      | .pour channel => UInt8.ofNat channel.val
      | .mixer => settings.mixOutput
    let asked := match actuator with
      | .pour _ => count
      | .mixer => 1
    let calls := (settings.run actuator count).run.calls w s
    let made := settings.setCycles output calls
    Pursued (settings.runPlan actuator output asked) asked calls
        ((settings.run actuator count).run.eval w s).1 ∧
      completions calls =
        ((List.range asked.toNat).reverse.take made).map (fun left =>
          (actuator, UInt32.ofNat left)) ∧
      (completions calls).length = made := by
  have hpath := Program.path_calls w (settings.run actuator count).run s
  cases actuator with
  | pour channel =>
    exact ⟨(settings.follows_run_pour channel count).pursued hpath,
      settings.completions_run (.pour channel) count w s⟩
  | mixer =>
    exact ⟨(settings.follows_run_mixer count).pursued hpath,
      settings.completions_run .mixer count w s⟩

/-- A pour servo that is to move three times fails in its second cycle, and the mixer runs once. -/
theorem run_countsDown_pour_mixer :
    let pouring := (run {} (.pour 3) 3).run
    let mixing := (run {} .mixer 5).run
    (Pursued (runPlan {} (.pour 3) 3 3) (3 : UInt32) (pouring.calls tiring 3)
        (.error (.pwm .writeFailed)) ∧
      completions (pouring.calls tiring 3) = [(.pour 3, 2)]) ∧
    runPlan {} .mixer 6 1 =
      [told (.cycleStarted .mixer 1), commanded (.setPulse 6 0 150), waited 1000,
        commanded (.setPulse 6 0 600), waited 2000, told (.cycleCompleted .mixer 0)] ∧
    Pursued (runPlan {} .mixer 6 1) (1 : UInt32) (mixing.calls tiring 2) (.ok 1) ∧
    completions (mixing.calls tiring 2) = [(.mixer, 0)] := by
  have hpour := run_countsDown {} (.pour 3) 3 tiring 3
  have hmixer := run_countsDown {} .mixer 5 tiring 2
  exact ⟨⟨hpour.1, hpour.2.1⟩, rfl, hmixer.1, hmixer.2.1⟩

end Runs

end ServoSettings

end DrinkMixer
