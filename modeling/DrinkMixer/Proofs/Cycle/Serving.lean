import DrinkMixer.Proofs.Pwm.FailStop

/-!
# Serving a list of arguments

A controller is opened for arguments that are accepted, and then an actuator is run. Its commands
set the frequency and send that actuator to one of its extremes (`Commands`). The chip refuses such
commands only for a frequency or an output of the mixer that it does not have (`Refusal`).

Main statements: `serve_path`, the ways of the whole procedure, `follows_served`, what comes after
the opening follows a plan, and `failStop_serve`, on the chip all of it stops at the first
transaction that fails.
-/

namespace DrinkMixer

open Program Pwm Controller Servos

namespace ServoSettings

variable (settings : ServoSettings)

/-- The commands by which actuators of some kind are moved. -/
inductive Commands (Moves : Actuator → Prop) : Pwm.Request → Prop
  /-- The frequency is set. -/
  | frequency : Commands Moves (.setFrequency settings.frequency)
  /-- One of the pour servos is sent to its closed or its open extreme. -/
  | pour (channel : PourChannel) (h : Moves (.pour channel)) (ticks : UInt16)
      (hticks : ticks = settings.pulseMin ∨ ticks = settings.pulseMax) :
    Commands Moves (.setPulse (UInt8.ofNat channel.val) 0 ticks)
  /-- The mixer is sent to its closed or its open extreme. -/
  | mix (h : Moves .mixer) (ticks : UInt16)
      (hticks : ticks = settings.pulseMin ∨ ticks = settings.pulseMax) :
    Commands Moves (.setPulse settings.mixOutput 0 ticks)

/-- The chip refuses commands of the settings: it has no such frequency, or no such output for the
mixer. -/
inductive Refusal : Failure → Prop
  /-- The frequency is out of the chip's range. -/
  | frequency (h : prescale? settings.frequency = none) :
    Refusal (.pwm (.frequencyOutOfRange settings.frequency))
  /-- The output of the mixer is not one of the chip's. -/
  | mixer (h : ¬settings.mixOutput < channelCount) :
    Refusal (.pwm (.invalidChannel settings.mixOutput))

/-- The run of a request that was accepted, once the controller is open. -/
def served (request : CycleRequest) : ServoProcedure UInt32 := do
  settings.prepare
  settings.run request.actuator request.count

/-- The effects of the run of a request. -/
def servedPlan (request : CycleRequest) : List Servos.Op :=
  commanded (.setFrequency settings.frequency) ::
    match request.actuator with
    | .pour channel =>
      settings.runPlan (.pour channel) (UInt8.ofNat channel.val) request.count
    | .mixer => settings.runPlan .mixer settings.mixOutput 1

variable {settings} {Moves : Actuator → Prop} {request : Pwm.Request}

theorem Commands.refusal {request : Pwm.Request} {fault : PwmFault}
    (h : settings.Commands Moves request) (hrefused : refusal? request = some fault) :
    settings.Refusal (.pwm fault) := by
  cases h with
  | frequency =>
    rw [refusal?] at hrefused
    split at hrefused
    · next hprescale =>
      obtain rfl := Option.some.inj hrefused
      exact .frequency hprescale
    · cases hrefused
  | pour channel =>
    -- the chip has the outputs of all pour servos
    have houtput : UInt8.ofNat channel.val < channelCount := settings.output_pour_lt channel
    rw [refusal?, if_pos houtput] at hrefused
    cases hrefused
  | mix =>
    rw [refusal?] at hrefused
    split_ifs at hrefused with houtput
    obtain rfl := Option.some.inj hrefused
    exact .mixer houtput

/-- What is refused in a plan is refused for the settings. -/
theorem refusal_of_refusedIn {plan : List Servos.Op} {failure : Failure}
    (hplan : ∀ request, commanded request ∈ plan → settings.Commands Moves request)
    (h : RefusedIn plan failure) : settings.Refusal failure := by
  obtain ⟨request, fault, hmem, hrefused, rfl⟩ := h
  exact (hplan request hmem).refusal hrefused

/-- A run sends its output to one of the two extremes. -/
theorem setPulse_of_runPlan {actuator : Actuator} {output : UInt8} {count : UInt32}
    (h : commanded request ∈ settings.runPlan actuator output count) :
    ∃ ticks, (ticks = settings.pulseMin ∨ ticks = settings.pulseMax) ∧
      request = .setPulse output 0 ticks := by
  have hcycles : commanded request ∈ settings.cyclesPlan actuator output count.toNat := by
    rcases List.mem_cons.mp h with hstarted | hcycles
    · cases hstarted
    · exact hcycles
  obtain ⟨left, _, hcycle⟩ := List.mem_flatMap.mp hcycles
  rw [List.mem_append] at hcycle
  simp only [cyclePlan, List.mem_cons, List.not_mem_nil, or_false] at hcycle
  rcases hcycle with (hclosed | hwait | hopened | hwait) | htold
  · exact ⟨_, Or.inl rfl, Sum.inl.inj hclosed⟩
  · cases hwait
  · exact ⟨_, Or.inr rfl, Sum.inl.inj hopened⟩
  · cases hwait
  · cases htold

/-- A run of a pour servo moves it. -/
theorem commands_runPlan_pour {channel : PourChannel} {count : UInt32}
    (hmoves : Moves (.pour channel))
    (h : commanded request ∈
      settings.runPlan (.pour channel) (UInt8.ofNat channel.val) count) :
    settings.Commands Moves request := by
  obtain ⟨ticks, hticks, rfl⟩ := setPulse_of_runPlan h
  exact .pour channel hmoves ticks hticks

/-- A run of the mixer moves it. -/
theorem commands_runPlan_mixer {count : UInt32} (hmoves : Moves .mixer)
    (h : commanded request ∈ settings.runPlan .mixer settings.mixOutput count) :
    settings.Commands Moves request := by
  obtain ⟨ticks, hticks, rfl⟩ := setPulse_of_runPlan h
  exact .mix hmoves ticks hticks

theorem commands_servedPlan {asked : CycleRequest}
    (h : commanded request ∈ settings.servedPlan asked) :
    settings.Commands (· = asked.actuator) request := by
  rcases List.mem_cons.mp h with hfrequency | hrun
  · obtain rfl : request = .setFrequency settings.frequency := Sum.inl.inj hfrequency
    exact .frequency
  · cases hactuator : asked.actuator with
    | pour channel =>
      rw [hactuator] at hrun
      exact commands_runPlan_pour rfl hrun
    | mixer =>
      rw [hactuator] at hrun
      exact commands_runPlan_mixer rfl hrun

theorem follows_served (asked : CycleRequest) :
    Follows (settings.served asked) (settings.servedPlan asked)
      (total asked.actuator asked.count) := by
  obtain ⟨actuator, count⟩ := asked
  cases actuator with
  | pour channel => exact settings.follows_prepare.bind (settings.follows_run_pour channel count)
  | mixer => exact settings.follows_prepare.bind (settings.follows_run_mixer count)

end ServoSettings

/-! ### Calls of the whole procedure -/

namespace CycleRequest

variable {ε : Type}

/-- The controller was asked for. -/
def opened (settings : ServoSettings) (answer : Except ε Unit) : Call ((Opening ε).sum Servos) :=
  ⟨.inl (.openController settings), answer⟩

/-- A call of the run itself. -/
def onward (call : Call Servos) : Call ((Opening ε).sum Servos) :=
  ⟨.inr call.op, call.answer⟩

/-- The run itself is a part of the whole procedure. -/
theorem path_onward {α : Type} {p : Program Servos α} {calls : List (Call ((Opening ε).sum Servos))}
    {value : α} (h : Path (p.lift : Program ((Opening ε).sum Servos) α) calls value) :
    ∃ asked, Path p asked value ∧ calls = asked.map onward := by
  obtain ⟨asked, hasked, hoffered⟩ := h.of_lift
  refine ⟨asked, hasked, ?_⟩
  clear hasked h
  induction hoffered with
  | nil => rfl
  | cons head _ ih =>
    -- each kind of request is offered in its own place
    rcases head with ⟨_ | (_ | _), answer⟩ <;> exact congrArg (_ :: ·) ih

/-- The ways of the whole procedure: the arguments are refused, or the controller is opened, which
may fail, and the actuator is run. -/
theorem serve_path {wrap : Failure → ε} {settings : ServoSettings} {arguments : List String}
    {calls : List (Call ((Opening ε).sum Servos))} {result : Except ε UInt32}
    (h : Path (serve wrap settings arguments).run calls result) :
    (∃ failure, ofArguments arguments = .error failure ∧ calls = [] ∧
      result = .error (wrap failure)) ∨
    ∃ request, ofArguments arguments = .ok request ∧
      ((∃ failure, calls = [opened settings (.error failure)] ∧ result = .error failure) ∨
      ∃ asked outcome, Path (settings.served request).run asked outcome ∧
        calls = opened settings (.ok ()) :: asked.map onward ∧ result = outcome.mapError wrap) := by
  unfold serve at h
  -- the arguments are checked before anything is asked for
  cases harguments : ofArguments arguments with
  | error failure =>
    rw [harguments] at h
    obtain ⟨rfl, rfl⟩ := path_done_iff.mp h
    exact Or.inl ⟨failure, rfl, rfl, rfl⟩
  | ok request =>
    rw [harguments] at h
    obtain ⟨answer, rest, hrest, rfl⟩ := path_ask_iff.mp h
    refine Or.inr ⟨request, rfl, ?_⟩
    rcases answer with failure | ⟨⟩
    · obtain ⟨rfl, rfl⟩ := path_done_iff.mp hrest
      exact Or.inl ⟨failure, rfl, rfl⟩
    · refine Or.inr ?_
      -- behind the opening, preparing and running are one servo procedure
      have hserved : Path (attempt wrap (settings.prepare.run.lift) >>= fun _ =>
          attempt wrap ((settings.run request.actuator request.count).run.lift) :
            ExceptT ε (Program ((Opening ε).sum Servos)) UInt32).run rest result := hrest
      rw [attempt_lift_bind] at hserved
      obtain ⟨outcome, hlift, rfl⟩ := path_attempt_iff.mp hserved
      obtain ⟨asked, hasked, rfl⟩ := path_onward hlift
      exact ⟨asked, outcome, hasked, rfl, rfl⟩

/-- All commands of the whole procedure move the actuator of the request. -/
theorem commands_of_serve_path {wrap : Failure → ε} {settings : ServoSettings}
    {arguments : List String} {calls : List (Call ((Opening ε).sum Servos))}
    {result : Except ε UInt32} {request : Pwm.Request}
    (h : Path (serve wrap settings arguments).run calls result)
    (hmem : Sum.inr (commanded request) ∈ calls.map Call.op) :
    ∃ served, ofArguments arguments = .ok served ∧
      settings.Commands (· = served.actuator) request := by
  rcases serve_path h with ⟨_, _, rfl, _⟩ | ⟨served, hserved, hways⟩
  · cases hmem
  refine ⟨served, hserved, ?_⟩
  rcases hways with ⟨_, rfl, _⟩ | ⟨asked, _, hasked, rfl, _⟩
  · cases List.mem_singleton.mp hmem
  · rcases List.mem_cons.mp hmem with hopened | honward
    · cases hopened
    · rw [List.map_map] at honward
      obtain ⟨call, hcall, hop⟩ := List.mem_map.mp honward
      have hcommand : commanded request ∈ asked.map Call.op :=
        List.mem_map.mpr ⟨call, hcall, Sum.inr.inj hop⟩
      have hplan := ((settings.follows_served served).pursued hasked).commanded_mem hcommand
      exact ServoSettings.commands_servedPlan hplan

end CycleRequest

/-! ### On the chip -/

namespace Pwm.Controller

variable {ε : Type}

/-- The controller is opened, and its chip set up if that is wanted. -/
def opening (controller : Controller) (wrap : Failure → ε) (setUp : Bool) :
    Realization (Opening ε) ServoBus Unit :=
  Realization.lift <| .stateless (T := ControllerBus) fun
    | .openController _ =>
      if setUp then (attempt (wrap ∘ .pwm) controller.setUp.run).run else .done (.ok ())

/-- The arguments are served with the chip below. -/
def serving (controller : Controller) (wrap : Failure → ε) (setUp : Bool) :
    Realization ((Opening ε).sum Servos) ServoBus Unit :=
  (controller.opening wrap setUp).sum controller.onServos

variable {controller : Controller} {wrap : Failure → ε} {setUp : Bool} {memory final : Unit}

/-- Opening the controller stops at the first transaction that fails. -/
theorem failStop_opening {Refused : ε → Prop} {settings : ServoSettings} {answer : Except ε Unit}
    {below : List (Call ServoBus)}
    (h : Path ((controller.opening wrap setUp (.openController settings)).run memory) below
      (answer, final)) :
    FailStop (wrap ∘ .pwm) Refused below answer := by
  obtain ⟨hpath, _⟩ := path_lift_stateless_iff.mp h
  cases setUp with
  | false =>
    have hdone : Path (.done (.ok ())) below answer := hpath
    obtain ⟨rfl, rfl⟩ := path_done_iff.mp hdone
    exact .done (List.forall_mem_nil _)
  | true =>
    have hattempt : Path ((attempt (wrap ∘ .pwm) controller.setUp.run).run.lift :
        Program ServoBus _) below answer := hpath
    rw [lift_attempt] at hattempt
    obtain ⟨outcome, hsetUp, rfl⟩ := path_attempt_iff.mp hattempt
    have hstops : FailStop id (fun _ => False) below outcome := stops_setUp.failStop hsetUp
    have hwrapped : FailStop ((wrap ∘ .pwm) ∘ id) Refused below (outcome.mapError (wrap ∘ .pwm)) :=
      hstops.mapError fun _ reason => reason.elim
    exact hwrapped

/-- What is handed on to the chip is carried out there. -/
theorem carries_onward {asked : List (Call Servos)} {below : List (Call ServoBus)}
    (h : (controller.serving wrap setUp).Carries memory (asked.map CycleRequest.onward) below
      final) : controller.onServos.Carries memory asked below final := by
  induction asked generalizing memory below with
  | nil =>
    obtain ⟨rfl, rfl⟩ := Realization.carries_nil_iff.mp h
    exact .nil final
  | cons call asked ih =>
    obtain ⟨middle, first, rest, hfirst, hrest, rfl⟩ := Realization.carries_cons_iff.mp h
    exact .cons hfirst (ih hrest)

end Pwm.Controller

namespace CycleRequest

variable {ε : Type}

/-- Accepted arguments are served up to the first transaction that fails. -/
theorem failStop_serve {controller : Controller} {wrap : Failure → ε} {setUp : Bool}
    {settings : ServoSettings} {arguments : List String} {request : CycleRequest}
    {memory final : Unit} {above : List (Call ((Opening ε).sum Servos))}
    {below : List (Call ServoBus)} {result : Except ε UInt32}
    (hrequest : ofArguments arguments = .ok request)
    (h : Path (serve wrap settings arguments).run above result)
    (hcarries : (controller.serving wrap setUp).Carries memory above below final) :
    FailStop (wrap ∘ .pwm) (fun failure => ∃ cause, settings.Refusal cause ∧ failure = wrap cause)
      below result := by
  rcases serve_path h with ⟨_, hrefused, _⟩ | ⟨request', hrequest', hways⟩
  · cases hrequest.symm.trans hrefused
  obtain rfl : request = request' := Except.ok.inj (hrequest.symm.trans hrequest')
  -- it ends where the controller is opened, or where its procedure ends
  rcases hways with ⟨failure, rfl, rfl⟩ | ⟨asked, outcome, hasked, rfl, rfl⟩
  · obtain ⟨_, first, rest, hfirst, hrest, rfl⟩ := Realization.carries_cons_iff.mp hcarries
    obtain ⟨rfl, rfl⟩ := Realization.carries_nil_iff.mp hrest
    rw [List.append_nil]
    exact (failStop_opening hfirst).of_error fun _ reason => reason
  · obtain ⟨_, first, rest, hfirst, hrest, rfl⟩ := Realization.carries_cons_iff.mp hcarries
    have hopened : FailStop (wrap ∘ .pwm) (fun _ => False) first (.ok () : Except ε Unit) :=
      failStop_opening hfirst
    have hpursued := (settings.follows_served request).pursued hasked
    have hserved := hpursued.failStop (carries_onward hrest)
    refine (hserved.mapError fun cause reason => ⟨cause, ?_, rfl⟩).append_left hopened.unfailing
    exact ServoSettings.refusal_of_refusedIn (fun _ => ServoSettings.commands_servedPlan) reason

end CycleRequest

end DrinkMixer
