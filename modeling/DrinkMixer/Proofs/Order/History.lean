import DrinkMixer.Order.Pour
import DrinkMixer.Proofs.Cycle.Completions

/-!
# What happens to the hardware

Commands and waits are what the hardware sees of a run, and a cycle of an output is whole if both of
its pulses were set and held. Each actuator is running from its start to the next one (`during`), so
that whole cycles can be told apart even where two actuators share an output.

Main statements: `History.wholeCycles_eq`, in what happens to the hardware there is a whole cycle
for each completion that is told, and `leads_run` and `exists_leads_pour`, what a run and an order
add to it.
-/

namespace DrinkMixer

/-- What the hardware sees: a command, which it answers, or a wait. -/
inductive Stimulus
  | command (request : Pwm.Request) (answer : Except PwmFault Unit)
  | wait (ms : UInt32)

namespace Stimulus

/-- The pulse of so many ticks was set on an output. -/
def sets (output : UInt8) (ticks : UInt16) : Stimulus → Bool
  | command (.setPulse channel on off) (.ok ()) => channel == output && on == 0 && off == ticks
  | _ => false

/-- So many milliseconds passed. -/
def holds (ms : UInt32) : Stimulus → Bool
  | wait passed => passed == ms
  | _ => false

end Stimulus

/-- What the hardware sees of a call. -/
def stimulus? {T : Signature} : Call (Pwm.sum (Board.sum T)) → Option Stimulus
  | ⟨.inl request, answer⟩ => some (.command request answer)
  | ⟨.inr (.inl (.wait ms)), _⟩ => some (.wait ms)
  | _ => none

/-- What the hardware sees of some calls. -/
def stimuli {T : Signature} (calls : List (Call (Pwm.sum (Board.sum T)))) : List Stimulus :=
  calls.filterMap stimulus?

namespace Servos

/-- The actuator whose run begins with a call. -/
def started? : Call Servos → Option Actuator
  | ⟨.inr (.inr (.emit (.cycleStarted actuator _))), _⟩ => some actuator
  | _ => none

/-- The calls that are made while one of some actuators is running; the one that runs is the last
one that was started. -/
def during (who : Option Actuator → Bool) :
    Option Actuator → List (Call Servos) → List (Call Servos)
  | _, [] => []
  | running, call :: rest =>
    if who ((started? call).or running) then
      call :: during who ((started? call).or running) rest
    else during who ((started? call).or running) rest

/-- Everything happens while some actuator is running or none. -/
theorem during_always (running : Option Actuator) (calls : List (Call Servos)) :
    during (fun _ => true) running calls = calls := by
  induction calls generalizing running with
  | nil => rfl
  | cons call rest ih => rw [during, if_pos rfl, ih]

section During

variable (who : Option Actuator → Bool) {running : Option Actuator} {call : Call Servos}

/-- What the hardware does not see is left out. -/
theorem stimuli_during_cons_of_none {rest : List (Call Servos)} (h : stimulus? call = none) :
    stimuli (during who running (call :: rest)) =
      stimuli (during who ((started? call).or running) rest) := by
  rw [during]
  split
  · exact List.filterMap_cons_none h
  · rfl

/-- Where no actuator is started, the same one keeps running. -/
theorem stimuli_during_cons_of_some {rest : List (Call Servos)} {stimulus : Stimulus}
    (h : stimulus? call = some stimulus) :
    stimuli (during who running (call :: rest)) =
      if who running then stimulus :: stimuli (during who running rest)
      else stimuli (during who running rest) := by
  have hstarted : started? call = none := by
    rcases call with ⟨request | request | request, answer⟩
    · rfl
    · rfl
    · cases h
  rw [during, hstarted, Option.none_or]
  split
  · exact List.filterMap_cons_some h
  · rfl

/-- The hardware does not see log records. -/
theorem stimuli_during_effects (calls : List (Call Servos)) :
    stimuli (during who running (effects calls)) = stimuli (during who running calls) := by
  -- an event is no log record, but the hardware does not see it either
  induction calls generalizing running with
  | nil => rfl
  | cons call rest ih =>
    rcases call with ⟨request | request | request, answer⟩
    · show stimuli (during who running (⟨.inl request, answer⟩ :: effects rest)) = _
      rw [stimuli_during_cons_of_some who rfl, stimuli_during_cons_of_some who rfl, ih]
    · cases request with
      | wait ms =>
        show stimuli (during who running (⟨waited ms, answer⟩ :: effects rest)) = _
        rw [stimuli_during_cons_of_some who rfl, stimuli_during_cons_of_some who rfl, ih]
      | note record =>
        show stimuli (during who running (effects rest)) = _
        rw [stimuli_during_cons_of_none who rfl, ih]
        rfl
    · cases request with
      | emit event =>
        show stimuli (during who running (⟨told event, answer⟩ :: effects rest)) = _
        rw [stimuli_during_cons_of_none who rfl, stimuli_during_cons_of_none who rfl, ih]
        rfl

end During

end Servos

open Servos

namespace ServoSettings

variable (settings : ServoSettings)

/-- How many whole cycles of an output there are, one after the other: both pulses were set, and
each was held. -/
def wholeCycles (output : UInt8) : List Stimulus → Nat
  | closed :: shut :: opened :: wide :: rest =>
    if closed.sets output settings.pulseMin && shut.holds settings.holdMinMs &&
        opened.sets output settings.pulseMax && wide.holds settings.holdMaxMs then
      wholeCycles output rest + 1
    else wholeCycles output (shut :: opened :: wide :: rest)
  | _ => 0

/-- How many completions are told of those of some actuators that are wired to an output. -/
def completed (who : Option Actuator → Bool) (output : UInt8) (calls : List (Call Servos)) : Nat :=
  (completions calls).countP fun completion =>
    who (some completion.1) && settings.output completion.1 == output

/-- A cycle begins with its first pulse. -/
theorem wholeCycles_cons_of_not {output : UInt8} {stimulus : Stimulus} {rest : List Stimulus}
    (h : stimulus.sets output settings.pulseMin = false) :
    settings.wholeCycles output (stimulus :: rest) = settings.wholeCycles output rest := by
  rcases rest with _ | ⟨shut, _ | ⟨opened, _ | ⟨wide, rest⟩⟩⟩
  · rfl
  · rfl
  · rfl
  · rw [wholeCycles, h]
    rfl

/-- A whole cycle counts for the output that it is made on. -/
theorem wholeCycles_cycle (own output : UInt8) (rest : List Stimulus) :
    settings.wholeCycles output
      (.command (.setPulse own 0 settings.pulseMin) (.ok ()) :: .wait settings.holdMinMs ::
        .command (.setPulse own 0 settings.pulseMax) (.ok ()) :: .wait settings.holdMaxMs ::
        rest) =
      settings.wholeCycles output rest + if own == output then 1 else 0 := by
  cases hown : own == output with
  | true => simp [wholeCycles, Stimulus.sets, Stimulus.holds, hown]
  | false =>
    have hother : ∀ ticks answer, Stimulus.sets output settings.pulseMin
        (.command (.setPulse own 0 ticks) answer) = false := by
      intro ticks answer
      rcases answer with fault | ⟨⟩
      · rfl
      · simp [Stimulus.sets, hown]
    -- none of the four is the first pulse of a cycle of this output
    rw [settings.wholeCycles_cons_of_not (hother _ _), settings.wholeCycles_cons_of_not rfl,
      settings.wholeCycles_cons_of_not (hother _ _), settings.wholeCycles_cons_of_not rfl]
    rfl

/-- What can happen in runs one after the other: after its start, the cycles of an actuator are made
and told, and nothing follows a pulse that failed. -/
inductive History : Option Actuator → List (Call Servos) → Prop
  | nil (running : Option Actuator) : History running []
  /-- The frequency is set. -/
  | tuned {running : Option Actuator} {rest : List (Call Servos)} (hz : UInt16)
    (answer : Except PwmFault Unit) (more : History running rest) :
    History running (⟨commanded (.setFrequency hz), answer⟩ :: rest)
  /-- An order begins. -/
  | pouring {running : Option Actuator} {rest : List (Call Servos)} (channels : UInt64) (mix : Bool)
    (more : History running rest) :
    History running (⟨told (.pourStarted channels mix), ()⟩ :: rest)
  /-- An order is finished. -/
  | poured {running : Option Actuator} {rest : List (Call Servos)} (more : History running rest) :
    History running (⟨told .pourFinished, ()⟩ :: rest)
  /-- An actuator begins to run. -/
  | started {running : Option Actuator} {actuator : Actuator} {rest : List (Call Servos)}
    (count : UInt32) (more : History (some actuator) rest) :
    History running (⟨told (.cycleStarted actuator count), ()⟩ :: rest)
  /-- The actuator that runs makes a cycle. -/
  | cycle {actuator : Actuator} {rest : List (Call Servos)} (left : UInt32)
    (more : History (some actuator) rest) :
    History (some actuator)
      (⟨commanded (.setPulse (settings.output actuator) 0 settings.pulseMin), .ok ()⟩ ::
        ⟨waited settings.holdMinMs, ()⟩ ::
        ⟨commanded (.setPulse (settings.output actuator) 0 settings.pulseMax), .ok ()⟩ ::
        ⟨waited settings.holdMaxMs, ()⟩ ::
        ⟨told (.cycleCompleted actuator left), ()⟩ :: rest)
  /-- The first pulse of a cycle fails. -/
  | unclosed {actuator : Actuator} (fault : PwmFault) :
    History (some actuator)
      [⟨commanded (.setPulse (settings.output actuator) 0 settings.pulseMin), .error fault⟩]
  /-- The second pulse of a cycle fails. -/
  | unopened {actuator : Actuator} (fault : PwmFault) :
    History (some actuator)
      [⟨commanded (.setPulse (settings.output actuator) 0 settings.pulseMin), .ok ()⟩,
        ⟨waited settings.holdMinMs, ()⟩,
        ⟨commanded (.setPulse (settings.output actuator) 0 settings.pulseMax), .error fault⟩]

variable {settings}

/-- There is a whole cycle for each completion that is told, among those of any actuators and on any
output. -/
theorem History.wholeCycles_eq {running : Option Actuator} {calls : List (Call Servos)}
    (h : settings.History running calls) (who : Option Actuator → Bool) (output : UInt8) :
    settings.wholeCycles output (stimuli (during who running calls)) =
      settings.completed who output calls := by
  induction h with
  | nil => rfl
  | @tuned running rest hz answer more ih =>
    rw [stimuli_during_cons_of_some who rfl]
    split
    · exact (settings.wholeCycles_cons_of_not rfl).trans ih
    · exact ih
  | pouring channels mix more ih =>
    rw [stimuli_during_cons_of_none who rfl]
    exact ih
  | poured more ih =>
    rw [stimuli_during_cons_of_none who rfl]
    exact ih
  | started count more ih =>
    rw [stimuli_during_cons_of_none who rfl]
    exact ih
  | @cycle actuator rest left more ih =>
    -- a completion and the four calls before it count once on either side, or not at all
    have hcompleted : settings.completed who output
        (⟨commanded (.setPulse (settings.output actuator) 0 settings.pulseMin), .ok ()⟩ ::
          ⟨waited settings.holdMinMs, ()⟩ ::
          ⟨commanded (.setPulse (settings.output actuator) 0 settings.pulseMax), .ok ()⟩ ::
          ⟨waited settings.holdMaxMs, ()⟩ ::
          ⟨told (.cycleCompleted actuator left), ()⟩ :: rest) =
        settings.completed who output rest +
          if who (some actuator) && settings.output actuator == output then 1 else 0 :=
      List.countP_cons
    rw [hcompleted, ← ih, stimuli_during_cons_of_some who rfl, stimuli_during_cons_of_some who rfl,
      stimuli_during_cons_of_some who rfl, stimuli_during_cons_of_some who rfl,
      stimuli_during_cons_of_none who rfl]
    show settings.wholeCycles output _ =
      settings.wholeCycles output (stimuli (during who (some actuator) rest)) + _
    cases hwho : who (some actuator) with
    | true => exact settings.wholeCycles_cycle _ _ _
    | false => rfl
  | unclosed fault =>
    -- a cycle that was cut is not whole, and no completion was told for it
    rw [stimuli_during_cons_of_some who rfl]
    split <;> rfl
  | unopened fault =>
    rw [stimuli_during_cons_of_some who rfl, stimuli_during_cons_of_some who rfl,
      stimuli_during_cons_of_some who rfl]
    split <;> rfl

/-! ### What procedures add -/

/-- Whatever may happen after a procedure may also happen after all that it does; where it fails,
nothing follows. -/
structure Leads {α : Type} (settings : ServoSettings) (before : Option Actuator)
    (p : ServoProcedure α) (after : Option Actuator) : Prop where
  whole : ∀ {calls value rest}, Program.Path p.run calls (.ok value) →
    settings.History after rest → settings.History before (effects calls ++ rest)
  cut : ∀ {calls failure}, Program.Path p.run calls (.error failure) →
    settings.History before (effects calls)

section Leads

variable {α β : Type} {p : ServoProcedure α} {f : α → ServoProcedure β}
  {before middle after : Option Actuator} {actuator : Actuator}

theorem leads_pure (running : Option Actuator) (value : α) :
    settings.Leads running (pure value) running where
  whole h more := by
    have hdone : Program.Path (.done (Except.ok value : Except Failure α)) _ _ := h
    obtain ⟨rfl, _⟩ := Program.path_done_iff.mp hdone
    exact more
  cut h := by
    have hdone : Program.Path (.done (Except.ok value : Except Failure α)) _ _ := h
    obtain ⟨_, hresult⟩ := Program.path_done_iff.mp hdone
    cases hresult

/-- One procedure after the other. -/
theorem Leads.bind (hp : settings.Leads before p middle)
    (hf : ∀ value, settings.Leads middle (f value) after) :
    settings.Leads before (p >>= f) after where
  whole h more := by
    rcases Program.path_run_bind_iff.mp h with ⟨_, _, hresult⟩ |
      ⟨value, first, second, hfirst, hsecond, rfl⟩
    · cases hresult
    · rw [effects_append, List.append_assoc]
      exact hp.whole hfirst ((hf value).whole hsecond more)
  cut h := by
    rcases Program.path_run_bind_iff.mp h with ⟨_, hfirst, _⟩ |
      ⟨value, first, second, hfirst, hsecond, rfl⟩
    · exact hp.cut hfirst
    · rw [effects_append]
      exact hp.whole hfirst ((hf value).cut hsecond)

theorem leads_note (running : Option Actuator) (level : LogLevel) (text : String) :
    settings.Leads running (ServoProcedure.note level text) running where
  whole h more := by
    obtain ⟨_, rfl, _⟩ := Program.path_always_request_iff.mp h
    exact more
  cut h := by
    obtain ⟨_, _, hresult⟩ := Program.path_always_request_iff.mp h
    cases hresult

/-- An event can be told where what follows it can go on. -/
theorem leads_emit {event : Event} (hevent : ∀ {rest}, settings.History after rest →
    settings.History before (⟨told event, ()⟩ :: rest)) :
    settings.Leads before (ServoProcedure.emit event) after where
  whole h more := by
    obtain ⟨_, rfl, _⟩ := Program.path_always_request_iff.mp h
    exact hevent more
  cut h := by
    obtain ⟨_, _, hresult⟩ := Program.path_always_request_iff.mp h
    cases hresult

theorem leads_prepare (running : Option Actuator) :
    settings.Leads running settings.prepare running := by
  refine Leads.bind ⟨fun h more => ?_, fun h => ?_⟩ fun _ => leads_note running _ _
  · obtain ⟨_, hrequest, _⟩ := Program.path_attempt_iff.mp h
    obtain ⟨answer, rfl, _⟩ := Program.path_request_iff.mp hrequest
    exact .tuned _ answer more
  · obtain ⟨_, hrequest, _⟩ := Program.path_attempt_iff.mp h
    obtain ⟨answer, rfl, _⟩ := Program.path_request_iff.mp hrequest
    exact .tuned _ answer (.nil running)

/-- A cycle is made and told. -/
theorem leads_cycle (left : UInt32) :
    settings.Leads (some actuator) (do
      settings.cycle (settings.output actuator)
      ServoProcedure.emit (.cycleCompleted actuator left)) (some actuator) where
  whole h more := by
    rcases Program.path_run_bind_iff.mp h with ⟨_, _, hresult⟩ |
      ⟨_, first, second, hfirst, hsecond, rfl⟩
    · cases hresult
    · obtain ⟨_, rfl, _⟩ := Program.path_always_request_iff.mp hsecond
      rcases cycle_path hfirst with ⟨_, heffects⟩ | ⟨_, hresult, _⟩
      · rw [effects_append, heffects]
        exact .cycle left more
      · cases hresult
  cut h := by
    rcases Program.path_run_bind_iff.mp h with ⟨failure, hfirst, _⟩ |
      ⟨_, first, second, _, hsecond, rfl⟩
    · rcases cycle_path hfirst with ⟨hresult, _⟩ | ⟨fault, _, heffects | heffects⟩
      · cases hresult
      · rw [heffects]
        exact .unclosed fault
      · rw [heffects]
        exact .unopened fault
    · obtain ⟨_, _, hresult⟩ := Program.path_always_request_iff.mp hsecond
      cases hresult

theorem leads_countdown (actuator : Actuator) (remaining : Nat) :
    settings.Leads (some actuator) (settings.countdown actuator remaining) (some actuator) := by
  induction remaining with
  | zero => exact leads_pure _ _
  | succ remaining ih =>
    have hsplit : settings.countdown actuator (remaining + 1) = (do
        settings.cycle (settings.output actuator)
        ServoProcedure.emit (.cycleCompleted actuator (UInt32.ofNat remaining))) >>=
          fun _ => settings.countdown actuator remaining := by
      rw [bind_assoc]
      rfl
    rw [hsplit]
    exact (leads_cycle _).bind fun _ => ih

/-- A run starts its actuator and makes cycles of it. -/
theorem leads_run (running : Option Actuator) (actuator : Actuator) (count : UInt32) :
    settings.Leads running (settings.run actuator count) (some actuator) := by
  refine (leads_emit fun more => .started _ more).bind fun _ => ?_
  refine (leads_countdown actuator _).bind fun _ => ?_
  exact (leads_note _ _ _).bind fun _ => leads_pure _ _

/-- All ways of a procedure are histories. -/
theorem Leads.history {calls : List (Call Servos)} {result : Except Failure α}
    (h : settings.Leads before p after) (hpath : Program.Path p.run calls result) :
    settings.History before (effects calls) := by
  cases result with
  | error failure => exact h.cut hpath
  | ok value =>
    have hwhole := h.whole hpath (.nil after)
    rwa [List.append_nil] at hwhole

/-- Whatever the controller answers, a completion is told for each whole cycle that a procedure
makes. -/
theorem Leads.wholeCycles_eq {calls : List (Call Servos)} {result : Except Failure α}
    (h : settings.Leads before p after) (hpath : Program.Path p.run calls result)
    (who : Option Actuator → Bool) (output : UInt8) :
    settings.wholeCycles output (stimuli (during who before calls)) =
      settings.completed who output calls := by
  rw [← stimuli_during_effects, (h.history hpath).wholeCycles_eq, completed, completed,
    completions_effects]

end Leads

end ServoSettings

namespace Order

variable (order : Order) (settings : ServoSettings)

/-- The pour servos run one after the other, and the last of them keeps running. -/
theorem leads_pourChannels (channels : List PourChannel) (cycles : UInt32)
    (running : Option Actuator) :
    settings.Leads running (order.pourChannels settings channels cycles)
      (channels.foldl (fun _ channel => some (.pour channel)) running) := by
  induction channels generalizing cycles running with
  | nil => exact ServoSettings.leads_pure _ _
  | cons channel rest ih => exact (ServoSettings.leads_run _ _ _).bind fun made => ih _ _

/-- The end is told when all runs are over. -/
theorem leads_finish (cycles : UInt32) (running : Option Actuator) :
    settings.Leads running (do
      ServoProcedure.note .info s!"pour order finished, {cycles} cycle(s)"
      ServoProcedure.emit .pourFinished
      pure cycles) running :=
  (ServoSettings.leads_note _ _ _).bind fun _ =>
    (ServoSettings.leads_emit .poured).bind fun _ => ServoSettings.leads_pure _ _

/-- Pouring an order runs its pour servos and then the mixer if it is asked for. -/
theorem exists_leads_pour : ∃ after, settings.Leads none (order.pour settings) after := by
  rw [pour]
  cases order.mix with
  | true =>
    refine ⟨some .mixer, (ServoSettings.leads_emit (.pouring _ _)).bind fun _ => ?_⟩
    refine (ServoSettings.leads_prepare _).bind fun _ => ?_
    refine (order.leads_pourChannels settings _ _ _).bind fun _ => ?_
    exact (ServoSettings.leads_run _ _ _).bind fun _ => leads_finish settings _ _
  | false =>
    refine ⟨order.channels.foldl (fun _ channel => some (.pour channel)) none,
      (ServoSettings.leads_emit (.pouring _ _)).bind fun _ => ?_⟩
    refine (ServoSettings.leads_prepare _).bind fun _ => ?_
    refine (order.leads_pourChannels settings _ _ _).bind fun _ => ?_
    exact leads_finish settings _ _

end Order

end DrinkMixer
