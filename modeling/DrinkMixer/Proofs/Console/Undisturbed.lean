import DrinkMixer.Proofs.Console.Lines
import DrinkMixer.Proofs.Order.History
import DrinkMixer.Proofs.Program.Alike
import DrinkMixer.Proofs.Program.Runs

/-!
# Servo runs with a console

The progress of servo procedures can be put on record or shown on a console (`attended`). The
console never disturbs them: whatever its stream answers, the hardware sees the same as where the
events are only recorded, and the same comes out.

Main statement: `console_undisturbing`, the lines that are printed for some events, and what a
console does to a run.
-/

namespace DrinkMixer

open Servos

/-- What servo procedures ask for whose progress is shown on a console. -/
abbrev ServoConsole : Signature := Pwm.sum (Board.sum Console)

/-- Each event is followed on the console, and all other requests are handed on. -/
def attended : Realization Servos ServoConsole Unit :=
  (Realization.direct Pwm).sum ((Realization.direct Board).sum Console.onConsole.lift)

/-- What is asked of the stream. -/
def consoleCalls (calls : List (Call ServoConsole)) : List (Call Console) :=
  calls.filterMap fun call => call.right?.bind Call.right?

/-- The event that a call tells. -/
def Servos.event? : Call Servos → Option Event
  | ⟨.inr (.inr (.emit event)), _⟩ => some event
  | _ => none

/-- The events that are told, in order. -/
def Servos.events (calls : List (Call Servos)) : List Event :=
  calls.filterMap event?

/-! ### Carrying out calls with a console -/

/-- What lets no time pass is seen by the stream and not by the hardware. -/
theorem stimuli_of_offered {asked : List (Call (Console.sum Board))}
    {calls : List (Call ServoConsole)} (h : List.Forall₂ Call.Offered asked calls)
    (hwait : ∀ ms, ∀ call ∈ asked, call.op ≠ .inr (.wait ms)) :
    stimuli calls = [] ∧ consoleCalls calls = asked.filterMap Call.left? := by
  induction h with
  | nil => exact ⟨rfl, rfl⟩
  | @cons _ _ asked calls hcall _ ih =>
    have hrest := ih fun ms call hmem => hwait ms call (List.mem_cons_of_mem _ hmem)
    obtain ⟨hstimuli, hconsole⟩ := hrest
    obtain ⟨request | request, answer⟩ := hcall
    · exact ⟨hstimuli, congrArg (_ :: ·) hconsole⟩
    · cases request with
      | wait ms => exact absurd rfl (hwait ms _ List.mem_cons_self)
      | note record => exact ⟨hstimuli, hconsole⟩

/-- With a console the hardware sees the calls that are made above it, and the stream is asked for
the lines of their events. -/
theorem carries_attended {above : List (Call Servos)} {below : List (Call ServoConsole)}
    {memory final : Unit} (h : attended.Carries memory above below final) :
    stimuli below = stimuli above ∧ Console.Prints (events above) (consoleCalls below) := by
  -- commands, waits and log records are one call each below; an event is a whole program
  induction h with
  | nil => exact ⟨rfl, .nil⟩
  | @cons memory middle final op answer above first below head tail ih =>
    obtain ⟨hstimuli, hprints⟩ := ih
    rcases op with request | request | request
    · obtain ⟨own, rfl, rfl, _⟩ := Program.path_direct_iff.mp head
      exact ⟨congrArg (_ :: ·) hstimuli, hprints⟩
    · obtain ⟨own, rfl, rfl, _⟩ := Program.path_direct_iff.mp head
      cases request with
      | wait ms => exact ⟨congrArg (_ :: ·) hstimuli, hprints⟩
      | note record => exact ⟨hstimuli, hprints⟩
    · cases request with
      | emit event =>
        obtain ⟨hpath, _⟩ := Program.path_lift_stateless_iff.mp head
        obtain ⟨asked, hasked, hoffered⟩ := hpath.of_lift
        have hwait := Console.ne_wait_of_path_follow hasked
        obtain ⟨hquiet, hlines⟩ := stimuli_of_offered hoffered hwait
        have hprinted := Console.prints_follow hasked hprints
        rw [← hlines] at hprinted
        refine ⟨?_, ?_⟩
        · rw [stimuli, List.filterMap_append, ← stimuli, ← stimuli, hquiet, hstimuli]
          rfl
        · rw [consoleCalls, List.filterMap_append]
          exact hprinted

/-! ### Worlds -/

section Worlds

variable {σ τ : Type}

/-- Hardware, with every event put on record. -/
def recording (port : World Pwm σ) (pass : UInt32 → σ → σ) : World Servos (σ × List Event) where
  answer
    | .inl request, (s, record) => ((port.answer request s).1, (port.answer request s).2, record)
    | .inr (.inl (.wait ms)), (s, record) => ((), pass ms s, record)
    | .inr (.inl (.note _)), state => ((), state)
    | .inr (.inr (.emit event)), (s, record) => ((), s, record ++ [event])

/-- The same hardware with the stream of a console. -/
def withConsole (port : World Pwm σ) (pass : UInt32 → σ → σ) (stream : World Console τ) :
    World ServoConsole (σ × τ) where
  answer
    | .inl request, (s, t) => ((port.answer request s).1, (port.answer request s).2, t)
    | .inr (.inl (.wait ms)), (s, t) => ((), pass ms s, t)
    | .inr (.inl (.note _)), state => ((), state)
    | .inr (.inr request), (s, t) => ((stream.answer request t).1, s, (stream.answer request t).2)

variable (port : World Pwm σ) (pass : UInt32 → σ → σ) (stream : World Console τ)

/-- What is told is what is recorded. -/
theorem eval_recording {α : Type} (p : Program Servos α) (s : σ) (record : List Event) :
    (p.eval (recording port pass) (s, record)).2.2 =
      record ++ events (p.calls (recording port pass) (s, record)) := by
  induction p generalizing s record with
  | done value => exact (List.append_nil record).symm
  | ask op next ih =>
    rcases op with request | request | request
    · exact ih _ _ _
    · cases request with
      | wait ms => exact ih _ _ _
      | note _ => exact ih _ _ _
    · cases request with
      | emit event =>
        refine (ih _ s (record ++ [event])).trans ?_
        rw [List.append_assoc]
        rfl

/-- Nothing but commands and waits reaches the hardware. -/
theorem after_withConsole_fst {ops : List (Console.sum Board).Op}
    (hwait : ∀ ms, .inr (.wait ms) ∉ ops) (s : σ) (t : τ) :
    ((withConsole port pass stream).offered.after ops (s, t)).1 = s := by
  induction ops generalizing t with
  | nil => rfl
  | cons op ops ih =>
    have hrest := ih fun ms hmem => hwait ms (List.mem_cons_of_mem op hmem)
    rw [World.after_cons]
    rcases op with request | request
    · exact hrest _
    · cases request with
      | wait ms => exact absurd List.mem_cons_self (hwait ms)
      | note record => exact hrest t

/-- Following an event leaves the hardware alone. -/
theorem eval_follow_fst (event : Event) (s : σ) (t : τ) :
    (((Console.follow event).lift : Program ServoConsole Unit).eval
      (withConsole port pass stream) (s, t)).2.1 = s := by
  rw [Program.eval_lift, Program.eval_snd_eq_after]
  refine after_withConsole_fst port pass stream ?_ s t
  intro ms hmem
  obtain ⟨call, hcall, hop⟩ := List.mem_map.mp hmem
  exact Console.ne_wait_of_path_follow (Program.path_calls _ _ _) ms call hcall hop

/-- A console answers all requests as a recorder does. -/
theorem alike_recording :
    (attended.world (withConsole port pass stream)).Alike
      (fun state state' => state.2.1 = state'.1) (recording port pass) where
  answer op {state state'} h := by
    obtain ⟨_, s, t⟩ := state
    obtain ⟨s', record⟩ := state'
    have hs : s = s' := h
    subst hs
    rcases op with request | request | request
    · exact ⟨rfl, rfl⟩
    · cases request with
      | wait ms => exact ⟨rfl, rfl⟩
      | note _ => exact ⟨rfl, rfl⟩
    · cases request with
      | emit event =>
        have hfollow : ((attended.world (withConsole port pass stream)).answer
            (.inr (.inr (.emit event))) ((), s, t)).2.2 =
              (((Console.follow event).lift : Program ServoConsole Unit).eval
                (withConsole port pass stream) (s, t)).2 := by
          show ((((Console.follow event) >>= fun answer => .done (answer, ())).lift :
            Program ServoConsole (Unit × Unit)).eval (withConsole port pass stream) (s, t)).2 = _
          rw [Program.lift_bind, Program.eval_bind]
          rfl
        refine ⟨rfl, ?_⟩
        rw [hfollow]
        exact eval_follow_fst port pass stream event s t

end Worlds

/-! ### Completions on the console -/

/-- The line for a finished cycle is printed once for each completion of its actuator. -/
theorem count_lines_events (calls : List (Call Servos)) (actuator : Actuator) :
    (Console.lines (events calls)).count actuator.finished =
      (completions calls).countP fun completion => completion.1 == actuator := by
  have hline : ∀ call : Call Servos,
      (event? call).bind Event.line? = some actuator.completionLine ↔
        ∃ remaining, completion? call = some (actuator, remaining) := by
    rintro ⟨request | request | request, answer⟩
    · simp [event?, completion?]
    · simp [event?, completion?]
    · cases request with
      | emit event =>
        show event.line? = _ ↔ _
        rw [Event.line?_eq_completionLine_iff]
        cases event <;> simp [completion?]
  -- on both sides it is calls that are counted
  rw [actuator.finished_eq, Console.lines_eq, events, List.filterMap_filterMap, List.count,
    List.countP_map, List.countP_filterMap, completions, List.countP_filterMap]
  refine List.countP_congr fun call _ => ?_
  have hprinted : (((event? call).bind Event.line?).map
      ((· == actuator.completionLine ++ "\n") ∘ (· ++ "\n"))).getD false = true ↔
        (event? call).bind Event.line? = some actuator.completionLine := by
    cases (event? call).bind Event.line? <;> simp [String.append_left_inj]
  have htold : ((completion? call).map fun completion => completion.1 == actuator).getD false =
      true ↔ ∃ remaining, completion? call = some (actuator, remaining) := by
    cases completion? call <;> simp [Prod.ext_iff]
  rw [hprinted, htold, hline]

/-- A stream that takes every text takes those that a run offers it. -/
theorem attempts_withConsole {σ τ α : Type} (port : World Pwm σ) (pass : UInt32 → σ → σ)
    {stream : World Console τ} (hall : ∀ text t, (stream.answer (.write text) t).1 = .ok ())
    (p : Program ServoConsole α) (state : σ × τ) :
    ∀ attempt ∈ Console.attempts (consoleCalls (p.calls (withConsole port pass stream) state)),
      attempt.2 = .ok () := by
  intro attempt hattempt
  obtain ⟨own, hown, hwritten⟩ := List.mem_filterMap.mp hattempt
  obtain ⟨call, hcall, hright⟩ := List.mem_filterMap.mp hown
  obtain ⟨⟨s, t⟩, hanswer⟩ := Program.exists_answer_of_mem_calls hcall
  rcases call with ⟨request | request | request, answer⟩
  · cases hright
  · cases hright
  · cases hright
    cases request with
    | flush => cases hwritten
    | write text =>
      cases hwritten
      exact hanswer.trans (hall text t)

/-! ### Tasks -/

/-- A run of an actuator, or an order that is poured. -/
inductive ServoTask
  | run (actuator : Actuator) (count : UInt32)
  | pour (order : Order)

namespace ServoTask

/-- What is done for a task. -/
def procedure (settings : ServoSettings) : ServoTask → ServoProcedure UInt32
  | run actuator count => settings.run actuator count
  | pour order => order.pour settings

theorem exists_leads (settings : ServoSettings) (task : ServoTask) :
    ∃ after, settings.Leads none (task.procedure settings) after := by
  cases task with
  | run actuator count => exact ⟨_, ServoSettings.leads_run none actuator count⟩
  | pour order => exact order.exists_leads_pour settings

/-- In every run of a task each actuator completes as many cycles as are made while it is running,
and as many as are made on its output at all if it is the only one that is wired there. -/
theorem wholeCycles_eq {settings : ServoSettings} {task : ServoTask} {calls : List (Call Servos)}
    {result : Except Failure UInt32}
    (h : Program.Path (task.procedure settings).run calls result) (actuator : Actuator) :
    settings.wholeCycles (settings.output actuator)
        (stimuli (during (· == some actuator) none calls)) =
      ((completions calls).countP fun completion => completion.1 == actuator) ∧
    ((∀ other, settings.output other = settings.output actuator → other = actuator) →
      settings.wholeCycles (settings.output actuator) (stimuli calls) =
        (completions calls).countP fun completion => completion.1 == actuator) := by
  obtain ⟨after, hleads⟩ := task.exists_leads settings
  constructor
  · rw [hleads.wholeCycles_eq h]
    refine List.countP_congr fun completion _ => ?_
    simp only [Bool.and_eq_true, beq_iff_eq, Option.some.injEq]
    exact ⟨And.left, fun h => ⟨h, congrArg settings.output h⟩⟩
  · intro halone
    have hwhole := hleads.wholeCycles_eq h (fun _ => true) (settings.output actuator)
    rw [during_always] at hwhole
    rw [hwhole]
    refine List.countP_congr fun completion _ => ?_
    simp only [Bool.true_and, beq_iff_eq]
    exact ⟨halone completion.1, congrArg settings.output⟩

section Runs

variable {σ τ : Type} (settings : ServoSettings) (task : ServoTask) (port : World Pwm σ)
  (pass : UInt32 → σ → σ) (stream : World Console τ) (s : σ) (t : τ)

/-- What a task asks for where its events are only recorded. -/
def recordedCalls : List (Call Servos) :=
  (task.procedure settings).run.calls (recording port pass) (s, [])

/-- What comes of it: a result, the state of the hardware and the record. -/
def recordedEnd : Except Failure UInt32 × σ × List Event :=
  (task.procedure settings).run.eval (recording port pass) (s, [])

/-- What a task asks for with a console. -/
def shownCalls : List (Call ServoConsole) :=
  (((task.procedure settings).run.realize attended).run ()).calls
    (withConsole port pass stream) (s, t)

/-- What comes of it: a result, the state of the hardware and that of the stream. -/
def shownEnd : (Except Failure UInt32 × Unit) × σ × τ :=
  (((task.procedure settings).run.realize attended).run ()).eval
    (withConsole port pass stream) (s, t)

/-- A console does not disturb a task: the hardware sees the same commands and waits and is left in
the same state, the same comes out, and the lines are those of the events that are recorded. -/
structure Undisturbed : Prop where
  stimuli : stimuli (task.shownCalls settings port pass stream s t) =
    stimuli (task.recordedCalls settings port pass s)
  result : (task.shownEnd settings port pass stream s t).1.1 =
    (task.recordedEnd settings port pass s).1
  hardware : (task.shownEnd settings port pass stream s t).2.1 =
    (task.recordedEnd settings port pass s).2.1
  exact : Console.Exact (task.recordedEnd settings port pass s).2.2
    (consoleCalls (task.shownCalls settings port pass stream s t))

theorem events_recordedCalls :
    (task.recordedEnd settings port pass s).2.2 =
      events (task.recordedCalls settings port pass s) :=
  (eval_recording port pass _ s []).trans (List.nil_append _)

theorem undisturbed : task.Undisturbed settings port pass stream s t := by
  obtain ⟨hcalls, hresult, hhardware⟩ := (alike_recording port pass stream).run
    (task.procedure settings).run (s := ((), s, t)) (r := (s, [])) rfl
  obtain ⟨hstimuli, hprints⟩ := carries_attended (attended.carries_calls
    (withConsole port pass stream) (task.procedure settings).run () (s, t))
  have hrealize := Program.eval_realize attended (withConsole port pass stream)
    (task.procedure settings).run () (s, t)
  rw [hcalls] at hstimuli hprints
  refine ⟨hstimuli, ?_, ?_, ?_⟩
  · rw [shownEnd, hrealize]
    exact hresult
  · rw [shownEnd, hrealize]
    exact hhardware
  · rw [events_recordedCalls]
    exact hprints.exact

/-- How often the line for a finished cycle was taken. -/
def completionLines (actuator : Actuator) : Nat :=
  (Console.taken (consoleCalls (task.shownCalls settings port pass stream s t))).count
    actuator.finished

/-- If every text is taken, each completion is on the console. -/
theorem completionLines_eq (hall : ∀ text t, (stream.answer (.write text) t).1 = .ok ())
    (actuator : Actuator) :
    task.completionLines settings port pass stream s t actuator =
      (completions (task.recordedCalls settings port pass s)).countP fun completion =>
        completion.1 == actuator := by
  have hprints := (task.undisturbed settings port pass stream s t).exact.prints
  have htaken := hprints.taken_eq (attempts_withConsole port pass hall _ (s, t))
  rw [completionLines, htaken, events_recordedCalls, count_lines_events]

end Runs

end ServoTask

/-- For a list of events the stream is offered the lines of those that print one, whole and once
each, whatever it answers. A console never disturbs a task, and if every text is taken, the line for
a finished cycle is there once for each whole cycle that is made while its actuator is running, also
if a command fails half-way: on the output of its own number for a pour servo, and on the one that
the settings name for the mixer. These are all whole cycles of the output if no other actuator is
wired there. -/
theorem console_undisturbing {σ τ ρ : Type} (console : World (Console.sum Board) ρ) (r : ρ)
    (events : List Event) (settings : ServoSettings) (task : ServoTask) (port : World Pwm σ)
    (pass : UInt32 → σ → σ) (stream : World Console τ) (s : σ) (t : τ) :
    let output := fun actuator : Actuator => match actuator with
      | .pour channel => UInt8.ofNat channel.val
      | .mixer => settings.mixOutput
    Console.Exact events (((Console.followEach events).calls console r).filterMap Call.left?) ∧
    task.Undisturbed settings port pass stream s t ∧
    ((∀ text t, (stream.answer (.write text) t).1 = .ok ()) → ∀ actuator : Actuator,
      task.completionLines settings port pass stream s t actuator =
        settings.wholeCycles (output actuator)
          (stimuli (during (· == some actuator) none (task.recordedCalls settings port pass s))) ∧
      ((∀ other, output other = output actuator → other = actuator) →
        task.completionLines settings port pass stream s t actuator =
          settings.wholeCycles (output actuator)
            (stimuli (task.shownCalls settings port pass stream s t)))) := by
  intro output
  have houtput : output = settings.output := by
    funext actuator
    cases actuator <;> rfl
  have hundisturbed := task.undisturbed settings port pass stream s t
  refine ⟨(Console.prints_followEach (Program.path_calls console _ r)).exact, hundisturbed, ?_⟩
  intro hall actuator
  have hlines := task.completionLines_eq settings port pass stream s t hall actuator
  obtain ⟨hown, halone⟩ := task.wholeCycles_eq
    (Program.path_calls (recording port pass) (task.procedure settings).run (s, [])) actuator
  rw [houtput]
  refine ⟨hlines.trans hown.symm, fun honly => ?_⟩
  rw [hundisturbed.stimuli]
  exact hlines.trans (halone honly).symm

/-- A controller whose first so many commands are carried out. -/
def failingAfter (count : Nat) : World Pwm Nat where
  answer _ done := (if done < count then .ok () else .error .writeFailed, done + 1)

/-- A stream that takes and shows everything. -/
def taking : World Console Unit where
  answer
    | .write _, t => (.ok (), t)
    | .flush, t => (.ok (), t)

/-- If the second pulse of the second cycle fails, one cycle is finished on the console. -/
theorem console_undisturbing_cut :
    (∀ text t, (taking.answer (.write text) t).1 = .ok ()) ∧
      Console.taken (consoleCalls ((ServoTask.run (.pour 0) 2).shownCalls {} (failingAfter 3)
        (fun _ s => s) taking 0 ())) =
        ["Moving servo on channel 0, press Ctrl-C to quit...\n", "Servo 0 Completed!\n"] ∧
      (ServoTask.run (.pour 0) 2).completionLines {} (failingAfter 3) (fun _ s => s) taking 0 ()
        (.pour 0) = 1 := by
  have htaking : ∀ text t, (taking.answer (.write text) t).1 = .ok () := fun _ _ => rfl
  obtain ⟨_, _, hlines⟩ := console_undisturbing ⟨fun
    | .inl _, r => (.ok (), r)
    | .inr _, r => ((), r)⟩ () [] {} (.run (.pour 0) 2) (failingAfter 3) (fun _ s => s) taking 0 ()
  exact ⟨htaking, rfl, (hlines htaking (.pour 0)).1⟩

end DrinkMixer
