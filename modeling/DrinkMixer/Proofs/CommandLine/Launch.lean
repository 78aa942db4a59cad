import DrinkMixer.Proofs.CommandLine.Accepted
import DrinkMixer.Proofs.Order.Pulses

/-!
# Launching a tool

A tool goes through its checks one after the other. The first that fails ends it, and behind the
last one stands the request for the hardware; an order that would set no pulse ends before anybody
looks for settings.

Main statements: `Tool.launch_path`, the ways of a launch up to where hardware is opened, and
`launch_gated`, in every world a tool opens hardware for what it accepts and for nothing else.
-/

namespace DrinkMixer

open Program ToolProcedure ToolStation

/-! ### Steps of the tools -/

/-- The file that is found to be named if settings are the first thing that is looked for. -/
def Tool.Finds (file : Option SettingsFile) (calls : List (Call ToolStation)) : Prop :=
  ∀ found rest, calls = looked found :: rest → found = file

namespace ToolProcedure

variable {α β : Type} {f : α → ToolProcedure β} {calls : List (Call ToolStation)}
  {result : Except Trouble β}

/-- What is refused ends a tool, and any other answer is gone on from. -/
theorem path_accept_bind {answer : Except Failure α}
    (h : Path (accept answer >>= f).run calls result) :
    (∃ failure, answer = .error failure ∧ calls = [] ∧ result = .error (.ofFailure failure)) ∨
      ∃ value, answer = .ok value ∧ Path (f value).run calls result := by
  cases answer with
  | error failure =>
    obtain ⟨rfl, rfl⟩ := path_done_iff.mp h
    exact Or.inl ⟨failure, rfl, rfl, rfl⟩
  | ok value => exact Or.inr ⟨value, rfl, h⟩

/-- Settings that cannot be used end a tool, and a file of others is noted. -/
theorem path_takeSettings_bind {file : Option SettingsFile} {f : Settings → ToolProcedure β}
    (h : Path (takeSettings file >>= f).run calls result) :
    (∃ fault, settingsIn file = .error fault ∧ calls = [] ∧ result = .error (.ofSettings fault)) ∨
      ∃ settings rest, settingsIn file = .ok settings ∧ Path (f settings).run rest result ∧
        looked file :: calls = loaded file ++ rest := by
  cases file with
  | none => exact Or.inr ⟨{}, calls, rfl, h, rfl⟩
  | some file =>
    have hfile : settingsIn (some file) = file.source.load := rfl
    rw [takeSettings] at h
    cases hload : file.source.load with
    | error fault =>
      rw [hload] at h
      obtain ⟨rfl, rfl⟩ := path_done_iff.mp h
      exact Or.inl ⟨fault, hfile.trans hload, rfl, rfl⟩
    | ok settings =>
      rw [hload] at h
      obtain ⟨_, rest, hrest, rfl⟩ := path_ask_iff.mp h
      exact Or.inr ⟨settings, rest, hfile.trans hload, hrest, rfl⟩

/-- Settings are taken out of the file that is found to be named. -/
theorem path_loadSettings_bind {file : Option SettingsFile} {f : Settings → ToolProcedure β}
    (h : Path (loadSettings >>= f).run calls result) (hfile : Tool.Finds file calls) :
    (∃ fault, settingsIn file = .error fault ∧ calls = [looked file] ∧
        result = .error (.ofSettings fault)) ∨
      ∃ settings rest, settingsIn file = .ok settings ∧ Path (f settings).run rest result ∧
        calls = loaded file ++ rest := by
  obtain ⟨found, rest, hrest, rfl⟩ := path_ask_iff.mp h
  obtain rfl : found = file := hfile found rest rfl
  have htake : Path (takeSettings found >>= f).run rest result := hrest
  rcases path_takeSettings_bind htake with ⟨fault, hsettings, rfl, rfl⟩ |
    ⟨settings, onward, hsettings, honward, hcalls⟩
  · exact Or.inl ⟨fault, hsettings, rfl, rfl⟩
  · exact Or.inr ⟨settings, onward, hsettings, honward, hcalls⟩

/-- Where the stop flag cannot be raised a tool ends. -/
theorem path_handleInterrupts_bind {f : Unit → ToolProcedure β}
    (h : Path (handleInterrupts >>= f).run calls result)
    (hhandled : ∀ answer, handled answer ∈ calls → answer = .ok ()) :
    ∃ rest, Path (f ()).run rest result ∧ calls = handled (.ok ()) :: rest := by
  obtain ⟨answer, rest, hrest, rfl⟩ := path_ask_iff.mp h
  obtain rfl : answer = .ok () := hhandled answer List.mem_cons_self
  exact ⟨rest, hrest, rfl⟩

end ToolProcedure

/-! ### The tools -/

namespace Tool

variable {Moves : Order → Prop} {arguments : List String} {file : Option SettingsFile} {fuel : Nat}
  {calls : List (Call ToolStation)} {result : Except Trouble Bool}

/-- Up to where it opens hardware, a tool is held back or asks for what comes before that. -/
def Ways (Moves : Order → Prop) (arguments : List String) (file : Option SettingsFile) (tool : Tool)
    (calls : List (Call ToolStation)) (result : Except Trouble Bool) : Prop :=
  HeldBack Moves arguments file tool calls (.of calls result) ∨
    ∃ opening answer rest, Accepts Moves arguments file tool opening ∧
      calls = tool.beforehand file ++ ⟨opening, answer⟩ :: rest

/-- A tool that has nothing to return is finished where it did not fail. -/
theorem path_finished {p : ToolProcedure Unit}
    (h : Path (do p; pure true : ToolProcedure Bool).run calls result) :
    ∃ outcome, Path p.run calls outcome ∧ result = outcome.map fun () => true := by
  rcases path_run_bind_iff.mp h with ⟨trouble, hp, rfl⟩ | ⟨⟨⟩, first, second, hp, hdone, rfl⟩
  · exact ⟨.error trouble, hp, rfl⟩
  · obtain ⟨rfl, rfl⟩ := path_done_iff.mp hdone
    rw [List.append_nil]
    exact ⟨.ok (), hp, rfl⟩

/-- What is left behind where settings were loaded and nothing else was done. -/
theorem report_of_loaded (file : Option SettingsFile) (trouble : Trouble) :
    Report.of (loaded file) (.error trouble) =
      ⟨some 1, "", file.toList.map fun file => ⟨.info, "config: loaded " ++ file.path⟩,
        trouble.shown⟩ := by
  cases file with
  | none => rfl
  | some file => rfl

/-- Serving arguments begins with the controller, unless the arguments are refused. -/
theorem path_lift_serve {settings : ServoSettings} {answer : Except Trouble UInt32}
    (h : Path ((CycleRequest.serve Trouble.ofFailure settings arguments).run.lift :
      Program ToolStation _) calls answer) :
    (∃ failure, CycleRequest.ofArguments arguments = .error failure ∧ calls = [] ∧
      answer = .error (.ofFailure failure)) ∨
    ∃ request opened rest, CycleRequest.ofArguments arguments = .ok request ∧
      calls = ⟨.inl (.openController settings), opened⟩ :: rest := by
  obtain ⟨asked, hasked, hoffered⟩ := h.of_lift
  have hopened {answer : Except Trouble Unit} {more : List (Call ((Opening Trouble).sum Servos))}
      (hoffered : List.Forall₂ Call.Offered (CycleRequest.opened settings answer :: more) calls) :
      ∃ opened rest, calls = ⟨.inl (.openController settings), opened⟩ :: rest := by
    cases hoffered with
    | cons head tail =>
      cases head
      exact ⟨_, _, rfl⟩
  rcases CycleRequest.serve_path hasked with ⟨failure, hrequest, rfl, rfl⟩ |
    ⟨request, hrequest, ⟨_, rfl, _⟩ | ⟨_, _, _, rfl, _⟩⟩
  · cases hoffered
    exact Or.inl ⟨failure, hrequest, rfl, rfl⟩
  · obtain ⟨opened, rest, hcalls⟩ := hopened hoffered
    exact Or.inr ⟨request, opened, rest, hrequest, hcalls⟩
  · obtain ⟨opened, rest, hcalls⟩ := hopened hoffered
    exact Or.inr ⟨request, opened, rest, hrequest, hcalls⟩

theorem path_cycle (h : Path (Tool.actuatorCycle.launch arguments fuel).run calls result)
    (hfile : Finds file calls) : Ways Moves arguments file .actuatorCycle calls result := by
  obtain ⟨outcome, hcycle, rfl⟩ := path_finished h
  rcases path_loadSettings_bind hcycle hfile with ⟨fault, hsettings, rfl, rfl⟩ |
    ⟨settings, rest, hsettings, hrest, rfl⟩
  · exact Or.inl (.cycleSettings hsettings (faultShown fault))
  rcases path_run_bind_iff.mp hrest with ⟨trouble, hserve, rfl⟩ |
    ⟨cycles, first, second, hserve, _, rfl⟩
  · rcases path_lift_serve hserve with ⟨failure, hrequest, rfl, htrouble⟩ |
      ⟨request, answer, rest, hrequest, rfl⟩
    · obtain rfl := Except.error.inj htrouble
      refine Or.inl ?_
      rw [List.append_nil]
      show HeldBack _ _ _ _ _ (.of (loaded file) (.error _))
      rw [report_of_loaded]
      exact .cycleArguments hsettings hrequest (refusalShown_cycle hrequest)
    · exact Or.inr ⟨_, answer, rest, .cycle hsettings hrequest, rfl⟩
  · rcases path_lift_serve hserve with ⟨_, _, _, hcycles⟩ |
      ⟨request, answer, rest, hrequest, rfl⟩
    · cases hcycles
    · exact Or.inr ⟨_, answer, rest ++ second, .cycle hsettings hrequest, rfl⟩

theorem path_read (h : Path (Tool.tagReader.launch arguments fuel).run calls result)
    (hfile : Finds file calls) (hhandled : ∀ answer, handled answer ∈ calls → answer = .ok ()) :
    Ways Moves arguments file .tagReader calls result := by
  rcases path_accept_bind h with ⟨failure, hmode, rfl, rfl⟩ | ⟨mode, hmode, h⟩
  · exact Or.inl (.readerMode hmode (refusalShown_mode hmode))
  rcases path_loadSettings_bind h hfile with ⟨fault, hsettings, rfl, rfl⟩ |
    ⟨settings, rest, hsettings, hrest, rfl⟩
  · exact Or.inl (.readerSettings hmode hsettings (faultShown fault))
  refine Or.inr ?_
  obtain ⟨onward, honward, rfl⟩ := path_handleInterrupts_bind hrest
    fun answer hanswer => hhandled answer (List.mem_append_right _ hanswer)
  obtain ⟨answer, rest, _, rfl⟩ := path_ask_iff.mp honward
  refine ⟨_, answer, rest, .reading hmode hsettings, ?_⟩
  rw [Tool.beforehand, List.append_assoc]
  rfl

theorem path_pour (hmoves : ∀ order, Moves order ↔ order.isEmpty = false)
    (h : Path (Tool.pourOrder.launch arguments fuel).run calls result) (hfile : Finds file calls) :
    Ways Moves arguments file .pourOrder calls result := by
  obtain ⟨outcome, hpour, rfl⟩ := path_finished h
  cases arguments with
  | nil =>
    obtain ⟨rfl, rfl⟩ := path_done_iff.mp hpour
    exact Or.inl (.order rfl (.missing "order"))
  | cons document more =>
    rcases path_accept_bind hpour with ⟨failure, hdocument, rfl, rfl⟩ | ⟨order, hdocument, hrest⟩
    · have horder : orderIn (document :: more) = .error failure := hdocument
      exact Or.inl (.order horder (refusalShown_order horder))
    have horder : orderIn (document :: more) = .ok order := hdocument
    cases hempty : order.isEmpty with
    | true =>
      rw [hempty] at hrest
      obtain ⟨_, rfl, rfl⟩ := path_always_request_iff.mp hrest
      have hstill : ¬Moves order := by
        rw [hmoves, hempty]
        exact Bool.noConfusion
      exact Or.inl (.nothing horder hstill)
    | false =>
      rw [hempty] at hrest
      have hmoving : Moves order := (hmoves order).mpr hempty
      rcases path_loadSettings_bind hrest hfile with ⟨fault, hsettings, rfl, rfl⟩ |
        ⟨settings, asked, hsettings, hopen, rfl⟩
      · exact Or.inl (.orderSettings horder hmoving hsettings (faultShown fault))
      obtain ⟨answer, rest, _, rfl⟩ := path_ask_iff.mp hopen
      exact Or.inr ⟨_, answer, rest, .pouring horder hmoving hsettings, rfl⟩

/-- Each tool is held back, or opens the hardware for what it accepted. -/
theorem launch_path (hmoves : ∀ order, Moves order ↔ order.isEmpty = false) {tool : Tool}
    (h : Path (tool.launch arguments fuel).run calls result) (hfile : Finds file calls)
    (hhandled : ∀ answer, handled answer ∈ calls → answer = .ok ()) :
    Ways Moves arguments file tool calls result := by
  cases tool with
  | actuatorCycle => exact path_cycle h hfile
  | tagReader => exact path_read h hfile hhandled
  | pourOrder => exact path_pour hmoves h hfile

end Tool

/-! ### Launches in a world -/

/-- The machine lets interrupts raise the stop flag. -/
def World.Interruptible {σ : Type} (w : World ToolStation σ) : Prop :=
  ∀ s, (w.answer (.inr (.inl .handleInterrupts)) s).1 = .ok ()

/-- The file that a world names for the settings. -/
def World.settingsFile {σ : Type} (w : World ToolStation σ) (s : σ) : Option SettingsFile :=
  (w.answer (.inr (.inl .findSettings)) s).1

/-- What a tool does with its arguments, and what it leaves behind, given which orders move
anything. -/
structure Gated (Moves : Order → Prop) (arguments : List String) (file : Option SettingsFile)
    (tool : Tool) (calls : List (Call ToolStation)) (report : Report) : Prop where
  /-- Hardware is opened exactly for what is accepted. -/
  opens : (∃ call ∈ calls, isOpening call.op = true) ↔
    ∃ opening, Accepts Moves arguments file tool opening
  /-- Nothing is printed or moved before the hardware is opened. -/
  begins : ∀ opening, Accepts Moves arguments file tool opening →
    ∃ answer rest, calls = tool.beforehand file ++ ⟨opening, answer⟩ :: rest
  /-- Where no hardware is opened, what is left behind is what the first failed check says. -/
  holds : (∀ call ∈ calls, isOpening call.op = false) →
    HeldBack Moves arguments file tool calls report

/-- What is not accepted is held back. -/
theorem Gated.heldBack {Moves : Order → Prop} {arguments : List String}
    {file : Option SettingsFile} {tool : Tool} {calls : List (Call ToolStation)} {report : Report}
    (h : Gated Moves arguments file tool calls report)
    (hnone : ∀ opening, ¬Accepts Moves arguments file tool opening) :
    HeldBack Moves arguments file tool calls report := by
  refine h.holds fun call hcall => Bool.eq_false_iff.mpr fun hopening => ?_
  obtain ⟨opening, haccepts⟩ := h.opens.mp ⟨call, hcall, hopening⟩
  exact hnone opening haccepts

theorem Tool.Ways.gated {Moves : Order → Prop} {arguments : List String}
    {file : Option SettingsFile} {tool : Tool} {calls : List (Call ToolStation)}
    {result : Except Trouble Bool}
    (h : Tool.Ways Moves arguments file tool calls result) :
    Gated Moves arguments file tool calls (.of calls result) := by
  rcases h with hback | ⟨opening, answer, rest, haccepts, rfl⟩
  · refine ⟨⟨?_, ?_⟩, ?_, fun _ => hback⟩
    · rintro ⟨call, hcall, hopening⟩
      cases (hback.isOpening_eq_false call hcall).symm.trans hopening
    · rintro ⟨opening, haccepts⟩
      exact absurd haccepts (hback.not_accepts opening)
    · intro opening haccepts
      exact absurd haccepts (hback.not_accepts opening)
  · have hmem : (⟨opening, answer⟩ : Call ToolStation) ∈
        tool.beforehand file ++ ⟨opening, answer⟩ :: rest :=
      List.mem_append_right _ List.mem_cons_self
    refine ⟨⟨fun _ => ⟨opening, haccepts⟩, fun _ => ⟨_, hmem, haccepts.isOpening_eq_true⟩⟩, ?_, ?_⟩
    · intro other hother
      obtain rfl := haccepts.unique hother
      exact ⟨answer, rest, rfl⟩
    · intro hnone
      cases (hnone _ hmem).symm.trans haccepts.isOpening_eq_true

/-- In every world whose machine can be interrupted, each tool opens its hardware exactly for input
that it accepts. Otherwise it prints nothing and reports the first of its checks that fails, and an
order that would set no pulse on a controller that never fails is finished without a look at the
settings. -/
theorem launch_gated {σ ρ : Type} {w : World ToolStation σ} (hw : w.Interruptible)
    {v : World Servos ρ} (hv : v.Unfailing) (t : ρ) (servo : ServoSettings) (tool : Tool)
    (arguments : List String) (fuel : Nat) (s : σ) :
    Gated (·.SetsPulse servo v t) arguments (w.settingsFile s) tool
      ((tool.launch arguments fuel).run.calls w s) (tool.report arguments fuel w s) := by
  refine Tool.Ways.gated (Tool.launch_path (fun _ => Order.exists_pulse_iff hv servo t)
    (path_calls w (tool.launch arguments fuel).run s) ?_ ?_)
  · intro found rest hcalls
    -- settings that are looked for first are looked for where the launch begins
    have hsplit : (tool.launch arguments fuel).run.calls w s = [] ++ looked found :: rest := hcalls
    exact answer_of_calls_eq hsplit
  · intro answer hanswer
    obtain ⟨s', hhandled⟩ := exists_answer_of_mem_calls hanswer
    exact hhandled.trans (hw s')

theorem unequipped_interruptible (file : Option SettingsFile) :
    (unequipped file).Interruptible :=
  fun _ => rfl

/-- An order of nothing is finished and a wrong mode is reported although the file that is named for
the settings cannot be read, and the mixer is asked for with the default settings. -/
theorem launch_gated_unequipped :
    obliging.Unfailing ∧ (∀ file, (unequipped file).Interruptible) ∧
      Tool.pourOrder.report ["\x7b\x7d"] 0 (unequipped (some ⟨"mixer.json", .unreadable⟩)) () =
        ⟨some 0, "", [⟨.warn, "pour-order: nothing to pour"⟩], ""⟩ ∧
      Tool.tagReader.report ["tap"] 0 (unequipped (some ⟨"mixer.json", .unreadable⟩)) () =
        ⟨some 1, "", [], "Error: unknown reader mode 'tap'\n"⟩ ∧
      ∃ answer rest, (Tool.actuatorCycle.launch ["mix"] 0).run.calls (unequipped none) () =
        [looked none] ++ ⟨.inl (.openController {}), answer⟩ :: rest := by
  have hunfailing := obliging_unfailing
  refine ⟨hunfailing, unequipped_interruptible, ?_, ?_, ?_⟩
  · have hgated := launch_gated (unequipped_interruptible (some ⟨"mixer.json", .unreadable⟩))
      hunfailing () {} .pourOrder ["\x7b\x7d"] 0 ()
    have horder : orderIn ["\x7b\x7d"] = .ok {} := rfl
    have hstill : ¬({} : Order).SetsPulse {} obliging () := by
      rw [Order.exists_pulse_iff hunfailing]
      decide
    have hback := hgated.heldBack fun opening haccepts => by
      cases haccepts with
      | pouring hother hmoves =>
        obtain rfl := Except.ok.inj (horder.symm.trans hother)
        exact hstill hmoves
    generalize Tool.report _ _ _ _ _ = report at hback ⊢
    -- of the ways to be held back only one asks for what is asked for here
    cases hback with
    | nothing => rfl
  · have hgated := launch_gated (unequipped_interruptible (some ⟨"mixer.json", .unreadable⟩))
      hunfailing () {} .tagReader ["tap"] 0 ()
    have hmode : ReaderMode.ofArguments ["tap"] = .error (.unknownMode "tap") := rfl
    have hback := hgated.heldBack fun opening haccepts => by
      cases haccepts with
      | reading hother => cases hmode.symm.trans hother
    generalize Tool.report _ _ _ _ _ = report at hback ⊢
    cases hback with
    | readerMode hfailure hshown =>
      cases hmode.symm.trans hfailure
      cases hshown
      rfl
  · have hgated := launch_gated (unequipped_interruptible none) hunfailing () {} .actuatorCycle
      ["mix"] 0 ()
    have hsettings : settingsIn none = .ok {} := rfl
    have hrequest : CycleRequest.ofArguments ["mix"] = .ok ⟨.mixer, 1⟩ := rfl
    exact hgated.begins _ (.cycle hsettings hrequest)

end DrinkMixer
