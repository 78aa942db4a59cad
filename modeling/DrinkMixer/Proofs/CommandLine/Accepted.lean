import DrinkMixer.CommandLine
import DrinkMixer.Proofs.Cycle.Arguments

/-!
# What a tool accepts

A tool opens its hardware only if everything it was given is accepted (`Accepts`). Each tool has an
order of its own in which it looks at its arguments and at the settings, and the first check that
fails decides what it asks for and what it leaves behind (`HeldBack`).

Main statements: `HeldBack.not_accepts` and `HeldBack.isOpening_eq_false`, what is held back is not
accepted and opens no hardware, and `faultShown` and the lemmas beside it, the texts that are shown
for what is refused.
-/

namespace DrinkMixer

/-! ### Calls of the tools -/

namespace ToolStation

/-- Settings were looked for, and a file was found to be named for them or not. -/
def looked (file : Option SettingsFile) : Call ToolStation :=
  ⟨.inr (.inl .findSettings), file⟩

/-- Interrupts were to raise the stop flag. -/
def handled (answer : Except String Unit) : Call ToolStation :=
  ⟨.inr (.inl .handleInterrupts), answer⟩

/-- A record was put into the log. -/
def noted (level : LogLevel) (text : String) : Call ToolStation :=
  ⟨.inr (.inr (.inr (.inr (.inr (.inr (.inr (.inl (.note ⟨level, text⟩)))))))), ()⟩

/-- What is asked for while settings are found: a file of them is noted in the log. -/
def loaded (file : Option SettingsFile) : List (Call ToolStation) :=
  looked file :: file.toList.map fun file => noted .info ("config: loaded " ++ file.path)

/-- Whether a request opens hardware. -/
def isOpening : ToolStation.Op → Bool
  | .inl (.openController _) => true
  | .inr (.inl (.openReader _)) => true
  | _ => false

end ToolStation

open ToolStation

/-! ### What is accepted -/

/-- The settings in the file that is named for them, or the defaults if none is. -/
def settingsIn (file : Option SettingsFile) : Except SettingsFault Settings :=
  SettingsSource.loadNamed (file.map (·.source))

/-- The order that the first of some arguments holds. -/
def orderIn : List String → Except Failure Order
  | [] => .error (.missingArgument "order")
  | document :: _ => Order.ofText document

/-- What a tool accepts, given which orders move anything, and the hardware that it opens then. -/
inductive Accepts (Moves : Order → Prop) (arguments : List String) (file : Option SettingsFile) :
    Tool → ToolStation.Op → Prop
  | cycle {request : CycleRequest} {settings : Settings}
    (hsettings : settingsIn file = .ok settings)
    (hrequest : CycleRequest.ofArguments arguments = .ok request) :
    Accepts Moves arguments file .actuatorCycle (.inl (.openController settings.servo))
  | reading {mode : ReaderMode} {settings : Settings}
    (hmode : ReaderMode.ofArguments arguments = .ok mode)
    (hsettings : settingsIn file = .ok settings) :
    Accepts Moves arguments file .tagReader (.inr (.inl (.openReader settings.tag)))
  | pouring {order : Order} {settings : Settings} (horder : orderIn arguments = .ok order)
    (hmoves : Moves order) (hsettings : settingsIn file = .ok settings) :
    Accepts Moves arguments file .pourOrder (.inl (.openController settings.servo))

/-- The text that is shown for arguments that are refused. -/
inductive RefusalShown : Failure → String → Prop
  | missing (name : String) :
    RefusalShown (.missingArgument name) ("Error: missing argument: " ++ name ++ "\n")
  | actuator (text : String) :
    RefusalShown (.unknownActuator text) ("Error: unknown channel selector '" ++ text ++ "'\n")
  | count (text : String) :
    RefusalShown (.invalidCount text) ("Error: invalid repeat count '" ++ text ++ "'\n")
  | mode (text : String) :
    RefusalShown (.unknownMode text) ("Error: unknown reader mode '" ++ text ++ "'\n")
  | order (reason : String) :
    RefusalShown (.invalidOrder reason) ("Error: invalid pour order: " ++ reason ++ "\n")

/-- The text that is shown for settings that cannot be used. -/
inductive FaultShown : SettingsFault → String → Prop
  | notFound :
    FaultShown .notFound "Error: loading configuration\n\nCaused by:\n    config not found\n"
  | unreadable :
    FaultShown .unreadable "Error: loading configuration\n\nCaused by:\n    I/O error\n"
  | corrupted :
    FaultShown .corrupted "Error: loading configuration\n\nCaused by:\n    config corrupted\n"
  | invalid (rule : String) :
    FaultShown (.invalid rule)
      ("Error: loading configuration\n\nCaused by:\n    validation failed: " ++ rule ++ "\n")

/-- What a tool asks for and leaves behind where it opens no hardware, given which orders move
anything. -/
inductive HeldBack (Moves : Order → Prop) (arguments : List String) (file : Option SettingsFile) :
    Tool → List (Call ToolStation) → Report → Prop
  /-- The settings cannot be used, whatever the arguments are. -/
  | cycleSettings {fault : SettingsFault} {errors : String}
    (hsettings : settingsIn file = .error fault) (hshown : FaultShown fault errors) :
    HeldBack Moves arguments file .actuatorCycle [looked file] ⟨some 1, "", [], errors⟩
  | cycleArguments {settings : Settings} {failure : Failure} {errors : String}
    (hsettings : settingsIn file = .ok settings)
    (hrequest : CycleRequest.ofArguments arguments = .error failure)
    (hshown : RefusalShown failure errors) :
    HeldBack Moves arguments file .actuatorCycle (loaded file)
      ⟨some 1, "", file.toList.map fun file => ⟨.info, "config: loaded " ++ file.path⟩, errors⟩
  /-- The mode is refused, whatever the settings are. -/
  | readerMode {failure : Failure} {errors : String}
    (hmode : ReaderMode.ofArguments arguments = .error failure)
    (hshown : RefusalShown failure errors) :
    HeldBack Moves arguments file .tagReader [] ⟨some 1, "", [], errors⟩
  | readerSettings {mode : ReaderMode} {fault : SettingsFault} {errors : String}
    (hmode : ReaderMode.ofArguments arguments = .ok mode)
    (hsettings : settingsIn file = .error fault) (hshown : FaultShown fault errors) :
    HeldBack Moves arguments file .tagReader [looked file] ⟨some 1, "", [], errors⟩
  /-- The order is refused, whatever the settings are. -/
  | order {failure : Failure} {errors : String} (horder : orderIn arguments = .error failure)
    (hshown : RefusalShown failure errors) :
    HeldBack Moves arguments file .pourOrder [] ⟨some 1, "", [], errors⟩
  /-- There is nothing to pour, whatever the settings are. -/
  | nothing {order : Order} (horder : orderIn arguments = .ok order) (hmoves : ¬Moves order) :
    HeldBack Moves arguments file .pourOrder [noted .warn "pour-order: nothing to pour"]
      ⟨some 0, "", [⟨.warn, "pour-order: nothing to pour"⟩], ""⟩
  | orderSettings {order : Order} {fault : SettingsFault} {errors : String}
    (horder : orderIn arguments = .ok order) (hmoves : Moves order)
    (hsettings : settingsIn file = .error fault) (hshown : FaultShown fault errors) :
    HeldBack Moves arguments file .pourOrder [looked file] ⟨some 1, "", [], errors⟩

/-- What a tool asks for before it opens its hardware. -/
def Tool.beforehand (file : Option SettingsFile) : Tool → List (Call ToolStation)
  | actuatorCycle | pourOrder => loaded file
  | tagReader => loaded file ++ [handled (.ok ())]

/-! ### Texts of errors -/

theorem faultShown (fault : SettingsFault) : FaultShown fault (Trouble.ofSettings fault).shown := by
  cases fault with
  | notFound => exact .notFound
  | unreadable => exact .unreadable
  | corrupted => exact .corrupted
  | invalid rule => exact .invalid rule

/-- A text that is quoted in an error stands between what is said before and after it. -/
theorem Trouble.shown_quoted (start text finish : String) :
    Trouble.shown ⟨start ++ text ++ finish, none⟩ =
      "Error: " ++ start ++ text ++ (finish ++ "\n") := by
  simp only [Trouble.shown, String.append_assoc]

theorem refusalShown_cycle {arguments : List String} {failure : Failure}
    (h : CycleRequest.ofArguments arguments = .error failure) :
    RefusalShown failure (Trouble.ofFailure failure).shown := by
  obtain ⟨asked, hasks⟩ := CycleRequest.exists_asks arguments
  obtain rfl : asked = .error failure := hasks.ofArguments_eq.symm.trans h
  cases hasks with
  | nothing => exact .missing "channel"
  | unknown text =>
    have hshown := Trouble.shown_quoted "unknown channel selector '" text "'"
    exact hshown ▸ .actuator text
  | uncounted => exact .missing "count"
  | miscounted _ text =>
    have hshown := Trouble.shown_quoted "invalid repeat count '" text "'"
    exact hshown ▸ .count text

theorem refusalShown_mode {arguments : List String} {failure : Failure}
    (h : ReaderMode.ofArguments arguments = .error failure) :
    RefusalShown failure (Trouble.ofFailure failure).shown := by
  cases arguments with
  | nil =>
    cases h
    exact .missing "mode"
  | cons text rest =>
    have htext : ReaderMode.ofText text = .error failure := h
    have hshown := Trouble.shown_quoted "unknown reader mode '" text "'"
    unfold ReaderMode.ofText at htext
    split at htext
    case h_7 =>
      cases htext
      exact hshown ▸ .mode text
    all_goals cases htext

theorem refusalShown_order {arguments : List String} {failure : Failure}
    (h : orderIn arguments = .error failure) :
    RefusalShown failure (Trouble.ofFailure failure).shown := by
  cases arguments with
  | nil =>
    cases h
    exact .missing "order"
  | cons document rest =>
    have hdocument : Order.ofText document = .error failure := h
    unfold Order.ofText at hdocument
    split at hdocument
    · cases hdocument
    · cases hdocument
      exact .order _

/-! ### Held back or accepted -/

section

variable {Moves : Order → Prop} {arguments : List String} {file : Option SettingsFile} {tool : Tool}

/-- What is loaded opens no hardware. -/
theorem isOpening_of_mem_loaded {call : Call ToolStation} (h : call ∈ loaded file) :
    isOpening call.op = false := by
  rcases List.mem_cons.mp h with rfl | hnoted
  · rfl
  · obtain ⟨_, _, rfl⟩ := List.mem_map.mp hnoted
    rfl

/-- What is held back opens no hardware. -/
theorem HeldBack.isOpening_eq_false {calls : List (Call ToolStation)} {report : Report}
    (h : HeldBack Moves arguments file tool calls report) :
    ∀ call ∈ calls, isOpening call.op = false := by
  cases h with
  | cycleArguments => exact fun _ => isOpening_of_mem_loaded
  | readerMode | order => exact List.forall_mem_nil _
  | cycleSettings | readerSettings | nothing | orderSettings =>
    exact List.forall_mem_singleton.mpr rfl

/-- What is held back is not accepted. -/
theorem HeldBack.not_accepts {calls : List (Call ToolStation)} {report : Report}
    (h : HeldBack Moves arguments file tool calls report) (opening : ToolStation.Op) :
    ¬Accepts Moves arguments file tool opening := by
  intro haccepts
  cases haccepts with
  | cycle hsettings hrequest =>
    cases h with
    | cycleSettings hfault => cases hsettings.symm.trans hfault
    | cycleArguments _ hfailure => cases hrequest.symm.trans hfailure
  | reading hmode hsettings =>
    cases h with
    | readerMode hfailure => cases hmode.symm.trans hfailure
    | readerSettings _ hfault => cases hsettings.symm.trans hfault
  | pouring horder hmoves hsettings =>
    cases h with
    | order hfailure => cases horder.symm.trans hfailure
    | nothing hother hstill =>
      obtain rfl := Except.ok.inj (horder.symm.trans hother)
      exact hstill hmoves
    | orderSettings _ _ hfault => cases hsettings.symm.trans hfault

/-- What is accepted is hardware to be opened. -/
theorem Accepts.isOpening_eq_true {opening : ToolStation.Op}
    (h : Accepts Moves arguments file tool opening) : isOpening opening = true := by
  cases h <;> rfl

/-- Only one piece of hardware is opened for what is accepted. -/
theorem Accepts.unique {opening other : ToolStation.Op}
    (h : Accepts Moves arguments file tool opening)
    (hother : Accepts Moves arguments file tool other) : other = opening := by
  cases h with
  | cycle hsettings =>
    cases hother with
    | cycle hsettings' => rw [Except.ok.inj (hsettings'.symm.trans hsettings)]
  | reading _ hsettings =>
    cases hother with
    | reading _ hsettings' => rw [Except.ok.inj (hsettings'.symm.trans hsettings)]
  | pouring _ _ hsettings =>
    cases hother with
    | pouring _ _ hsettings' => rw [Except.ok.inj (hsettings'.symm.trans hsettings)]

end

end DrinkMixer
