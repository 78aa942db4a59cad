import DrinkMixer.Proofs.Program.Path
import DrinkMixer.Tag.Chip

/-!
# How the contactless reader chip carries out requests

For each request of the tag reader, the commands that the chip can be given for it, with every
answer the chip can make, the answer handed back, and the memory left behind.

Main statements: `request_path`, `anticollision_path_of_some`, `select_path`,
`authenticate_path_of_selected` and `readBlock_path_of_selected`, one for each request.
-/

namespace DrinkMixer.TagChip

variable {ρ : Type}

/-! ### Commands and faults -/

/-- The commands among calls to the chip and others. -/
def commands {T : Signature} (calls : List (Call ((TagChip ρ).sum T))) : List (Call (TagChip ρ)) :=
  calls.filterMap Call.left?

/-- A command with its answer, among what carrying out requests needs. -/
def given (call : Call (TagChip ρ)) : Call (ChipBoard ρ) :=
  ⟨.inl call.op, call.answer⟩

/-- A record put into the log. -/
def logged (level : LogLevel) (text : String) : Call (ChipBoard ρ) :=
  ⟨.inr (.note ⟨level, text⟩), ()⟩

/-- What is made of a fault: the chip could not be reached, or a tag misbehaved. -/
def Fault.status : Fault → Except TagFault TagStatus
  | .timeout => .ok .noTag
  | .transfer _ => .error .transport
  | _ => .ok .error

/-- What is made of a fault when a block is read. -/
def Fault.readFault : Fault → TagFault
  | .transfer _ => .transport
  | _ => .protocol

/-- The chip could not be reached. -/
def Fault.isTransfer : Fault → Bool
  | .transfer _ => true
  | _ => false

theorem Fault.status_of_isTransfer {fault : Fault} (h : fault.isTransfer = true) :
    fault.status = .error .transport := by
  cases fault <;> simp_all [isTransfer, status]

/-- A fault that is not one of the transfer is a tag that misbehaved. -/
theorem Fault.status_of_not_isTransfer {fault : Fault} (h : fault.isTransfer = false) :
    ∃ status, fault.status = .ok status ∧ status ≠ .ok := by
  cases fault <;> simp_all [isTransfer, status]

theorem Fault.status_ne_ok (fault : Fault) : fault.status ≠ .ok .ok := by
  cases fault <;> simp [status]

/-- Only a chip that could not be reached makes a request fail. -/
theorem Fault.status_eq_error {fault : Fault} {failure : TagFault}
    (h : fault.status = .error failure) : failure = .transport ∧ fault.isTransfer = true := by
  cases fault <;> simp_all [isTransfer, status]

theorem Fault.status_eq_ok {fault : Fault} {status : TagStatus} (h : fault.status = .ok status) :
    fault.isTransfer = false := by
  cases fault <;> simp_all [isTransfer, Fault.status]

theorem Fault.status_map_eq_error {fault : Fault} {failure : TagFault} {α : Type}
    {f : TagStatus → α} (h : fault.status.map f = .error failure) :
    failure = .transport ∧ fault.isTransfer = true := by
  cases hstatus : fault.status with
  | error other =>
    rw [hstatus] at h
    cases h
    exact Fault.status_eq_error hstatus
  | ok status =>
    rw [hstatus] at h
    cases h

theorem Fault.status_map_eq_ok {fault : Fault} {α : Type} {f : TagStatus → α} {value : α}
    (h : fault.status.map f = .ok value) : fault.isTransfer = false := by
  cases hstatus : fault.status with
  | error other =>
    rw [hstatus] at h
    cases h
  | ok status => exact Fault.status_eq_ok hstatus

section Commands

variable {T : Signature}

@[simp] theorem commands_nil : commands ([] : List (Call ((TagChip ρ).sum T))) = [] := rfl

@[simp] theorem commands_append (first second : List (Call ((TagChip ρ).sum T))) :
    commands (first ++ second) = commands first ++ commands second :=
  List.filterMap_append

@[simp] theorem commands_given (call : Call (TagChip ρ)) (calls : List (Call (ChipBoard ρ))) :
    commands (given call :: calls) = call :: commands calls := rfl

@[simp] theorem commands_logged (level : LogLevel) (text : String)
    (calls : List (Call (ChipBoard ρ))) :
    commands (logged level text :: calls) = commands calls := rfl

end Commands

/-! ### One step after another -/

variable {α β : Type} {before after : Memory ρ} {calls : List (Call (ChipBoard ρ))} {value : β}

/-- A way of a procedure from one memory to another, with the calls made and the value. -/
def Path (p : ChipProcedure ρ α) (before : Memory ρ) (calls : List (Call (ChipBoard ρ)))
    (value : α) (after : Memory ρ) : Prop :=
  Program.Path (p.run before) calls (value, after)

theorem path_pure_iff {final : β} :
    Path (pure final) before calls value after ↔ calls = [] ∧ value = final ∧ after = before := by
  show Program.Path (.done (final, before)) calls (value, after) ↔ _
  rw [Program.path_done_iff, Prod.mk.injEq]

theorem path_bind_iff {p : ChipProcedure ρ α} {f : α → ChipProcedure ρ β} :
    Path (p >>= f) before calls value after ↔
      ∃ x middle first second, Path p before first x middle ∧ Path (f x) middle second value after ∧
        calls = first ++ second := by
  unfold Path
  rw [StateT.run_bind, Program.path_bind_iff]
  constructor
  · rintro ⟨⟨x, middle⟩, first, second, hfirst, hsecond, rfl⟩
    exact ⟨x, middle, first, second, hfirst, hsecond, rfl⟩
  · rintro ⟨x, middle, first, second, hfirst, hsecond, rfl⟩
    exact ⟨(x, middle), first, second, hfirst, hsecond, rfl⟩

theorem path_get_bind_iff {f : Memory ρ → ChipProcedure ρ β} :
    Path (get >>= f) before calls value after ↔ Path (f before) before calls value after :=
  Iff.rfl

theorem path_modify_bind_iff {change : Memory ρ → Memory ρ} {f : Unit → ChipProcedure ρ β} :
    Path (modify change >>= f) before calls value after ↔
      Path (f ()) (change before) calls value after :=
  Iff.rfl

theorem path_forget_bind_iff {f : Unit → ChipProcedure ρ β} :
    Path (forget >>= f) before calls value after ↔
      Path (f ()) { before with selected := none } calls value after :=
  Iff.rfl

/-- A path through a call and what follows it. -/
theorem path_call_bind_iff {S : Signature} [Offers (ChipBoard ρ) S] {op : S.Op}
    {f : S.Answer op → ChipProcedure ρ β} :
    Path (StateT.lift (Program.request op) >>= f) before calls value after ↔
      ∃ answer rest, Path (f (Offers.back op answer)) before rest value after ∧
        calls = ⟨Offers.inject op, answer⟩ :: rest := by
  have hrun : (StateT.lift (Program.request op) >>= f).run before =
      .ask (Offers.inject op) fun answer => (f (Offers.back op answer)).run before := rfl
  unfold Path
  rw [hrun]
  exact Program.path_ask_iff

theorem path_command_bind_iff {asked : Request ρ} {f : asked.Answer → ChipProcedure ρ β} :
    Path (command asked >>= f) before calls value after ↔
      ∃ answer rest, Path (f answer) before rest value after ∧
        calls = given ⟨asked, answer⟩ :: rest :=
  path_call_bind_iff

theorem path_note_bind_iff {level : LogLevel} {text : String} {f : Unit → ChipProcedure ρ β} :
    Path (note level text >>= f) before calls value after ↔
      ∃ rest, Path (f ()) before rest value after ∧ calls = logged level text :: rest := by
  rw [note, Program.note, path_call_bind_iff]
  exact ⟨fun ⟨(), rest, h⟩ => ⟨rest, h⟩, fun ⟨rest, h⟩ => ⟨(), rest, h⟩⟩

/-! ### Faults -/

/-- Telling faults apart takes no command. -/
theorem classify_path {operation : String} {fault : Fault} {answer : Except TagFault TagStatus}
    (h : Path (classify operation fault) before calls answer after) :
    commands calls = [] ∧ answer = fault.status ∧ after = before := by
  unfold classify at h
  split at h
  · obtain ⟨rfl, rfl, rfl⟩ := path_pure_iff.mp h
    exact ⟨rfl, rfl, rfl⟩
  · obtain ⟨_, hdone, rfl⟩ := path_note_bind_iff.mp h
    obtain ⟨rfl, rfl, rfl⟩ := path_pure_iff.mp hdone
    exact ⟨rfl, rfl, rfl⟩
  · obtain ⟨_, hdone, rfl⟩ := path_note_bind_iff.mp h
    obtain ⟨rfl, rfl, rfl⟩ := path_pure_iff.mp hdone
    refine ⟨rfl, ?_, rfl⟩
    cases fault <;> simp_all [Fault.status]

theorem readFault_path {block : UInt8} {fault : Fault} {answer : TagFault}
    (h : Path (readFault block fault) before calls answer after) :
    commands calls = [] ∧ answer = fault.readFault ∧ after = before := by
  unfold readFault at h
  split at h
  · obtain ⟨_, hdone, rfl⟩ := path_note_bind_iff.mp h
    obtain ⟨rfl, rfl, rfl⟩ := path_pure_iff.mp hdone
    exact ⟨rfl, rfl, rfl⟩
  · obtain ⟨_, hdone, rfl⟩ := path_note_bind_iff.mp h
    obtain ⟨rfl, rfl, rfl⟩ := path_pure_iff.mp hdone
    refine ⟨rfl, ?_, rfl⟩
    cases fault <;> simp_all [Fault.readFault]

/-! ### Requests -/

/-- Asking for a tag is one command, and what a tag answers is remembered. -/
theorem request_path {answer : Except TagFault TagStatus}
    (h : Path request before calls answer after) :
    (∃ atqa, commands calls = [⟨.reqa, .ok atqa⟩] ∧ answer = .ok .ok ∧
      after = { before with answered := some atqa }) ∨
    ∃ fault, commands calls = [⟨.reqa, .error fault⟩] ∧ answer = fault.status ∧
      after = { before with answered := none } := by
  obtain ⟨reply, _, hrest, rfl⟩ := path_command_bind_iff.mp h
  rcases reply with fault | atqa
  · obtain ⟨hcommands, rfl, rfl⟩ := classify_path (path_modify_bind_iff.mp hrest)
    exact Or.inr ⟨fault, by rw [commands_given, hcommands], rfl, rfl⟩
  · have hdone : Path (pure (.ok .ok)) { before with answered := some atqa } _ answer after := hrest
    obtain ⟨rfl, rfl, rfl⟩ := path_pure_iff.mp hdone
    exact Or.inl ⟨atqa, rfl, rfl, rfl⟩

/-- Any tag that was selected can be taken in hand, as no identifier is too long to be copied. -/
theorem hold_eq (uid : Uid) : (hold uid : ChipProcedure ρ (Except TagFault (Option Uid))) =
    (modify fun memory => { memory with selected := some uid }) >>= fun _ =>
      pure (.ok (some uid)) := by
  rw [hold, uid.ofBytes?_bytes]

/-- A tag that answered is singled out by one command, which names what was answered. -/
theorem anticollision_path_of_some {atqa : ρ} {answer : Except TagFault (Option Uid)}
    (hanswered : before.answered = some atqa) (h : Path anticollision before calls answer after) :
    (∃ uid, commands calls = [⟨.select atqa, .ok uid⟩] ∧ answer = .ok (some uid) ∧
      after = { answered := none, selected := some uid }) ∨
    ∃ fault, commands calls = [⟨.select atqa, .error fault⟩] ∧
      answer = fault.status.map (fun _ => none) ∧ after = {} := by
  unfold anticollision at h
  rw [path_get_bind_iff, hanswered] at h
  obtain ⟨reply, _, hrest, rfl⟩ := path_command_bind_iff.mp (path_modify_bind_iff.mp h)
  rcases reply with fault | uid
  · obtain ⟨status, _, _, _, hclassify, hdone, rfl⟩ :=
      path_bind_iff.mp (path_modify_bind_iff.mp hrest)
    obtain ⟨hcommands, rfl, rfl⟩ := classify_path hclassify
    obtain ⟨rfl, rfl, rfl⟩ := path_pure_iff.mp hdone
    exact Or.inr ⟨fault, by rw [commands_given, List.append_nil, hcommands], rfl, rfl⟩
  · have hhold : Path (hold uid) { before with answered := none } _ answer after := hrest
    rw [hold_eq, path_modify_bind_iff] at hhold
    obtain ⟨rfl, rfl, rfl⟩ := path_pure_iff.mp hhold
    exact Or.inl ⟨uid, rfl, rfl, rfl⟩

theorem anticollision_path_of_none {answer : Except TagFault (Option Uid)}
    (hanswered : before.answered = none) (h : Path anticollision before calls answer after) :
    calls = [] ∧ answer = .ok none ∧ after = before := by
  unfold anticollision at h
  rw [path_get_bind_iff, hanswered] at h
  exact path_pure_iff.mp h

/-- Selecting a tag takes no command, but it has to be the one in hand. -/
theorem select_path {uid : Uid} {answer : Except TagFault Unit}
    (h : Path (select uid) before calls answer after) :
    commands calls = [] ∧ after = before ∧
      answer = if before.selected = some uid then .ok () else .error .noTagSelected := by
  unfold select at h
  rw [path_get_bind_iff] at h
  split_ifs at h ⊢ <;> obtain ⟨rfl, rfl, rfl⟩ := path_pure_iff.mp h <;> exact ⟨rfl, rfl, rfl⟩

/-- Noting a failure takes no command. -/
theorem noteFailure_path {operation : String} {reply : Except Fault Unit} {x : Unit}
    (h : Path (noteFailure operation reply) before calls x after) :
    commands calls = [] ∧ after = before := by
  rcases reply with fault | ⟨⟩
  · rw [noteFailure, ← bind_pure (note _ _)] at h
    obtain ⟨_, hdone, rfl⟩ := path_note_bind_iff.mp h
    obtain ⟨rfl, _, rfl⟩ := path_pure_iff.mp hdone
    exact ⟨rfl, rfl⟩
  · obtain ⟨rfl, _, rfl⟩ := path_pure_iff.mp h
    exact ⟨rfl, rfl⟩

/-- Stopping the encryption is one command, whatever comes of it. -/
theorem stopCrypto_path {x : Unit} (h : Path stopCrypto before calls x after) :
    ∃ reply, commands calls = [⟨.stopCrypto, reply⟩] ∧ after = before := by
  obtain ⟨reply, _, hrest, rfl⟩ := path_command_bind_iff.mp h
  obtain ⟨hcommands, rfl⟩ := noteFailure_path hrest
  exact ⟨reply, by rw [commands_given, hcommands], rfl⟩

/-- Halting a tag is one command, whatever comes of it. -/
theorem halt_path {x : Unit} (h : Path halt before calls x after) :
    ∃ reply, commands calls = [⟨.halt, reply⟩] ∧ after = before := by
  obtain ⟨reply, _, hrest, rfl⟩ := path_command_bind_iff.mp h
  obtain ⟨hcommands, rfl⟩ := noteFailure_path hrest
  exact ⟨reply, by rw [commands_given, hcommands], rfl⟩

theorem authenticate_path_of_none {block : UInt8} {key : AuthKey}
    {answer : Except TagFault TagStatus} (hselected : before.selected = none)
    (h : Path (authenticate block key) before calls answer after) :
    calls = [] ∧ answer = .error .noTagSelected ∧ after = before := by
  unfold authenticate at h
  rw [path_get_bind_iff, hselected] at h
  exact path_pure_iff.mp h

theorem readBlock_path_of_none {block : UInt8} {answer : Except TagFault Block}
    (hselected : before.selected = none) (h : Path (readBlock block) before calls answer after) :
    calls = [] ∧ answer = .error .noTagSelected ∧ after = before := by
  unfold readBlock at h
  rw [path_get_bind_iff, hselected] at h
  exact path_pure_iff.mp h

/-- Opening a block of the tag in hand is one command, after which the encryption is stopped if a
tag is to blame for a failure. -/
theorem authenticate_path_of_selected {block : UInt8} {key : AuthKey} {uid : Uid}
    {answer : Except TagFault TagStatus} (hselected : before.selected = some uid)
    (h : Path (authenticate block key) before calls answer after) :
    (commands calls = [⟨.authenticate uid block key, .ok ()⟩] ∧ answer = .ok .ok ∧
      after = before) ∨
    (∃ fault, fault.isTransfer = true ∧
      commands calls = [⟨.authenticate uid block key, .error fault⟩] ∧
      answer = .error .transport ∧ after = before) ∨
    ∃ fault reply, fault.isTransfer = false ∧
      commands calls = [⟨.authenticate uid block key, .error fault⟩, ⟨.stopCrypto, reply⟩] ∧
      answer = fault.status ∧ after = { before with selected := none } := by
  unfold authenticate at h
  rw [path_get_bind_iff, hselected] at h
  obtain ⟨reply, _, hrest, rfl⟩ := path_command_bind_iff.mp h
  -- an opened block leaves the tag in hand, a refused key does not
  rcases reply with fault | ⟨⟩
  · obtain ⟨status, _, _, _, hclassify, hmatch, rfl⟩ := path_bind_iff.mp hrest
    obtain ⟨hcommands, rfl, rfl⟩ := classify_path hclassify
    cases htransfer : fault.isTransfer with
    | true =>
      rw [Fault.status_of_isTransfer htransfer] at hmatch
      obtain ⟨rfl, rfl, rfl⟩ := path_pure_iff.mp hmatch
      refine Or.inr (Or.inl ⟨fault, htransfer, ?_, rfl, rfl⟩)
      rw [commands_given, List.append_nil, hcommands]
    | false =>
      obtain ⟨status, hstatus, _⟩ := Fault.status_of_not_isTransfer htransfer
      rw [hstatus] at hmatch
      obtain ⟨_, _, _, _, hstop, hforget, rfl⟩ := path_bind_iff.mp hmatch
      obtain ⟨reply, hreply, rfl⟩ := stopCrypto_path hstop
      have hdone := path_forget_bind_iff.mp hforget
      obtain ⟨rfl, rfl, rfl⟩ := path_pure_iff.mp hdone
      refine Or.inr (Or.inr ⟨fault, reply, htransfer, ?_, hstatus.symm, rfl⟩)
      rw [commands_given, List.append_nil, commands_append, hcommands, hreply, List.nil_append]
  · obtain ⟨rfl, rfl, rfl⟩ := path_pure_iff.mp hrest
    exact Or.inl ⟨rfl, rfl, rfl⟩

/-- Reading a block of the tag in hand is one command, after which the tag is halted and the
encryption stopped if it succeeds. -/
theorem readBlock_path_of_selected {block : UInt8} {uid : Uid} {answer : Except TagFault Block}
    (hselected : before.selected = some uid)
    (h : Path (readBlock block) before calls answer after) :
    (∃ fault, commands calls = [⟨.read block, .error fault⟩] ∧
      answer = .error fault.readFault ∧ after = before) ∨
    ∃ data halted stopped, commands calls =
        [⟨.read block, .ok data⟩, ⟨.halt, halted⟩, ⟨.stopCrypto, stopped⟩] ∧
      answer = .ok data ∧ after = { before with selected := none } := by
  unfold readBlock at h
  rw [path_get_bind_iff, hselected] at h
  obtain ⟨reply, _, hrest, rfl⟩ := path_command_bind_iff.mp h
  rcases reply with fault | data
  · obtain ⟨_, _, _, _, hfault, hdone, rfl⟩ := path_bind_iff.mp hrest
    obtain ⟨hcommands, rfl, rfl⟩ := readFault_path hfault
    obtain ⟨rfl, rfl, rfl⟩ := path_pure_iff.mp hdone
    refine Or.inl ⟨fault, ?_, rfl, rfl⟩
    rw [commands_given, List.append_nil, hcommands]
  · obtain ⟨_, _, _, _, hhalt, hmore, rfl⟩ := path_bind_iff.mp hrest
    obtain ⟨halted, hhalted, rfl⟩ := halt_path hhalt
    obtain ⟨_, _, _, _, hstop, hforget, rfl⟩ := path_bind_iff.mp hmore
    obtain ⟨stopped, hstopped, rfl⟩ := stopCrypto_path hstop
    have hdone := path_forget_bind_iff.mp hforget
    obtain ⟨rfl, rfl, rfl⟩ := path_pure_iff.mp hdone
    refine Or.inr ⟨data, halted, stopped, ?_, rfl, rfl⟩
    rw [commands_given, List.append_nil, commands_append, hhalted, hstopped, List.singleton_append]

end DrinkMixer.TagChip
