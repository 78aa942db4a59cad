import DrinkMixer.Proofs.Program.Moments
import DrinkMixer.Proofs.Tag.ChipSteps

/-!
# What the chip remembers of the past

The chip is asked for one thing after another, in any order. What it does about each is told by what
came of those before: whether a tag answered and was not singled out since (`Awaited`), what it
answered (`Awaits`), and which tag was singled out last and not let go of since (`Current`).

Main statements: `Tracks.snoc`, the memory keeps track of all three, and `exchange_obeys`,
everything the chip is asked for is done in a way that the past allows.
-/

namespace DrinkMixer

/-- Something of a kind happened, and nothing of another kind since. -/
def Since {α : Type} (Mark Spoils : α → Prop) (history : List α) : Prop :=
  ∃ before x after, history = before ++ x :: after ∧ Mark x ∧ ∀ y ∈ after, ¬Spoils y

section Since

variable {α : Type} {Mark Spoils : α → Prop} {history : List α} {x : α}

theorem not_since_nil : ¬Since Mark Spoils [] := by
  rintro ⟨before, x, after, h, _⟩
  cases List.append_eq_nil_iff.mp h.symm |>.2

/-- It happened just now, or before and was not spoilt just now. -/
theorem since_snoc_iff :
    Since Mark Spoils (history ++ [x]) ↔ Mark x ∨ Since Mark Spoils history ∧ ¬Spoils x := by
  constructor
  · rintro ⟨before, y, after, hsplit, hmark, hnone⟩
    rcases List.eq_nil_or_concat after with rfl | ⟨later, last, rfl⟩
    · obtain ⟨_, hlast⟩ := List.append_inj' hsplit rfl
      obtain rfl := List.singleton_inj.mp hlast
      exact Or.inl hmark
    · rw [List.concat_eq_append, ← List.cons_append, ← List.append_assoc] at hsplit
      obtain ⟨rfl, hlast⟩ := List.append_inj' hsplit rfl
      obtain rfl := List.singleton_inj.mp hlast
      rw [List.concat_eq_append, List.forall_mem_append] at hnone
      exact Or.inr ⟨⟨before, y, later, rfl, hmark, hnone.1⟩, hnone.2 x List.mem_cons_self⟩
  · rintro (hmark | ⟨⟨before, y, after, rfl, hmark, hnone⟩, hx⟩)
    · exact ⟨history, x, [], rfl, hmark, List.forall_mem_nil _⟩
    · refine ⟨before, y, after ++ [x], by simp, hmark, ?_⟩
      rw [List.forall_mem_append, List.forall_mem_singleton]
      exact ⟨hnone, hx⟩

end Since

namespace TagChip

variable {ρ : Type}

/-! ### What came of requests -/

/-- What came of one request: its answer, and the commands that the chip was given for it. -/
structure Exchange (ρ : Type) where
  call : Call Card
  commands : List (Call (TagChip ρ))

/-- What was answered when tags were asked for. -/
def answered? : Call (TagChip ρ) → Option ρ
  | ⟨.reqa, .ok atqa⟩ => some atqa
  | _ => none

/-- The tag that a command selected. -/
def selected? : Call (TagChip ρ) → Option Uid
  | ⟨.select _, .ok uid⟩ => some uid
  | _ => none

/-- The chip was to select a tag, or a tag refused the key. -/
def dropsTag : Call (TagChip ρ) → Bool
  | ⟨.select _, _⟩ => true
  | ⟨.authenticate _ _ _, .error fault⟩ => !fault.isTransfer
  | _ => false

namespace Exchange

/-- A tag answered. -/
def answered : Exchange ρ → Bool
  | ⟨⟨.request, .ok .ok⟩, _⟩ => true
  | _ => false

/-- What a tag answered. -/
def answered? : Exchange ρ → Option ρ
  | ⟨⟨.request, .ok .ok⟩, commands⟩ => commands.findSome? TagChip.answered?
  | _ => none

/-- Tags were asked for, or one of them was to be singled out. -/
def asksAgain : Exchange ρ → Bool
  | ⟨⟨.request, _⟩, _⟩ => true
  | ⟨⟨.anticollision, _⟩, _⟩ => true
  | _ => false

/-- A block was read. -/
def reads : Exchange ρ → Bool
  | ⟨⟨.read _, .ok _⟩, _⟩ => true
  | _ => false

/-- The tag that the chip selected. -/
def selected? (exchange : Exchange ρ) : Option Uid :=
  exchange.commands.findSome? TagChip.selected?

/-- The tag in hand was let go of. -/
def letsGo (exchange : Exchange ρ) : Bool :=
  exchange.reads || exchange.commands.any dropsTag

/-- A tag that answers was asked for. -/
theorem asksAgain_of_answered {exchange : Exchange ρ} (h : exchange.answered = true) :
    exchange.asksAgain = true := by
  unfold answered at h
  split at h
  · rfl
  · cases h

/-- What a tag answered was asked for. -/
theorem asksAgain_of_answered? {exchange : Exchange ρ} {atqa : ρ}
    (h : exchange.answered? = some atqa) : exchange.asksAgain = true := by
  unfold answered? at h
  split at h
  · rfl
  · cases h

/-- Selecting a tag lets go of the one before. -/
theorem letsGo_of_selected? {exchange : Exchange ρ} {uid : Uid}
    (h : exchange.selected? = some uid) : exchange.letsGo = true := by
  obtain ⟨command, hmem, hselected⟩ := List.exists_of_findSome?_eq_some h
  have hdrops : dropsTag command = true := by
    unfold TagChip.selected? at hselected
    split at hselected
    · rfl
    · cases hselected
  rw [letsGo, List.any_eq_true.mpr ⟨command, hmem, hdrops⟩, Bool.or_true]

end Exchange

/-- The last time tags were asked for one answered, and none was to be singled out since. -/
def Awaited (history : List (Exchange ρ)) : Prop :=
  Since (fun exchange => exchange.answered = true) (fun exchange => exchange.asksAgain = true)
    history

/-- The last time tags were asked for one answered like this, and none was to be singled out
since. -/
def Awaits (history : List (Exchange ρ)) (atqa : ρ) : Prop :=
  Since (fun exchange => exchange.answered? = some atqa)
    (fun exchange => exchange.asksAgain = true) history

/-- The tag is the one that the chip selected last, and was not let go of since. -/
def Current (history : List (Exchange ρ)) (uid : Uid) : Prop :=
  Since (fun exchange => exchange.selected? = some uid) (fun exchange => exchange.letsGo = true)
    history

/-- What the past allows to come of a request. -/
inductive Obeys (history : List (Exchange ρ)) : Exchange ρ → Prop
  /-- A tag answers. -/
  | answered (atqa : ρ) : Obeys history ⟨⟨.request, .ok .ok⟩, [⟨.reqa, .ok atqa⟩]⟩
  /-- No tag answers properly. -/
  | unanswered (fault : Fault) :
    Obeys history ⟨⟨.request, fault.status⟩, [⟨.reqa, .error fault⟩]⟩
  /-- A tag that answered is singled out. -/
  | singledOut (h : Awaited history) (atqa : ρ) (hatqa : Awaits history atqa) (uid : Uid) :
    Obeys history ⟨⟨.anticollision, .ok (some uid)⟩, [⟨.select atqa, .ok uid⟩]⟩
  /-- A tag that answered could not be singled out. -/
  | left (h : Awaited history) (atqa : ρ) (hatqa : Awaits history atqa) (fault : Fault) :
    Obeys history
      ⟨⟨.anticollision, fault.status.map fun _ => none⟩, [⟨.select atqa, .error fault⟩]⟩
  /-- No tag answered that could be singled out. -/
  | unasked (h : ¬Awaited history) : Obeys history ⟨⟨.anticollision, .ok none⟩, []⟩
  /-- The tag in hand is selected already. -/
  | selected (uid : Uid) (h : Current history uid) :
    Obeys history ⟨⟨.select uid, .ok ()⟩, []⟩
  /-- No other tag can be selected. -/
  | notSelected (uid : Uid) (h : ¬Current history uid) :
    Obeys history ⟨⟨.select uid, .error .noTagSelected⟩, []⟩
  /-- A block of the tag in hand is opened, whatever tag was named. -/
  | opened (uid : Uid) (h : Current history uid) (block : UInt8) (key : AuthKey) (named : Uid) :
    Obeys history ⟨⟨.authenticate block key named, .ok .ok⟩,
      [⟨.authenticate uid block key, .ok ()⟩]⟩
  /-- The chip could not be reached to open a block of the tag in hand. -/
  | unreachable (uid : Uid) (h : Current history uid) (block : UInt8) (key : AuthKey) (named : Uid)
      (fault : Fault) (htransfer : fault.isTransfer = true) :
    Obeys history ⟨⟨.authenticate block key named, .error .transport⟩,
      [⟨.authenticate uid block key, .error fault⟩]⟩
  /-- The tag in hand refused the key. -/
  | refused (uid : Uid) (h : Current history uid) (block : UInt8) (key : AuthKey) (named : Uid)
      (fault : Fault) (status : TagStatus) (hstatus : fault.status = .ok status)
      (stopped : Except Fault Unit) :
    Obeys history ⟨⟨.authenticate block key named, .ok status⟩,
      [⟨.authenticate uid block key, .error fault⟩, ⟨.stopCrypto, stopped⟩]⟩
  /-- There is no tag in hand to open a block of. -/
  | notOpened (h : ∀ uid, ¬Current history uid) (block : UInt8) (key : AuthKey) (named : Uid) :
    Obeys history ⟨⟨.authenticate block key named, .error .noTagSelected⟩, []⟩
  /-- A block of the tag in hand is read. -/
  | read (uid : Uid) (h : Current history uid) (block : UInt8) (data : Block)
      (halted stopped : Except Fault Unit) :
    Obeys history ⟨⟨.read block, .ok data⟩,
      [⟨.read block, .ok data⟩, ⟨.halt, halted⟩, ⟨.stopCrypto, stopped⟩]⟩
  /-- A block of the tag in hand could not be read. -/
  | unread (uid : Uid) (h : Current history uid) (block : UInt8) (fault : Fault) :
    Obeys history ⟨⟨.read block, .error fault.readFault⟩, [⟨.read block, .error fault⟩]⟩
  /-- There is no tag in hand to read a block of. -/
  | notRead (h : ∀ uid, ¬Current history uid) (block : UInt8) :
    Obeys history ⟨⟨.read block, .error .noTagSelected⟩, []⟩

/-! ### Memory and past -/

/-- The memory is what the past makes it. -/
structure Tracks (history : List (Exchange ρ)) (memory : Memory ρ) : Prop where
  /-- It is remembered whether a tag answered. -/
  awaited : memory.answered.isSome = true ↔ Awaited history
  /-- It is remembered what it answered. -/
  awaits : ∀ atqa, memory.answered = some atqa ↔ Awaits history atqa
  /-- It is remembered which tag is in hand. -/
  current : ∀ uid, memory.selected = some uid ↔ Current history uid

theorem tracks_nil : Tracks [] ({} : Memory ρ) where
  awaited := iff_of_false Bool.false_ne_true not_since_nil
  awaits _ := iff_of_false nofun not_since_nil
  current _ := iff_of_false nofun not_since_nil

variable {history : List (Exchange ρ)} {memory after : Memory ρ}

/-- The memory goes on keeping track of the past if it changes just as that does. -/
theorem Tracks.snoc {exchange : Exchange ρ} (h : Tracks history memory)
    (hanswered : after.answered =
      if exchange.asksAgain then exchange.answered? else memory.answered)
    (hok : exchange.answered?.isSome = exchange.answered)
    (hselected : after.selected =
      if exchange.letsGo then exchange.selected? else memory.selected) :
    Tracks (history ++ [exchange]) after where
  -- each fact is kept by an exchange that does not bear on it, and set anew by one that does
  awaited := by
    rw [hanswered, Awaited, since_snoc_iff, ← Awaited, ← h.awaited]
    split_ifs with hasks
    · simp [hasks, hok]
    · have hnot : exchange.answered ≠ true := mt Exchange.asksAgain_of_answered hasks
      simp [hasks, hnot]
  awaits atqa := by
    rw [hanswered, Awaits, since_snoc_iff, ← Awaits, ← h.awaits]
    split_ifs with hasks
    · simp [hasks]
    · have hnot : exchange.answered? ≠ some atqa := mt Exchange.asksAgain_of_answered? hasks
      simp [hasks, hnot]
  current uid := by
    rw [hselected, Current, since_snoc_iff, ← Current, ← h.current]
    split_ifs with hgo
    · simp [hgo]
    · have hnot : exchange.selected? ≠ some uid := mt Exchange.letsGo_of_selected? hgo
      simp [hgo, hnot]

theorem Tracks.not_current (h : Tracks history memory) (hselected : memory.selected = none)
    (uid : Uid) : ¬Current history uid := by
  rw [← h.current, hselected]
  exact nofun

/-! ### Steps -/

section Steps

variable {calls : List (Call (ChipBoard ρ))}

theorem step_request (h : Tracks history memory) {answer : Except TagFault TagStatus}
    (hpath : Path request memory calls answer after) :
    Obeys history ⟨⟨.request, answer⟩, commands calls⟩ ∧
      Tracks (history ++ [⟨⟨.request, answer⟩, commands calls⟩]) after := by
  obtain ⟨atqa, hcommands, rfl, rfl⟩ | ⟨fault, hcommands, rfl, rfl⟩ := request_path hpath
  · rw [hcommands]
    exact ⟨.answered atqa, h.snoc rfl rfl rfl⟩
  · rw [hcommands]
    refine ⟨.unanswered fault, h.snoc ?_ ?_ rfl⟩ <;> cases fault <;> rfl

theorem step_anticollision (h : Tracks history memory) {answer : Except TagFault (Option Uid)}
    (hpath : Path anticollision memory calls answer after) :
    Obeys history ⟨⟨.anticollision, answer⟩, commands calls⟩ ∧
      Tracks (history ++ [⟨⟨.anticollision, answer⟩, commands calls⟩]) after := by
  cases hanswered : memory.answered with
  | some atqa =>
    have hawaits := (h.awaits atqa).mp hanswered
    have hawaited : Awaited history := by
      rw [← h.awaited, hanswered]
      rfl
    obtain ⟨uid, hcommands, rfl, rfl⟩ | ⟨fault, hcommands, rfl, rfl⟩ :=
      anticollision_path_of_some hanswered hpath
    · rw [hcommands]
      exact ⟨.singledOut hawaited atqa hawaits uid, h.snoc rfl rfl rfl⟩
    · rw [hcommands]
      exact ⟨.left hawaited atqa hawaits fault, h.snoc rfl rfl rfl⟩
  | none =>
    obtain ⟨rfl, rfl, rfl⟩ := anticollision_path_of_none hanswered hpath
    have hawaited : ¬Awaited history := by
      rw [← h.awaited, hanswered]
      exact Bool.false_ne_true
    exact ⟨.unasked hawaited, h.snoc hanswered rfl rfl⟩

theorem step_select (h : Tracks history memory) {uid : Uid} {answer : Except TagFault Unit}
    (hpath : Path (select uid) memory calls answer after) :
    Obeys history ⟨⟨.select uid, answer⟩, commands calls⟩ ∧
      Tracks (history ++ [⟨⟨.select uid, answer⟩, commands calls⟩]) after := by
  obtain ⟨hcommands, rfl, rfl⟩ := select_path hpath
  rw [hcommands]
  refine ⟨?_, h.snoc rfl rfl rfl⟩
  split_ifs with hselected
  · exact .selected uid ((h.current uid).mp hselected)
  · exact .notSelected uid fun hcurrent => hselected ((h.current uid).mpr hcurrent)

theorem step_authenticate (h : Tracks history memory) {block : UInt8} {key : AuthKey} {named : Uid}
    {answer : Except TagFault TagStatus}
    (hpath : Path (authenticate block key) memory calls answer after) :
    Obeys history ⟨⟨.authenticate block key named, answer⟩, commands calls⟩ ∧
      Tracks (history ++ [⟨⟨.authenticate block key named, answer⟩, commands calls⟩]) after := by
  cases hselected : memory.selected with
  | none =>
    obtain ⟨rfl, rfl, rfl⟩ := authenticate_path_of_none hselected hpath
    exact ⟨.notOpened (h.not_current hselected) block key named, h.snoc rfl rfl rfl⟩
  | some uid =>
    have hcurrent := (h.current uid).mp hselected
    obtain ⟨hcommands, rfl, rfl⟩ | ⟨fault, htransfer, hcommands, rfl, rfl⟩ |
      ⟨fault, reply, htransfer, hcommands, rfl, rfl⟩ :=
        authenticate_path_of_selected hselected hpath
    · rw [hcommands]
      exact ⟨.opened uid hcurrent block key named, h.snoc rfl rfl rfl⟩
    · rw [hcommands]
      refine ⟨.unreachable uid hcurrent block key named fault htransfer, h.snoc rfl rfl ?_⟩
      -- the tag stays in hand: it is not to blame for a chip that could not be reached
      cases fault with
      | transfer => rfl
      | _ => cases htransfer
    · obtain ⟨status, hstatus, _⟩ := Fault.status_of_not_isTransfer htransfer
      rw [hcommands, hstatus]
      refine ⟨.refused uid hcurrent block key named fault status hstatus reply, h.snoc rfl rfl ?_⟩
      cases fault with
      | transfer => cases htransfer
      | _ => rfl

theorem step_read (h : Tracks history memory) {block : UInt8} {answer : Except TagFault Block}
    (hpath : Path (readBlock block) memory calls answer after) :
    Obeys history ⟨⟨.read block, answer⟩, commands calls⟩ ∧
      Tracks (history ++ [⟨⟨.read block, answer⟩, commands calls⟩]) after := by
  cases hselected : memory.selected with
  | none =>
    obtain ⟨rfl, rfl, rfl⟩ := readBlock_path_of_none hselected hpath
    exact ⟨.notRead (h.not_current hselected) block, h.snoc rfl rfl rfl⟩
  | some uid =>
    have hcurrent := (h.current uid).mp hselected
    obtain ⟨fault, hcommands, rfl, rfl⟩ | ⟨data, halted, stopped, hcommands, rfl, rfl⟩ :=
      readBlock_path_of_selected hselected hpath
    · rw [hcommands]
      exact ⟨.unread uid hcurrent block fault, h.snoc rfl rfl rfl⟩
    · rw [hcommands]
      exact ⟨.read uid hcurrent block data halted stopped, h.snoc rfl rfl rfl⟩

/-- Whatever is asked for, the past allows what comes of it, and the memory keeps track. -/
theorem Tracks.step (h : Tracks history memory) {op : Card.Op} {answer : Card.Answer op}
    (hpath : Program.Path ((onChip op).run memory) calls (answer, after)) :
    Obeys history ⟨⟨op, answer⟩, commands calls⟩ ∧
      Tracks (history ++ [⟨⟨op, answer⟩, commands calls⟩]) after := by
  cases op with
  | request => exact step_request h hpath
  | anticollision => exact step_anticollision h hpath
  | select uid => exact step_select h hpath
  | authenticate block key named => exact step_authenticate h hpath
  | read block => exact step_read h hpath

end Steps

/-! ### Runs -/

section Runs

variable {σ : Type}

/-- What comes of a request. -/
def exchange (w : World (ChipBoard ρ) σ) (op : Card.Op) (state : Memory ρ × σ) : Exchange ρ where
  call := ⟨op, ((onChip.world w).answer op state).1⟩
  commands := commands (((onChip op).run state.1).calls w state.2)

/-- What comes of requests one after another. -/
def exchanges (w : World (ChipBoard ρ) σ) : List Card.Op → Memory ρ × σ → List (Exchange ρ)
  | [], _ => []
  | op :: ops, state => exchange w op state :: exchanges w ops ((onChip.world w).answer op state).2

theorem Tracks.of_exchange (h : Tracks history memory) (w : World (ChipBoard ρ) σ) (op : Card.Op)
    (s : σ) :
    Obeys history (exchange w op (memory, s)) ∧
      Tracks (history ++ [exchange w op (memory, s)])
        ((onChip.world w).answer op (memory, s)).2.1 :=
  h.step (Program.path_calls w ((onChip op).run memory) s)

/-- The memory keeps track of any number of requests. -/
theorem Tracks.of_exchanges (h : Tracks history memory) (w : World (ChipBoard ρ) σ)
    (ops : List Card.Op) (s : σ) :
    Tracks (history ++ exchanges w ops (memory, s))
      ((onChip.world w).after ops (memory, s)).1 := by
  induction ops generalizing history memory s with
  | nil =>
    rw [exchanges, List.append_nil]
    exact h
  | cons op ops ih =>
    rw [exchanges, List.append_cons, World.after_cons]
    exact ih (h.of_exchange w op s).2 _

/-- On a fresh reader, whatever was asked for before and whatever the chip answered, what comes of
the next request is what the past allows. -/
theorem exchange_obeys (w : World (ChipBoard ρ) σ) (s : σ) (before : List Card.Op) (op : Card.Op) :
    Obeys (exchanges w before ({}, s))
      (exchange w op ((onChip.world w).after before ({}, s))) := by
  have htracks : Tracks (exchanges w before ({}, s)) ((onChip.world w).after before ({}, s)).1 :=
    tracks_nil.of_exchanges w before s
  exact (htracks.of_exchange w op _).1

end Runs

end TagChip

end DrinkMixer
