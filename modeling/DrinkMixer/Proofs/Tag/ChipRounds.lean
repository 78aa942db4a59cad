import DrinkMixer.Proofs.Tag.CardCalls
import DrinkMixer.Proofs.Tag.ChipSteps

/-!
# Rounds of the tag reader on the contactless reader chip

The tag reader with the chip below it (`TagChip.onStation`): whatever the chip answers, the commands
it is given are rounds of eight kinds, listed by `ChipRound` with what each of them returns.

Main statements: `TagRound.chipRound` for one round, and `commands_readTags`, the commands of any
number of runs are rounds one after the other.
-/

namespace DrinkMixer

open TagStation TagChip

variable {ρ : Type}

/-! ### The tag reader with the chip below it -/

/-- What the tag reader asks for when its requests to the contactless reader go to the chip. -/
abbrev ChipStation (ρ : Type) : Signature :=
  (TagChip ρ).sum (PaymentBus.sum (Pins.sum (Stop.sum (Board.sum Progress))))

/-- The chip carries out what is asked of the contactless reader, and all else is handed on. -/
def TagChip.onStation : Realization TagStation (ChipStation ρ) (Memory ρ) :=
  (Realization.lift onChip).sum
    (.direct (PaymentBus.sum (Pins.sum (Stop.sum (Board.sum Progress)))))

/-- Runs for contactless tags one after another, each with so many rounds at most and whatever
comes of those before it; all results are kept. -/
def ReadProcedure.readTags (settings : Settings) :
    List Nat → StateT Standing (Program TagStation) (List (Except Failure (Option ReadOutcome)))
  | [] => pure []
  | fuel :: more => do
    let result ← (ReadProcedure.read settings .uid fuel).run
    return result :: (← readTags settings more)

namespace TagChip

/-- Calls by which a command of the chip is made among other things give the same commands. -/
theorem commands_of_offered {asked : List (Call (ChipBoard ρ))}
    {calls : List (Call (ChipStation ρ))} (h : List.Forall₂ Call.Offered asked calls) :
    commands calls = commands asked := by
  induction h with
  | nil => rfl
  | @cons call _ _ _ head _ ih =>
    cases head with
    | intro op answer =>
      cases op with
      | inl op => exact congrArg (_ :: ·) ih
      | inr op => exact ih

/-- What is carried out for the tag reader is carried out for its calls to the contactless
reader. -/
theorem carries_cardCalls {memory final : Memory ρ} {above : List (Call TagStation)}
    {below : List (Call (ChipStation ρ))} (h : onStation.Carries memory above below final) :
    ∃ calls, onChip.Carries memory (cardCalls above) calls final ∧
      commands below = commands calls := by
  induction h with
  | nil memory => exact ⟨[], .nil memory, rfl⟩
  | @cons memory _ _ op _ _ _ _ head _ ih =>
    obtain ⟨calls, hcalls, hcommands⟩ := ih
    cases op with
    | inl op =>
      -- only here the chip is asked: the lifted path is one of the realization itself
      obtain ⟨asked, hasked, hoffered⟩ := Program.Path.of_lift head
      refine ⟨asked ++ calls, .cons hasked hcalls, ?_⟩
      rw [commands_append, commands_append, hcommands, commands_of_offered hoffered]
    | inr op =>
      have hdirect : Program.Path (Program.request (S := PaymentBus.sum _) op >>=
          fun answer => .done (answer, memory)) _ _ := head
      obtain ⟨_, _, _, hrequest, hdone, rfl⟩ := Program.path_bind_iff.mp hdirect
      obtain ⟨_, rfl, rfl⟩ := Program.path_request_iff.mp hrequest
      obtain ⟨rfl, hfinal⟩ := Program.path_done_iff.mp hdone
      obtain ⟨rfl, rfl⟩ := Prod.mk.inj hfinal
      exact ⟨calls, hcalls, hcommands⟩

/-! ### Requests one after another -/

section Carries

variable {memory final : Memory ρ} {above : List (Call Card)} {calls : List (Call (ChipBoard ρ))}

theorem carries_request {answer : Except TagFault TagStatus}
    (h : onChip.Carries memory (⟨.request, answer⟩ :: above) calls final) :
    ∃ middle rest, onChip.Carries middle above rest final ∧
      ((∃ atqa, answer = .ok .ok ∧ commands calls = ⟨.reqa, .ok atqa⟩ :: commands rest ∧
        middle.answered = some atqa) ∨
      ∃ fault, answer = fault.status ∧
        commands calls = ⟨.reqa, .error fault⟩ :: commands rest) := by
  obtain ⟨middle, first, rest, hfirst, hrest, rfl⟩ := Realization.carries_cons_iff.mp h
  refine ⟨middle, rest, hrest, ?_⟩
  rw [commands_append]
  obtain ⟨atqa, hcommands, hanswer, rfl⟩ | ⟨fault, hcommands, hanswer, rfl⟩ := request_path hfirst
  · exact Or.inl ⟨atqa, hanswer, by rw [hcommands]; rfl, rfl⟩
  · exact Or.inr ⟨fault, hanswer, by rw [hcommands]; rfl⟩

theorem carries_answered (h : onChip.Carries memory (⟨.request, .ok .ok⟩ :: above) calls final) :
    ∃ atqa middle rest, onChip.Carries middle above rest final ∧ middle.answered = some atqa ∧
      commands calls = ⟨.reqa, .ok atqa⟩ :: commands rest := by
  obtain ⟨middle, rest, hrest, ⟨atqa, _, hcommands, hanswered⟩ | ⟨fault, hfault, _⟩⟩ :=
    carries_request h
  · exact ⟨atqa, middle, rest, hrest, hanswered, hcommands⟩
  · exact absurd hfault.symm fault.status_ne_ok

theorem carries_anticollision {atqa : ρ} {answer : Except TagFault (Option Uid)}
    (hanswered : memory.answered = some atqa)
    (h : onChip.Carries memory (⟨.anticollision, answer⟩ :: above) calls final) :
    ∃ middle rest, onChip.Carries middle above rest final ∧
      ((∃ uid, answer = .ok (some uid) ∧
        commands calls = ⟨.select atqa, .ok uid⟩ :: commands rest ∧ middle.selected = some uid) ∨
      ∃ fault, answer = fault.status.map (fun _ => none) ∧
        commands calls = ⟨.select atqa, .error fault⟩ :: commands rest) := by
  obtain ⟨middle, first, rest, hfirst, hrest, rfl⟩ := Realization.carries_cons_iff.mp h
  refine ⟨middle, rest, hrest, ?_⟩
  rw [commands_append]
  obtain ⟨uid, hcommands, hanswer, rfl⟩ | ⟨fault, hcommands, hanswer, rfl⟩ :=
    anticollision_path_of_some hanswered hfirst
  · exact Or.inl ⟨uid, hanswer, by rw [hcommands]; rfl, rfl⟩
  · exact Or.inr ⟨fault, hanswer, by rw [hcommands]; rfl⟩

theorem carries_found {uid : Uid}
    (h : onChip.Carries memory
      (⟨.request, .ok .ok⟩ :: ⟨.anticollision, .ok (some uid)⟩ :: above) calls final) :
    ∃ atqa middle rest, onChip.Carries middle above rest final ∧ middle.selected = some uid ∧
      commands calls = ⟨.reqa, .ok atqa⟩ :: ⟨.select atqa, .ok uid⟩ :: commands rest := by
  obtain ⟨atqa, _, _, hanti, hanswered, hreqa⟩ := carries_answered h
  obtain ⟨middle, rest, hrest, ⟨found, hfound, hselect, hselected⟩ | ⟨fault, hfault, _⟩⟩ :=
    carries_anticollision hanswered hanti
  · obtain rfl : found = uid := by simpa using hfound.symm
    exact ⟨atqa, middle, rest, hrest, hselected, by rw [hreqa, hselect]⟩
  · cases hstatus : fault.status <;> rw [hstatus] at hfault <;> cases hfault

/-- The tag in hand can always be selected. -/
theorem carries_select {uid : Uid} {answer : Except TagFault Unit}
    (hselected : memory.selected = some uid)
    (h : onChip.Carries memory (⟨.select uid, answer⟩ :: above) calls final) :
    answer = .ok () ∧ ∃ rest, onChip.Carries memory above rest final ∧
      commands calls = commands rest := by
  obtain ⟨middle, first, rest, hfirst, hrest, rfl⟩ := Realization.carries_cons_iff.mp h
  obtain ⟨hcommands, rfl, hanswer⟩ := select_path hfirst
  rw [if_pos hselected] at hanswer
  exact ⟨hanswer, rest, hrest, by rw [commands_append, hcommands, List.nil_append]⟩

/-- A tag that is found and selected. -/
theorem carries_selected {uid : Uid} {answer : Except TagFault Unit}
    (h : onChip.Carries memory
      (⟨.request, .ok .ok⟩ :: ⟨.anticollision, .ok (some uid)⟩ :: ⟨.select uid, answer⟩ :: above)
      calls final) :
    answer = .ok () ∧ ∃ atqa middle rest, onChip.Carries middle above rest final ∧
      middle.selected = some uid ∧
      commands calls = ⟨.reqa, .ok atqa⟩ :: ⟨.select atqa, .ok uid⟩ :: commands rest := by
  rcases carries_found h with ⟨atqa, middle, _, hselect, hselected, hfound⟩
  rcases carries_select hselected hselect with ⟨hanswer, rest, hrest, hnone⟩
  refine ⟨hanswer, atqa, middle, rest, hrest, hselected, ?_⟩
  rw [hfound, hnone]

theorem carries_authenticate {block : UInt8} {key : AuthKey} {uid asked : Uid}
    {answer : Except TagFault TagStatus} (hselected : memory.selected = some uid)
    (h : onChip.Carries memory (⟨.authenticate block key asked, answer⟩ :: above) calls final) :
    ∃ middle rest, onChip.Carries middle above rest final ∧
      ((answer = .ok .ok ∧
        commands calls = ⟨.authenticate uid block key, .ok ()⟩ :: commands rest ∧
        middle.selected = some uid) ∨
      (∃ fault, fault.isTransfer = true ∧ answer = .error .transport ∧
        commands calls = ⟨.authenticate uid block key, .error fault⟩ :: commands rest) ∨
      ∃ fault reply, fault.isTransfer = false ∧ answer = fault.status ∧
        commands calls = ⟨.authenticate uid block key, .error fault⟩ :: ⟨.stopCrypto, reply⟩ ::
          commands rest) := by
  obtain ⟨middle, first, rest, hfirst, hrest, rfl⟩ := Realization.carries_cons_iff.mp h
  refine ⟨middle, rest, hrest, ?_⟩
  rw [commands_append]
  obtain ⟨hcommands, hanswer, rfl⟩ | ⟨fault, htransfer, hcommands, hanswer, rfl⟩ |
    ⟨fault, reply, htransfer, hcommands, hanswer, rfl⟩ :=
      authenticate_path_of_selected hselected hfirst
  · exact Or.inl ⟨hanswer, by rw [hcommands]; rfl, hselected⟩
  · exact Or.inr (Or.inl ⟨fault, htransfer, hanswer, by rw [hcommands]; rfl⟩)
  · exact Or.inr (Or.inr ⟨fault, reply, htransfer, hanswer, by rw [hcommands]; rfl⟩)

/-- A tag whose block is open. -/
theorem carries_opened {block : UInt8} {key : AuthKey} {uid asked : Uid}
    (h : onChip.Carries memory
      (⟨.request, .ok .ok⟩ :: ⟨.anticollision, .ok (some uid)⟩ :: ⟨.select uid, .ok ()⟩ ::
        ⟨.authenticate block key asked, .ok .ok⟩ :: above) calls final) :
    ∃ atqa middle rest, onChip.Carries middle above rest final ∧ middle.selected = some uid ∧
      commands calls = ⟨.reqa, .ok atqa⟩ :: ⟨.select atqa, .ok uid⟩ ::
        ⟨.authenticate uid block key, .ok ()⟩ :: commands rest := by
  rcases carries_selected h with ⟨_, atqa, _, _, hopen, hselected, hfound⟩
  rcases carries_authenticate hselected hopen with ⟨middle, rest, hrest,
    ⟨_, hcommands, hmiddle⟩ | ⟨_, _, hanswer, _⟩ | ⟨fault, _, _, hanswer, _⟩⟩
  · refine ⟨atqa, middle, rest, hrest, hmiddle, ?_⟩
    rw [hfound, hcommands]
  · cases hanswer
  · exact absurd hanswer.symm fault.status_ne_ok

theorem carries_read {block : UInt8} {uid : Uid} {answer : Except TagFault Block}
    (hselected : memory.selected = some uid)
    (h : onChip.Carries memory (⟨.read block, answer⟩ :: above) calls final) :
    ∃ middle rest, onChip.Carries middle above rest final ∧
      ((∃ fault, answer = .error fault.readFault ∧
        commands calls = ⟨.read block, .error fault⟩ :: commands rest) ∨
      ∃ data halted stopped, answer = .ok data ∧
        commands calls = ⟨.read block, .ok data⟩ :: ⟨.halt, halted⟩ :: ⟨.stopCrypto, stopped⟩ ::
          commands rest) := by
  obtain ⟨middle, first, rest, hfirst, hrest, rfl⟩ := Realization.carries_cons_iff.mp h
  refine ⟨middle, rest, hrest, ?_⟩
  rw [commands_append]
  obtain ⟨fault, hcommands, hanswer, rfl⟩ | ⟨data, halted, stopped, hcommands, hanswer, rfl⟩ :=
    readBlock_path_of_selected hselected hfirst
  · exact Or.inl ⟨fault, hanswer, by rw [hcommands]; rfl⟩
  · exact Or.inr ⟨data, halted, stopped, hanswer, by rw [hcommands]; rfl⟩

theorem commands_of_carries_nil (h : onChip.Carries memory [] calls final) :
    commands calls = [] := by
  rw [(Realization.carries_nil_iff.mp h).1]
  rfl

end Carries

end TagChip

/-! ### Rounds -/

/-- The ways of one round on the chip: the commands it is given, and what the round returns. -/
inductive ChipRound (settings : TagSettings) :
    List (Call (TagChip ρ)) → Except Failure (Option Reading) → Prop
  /-- No tag answered properly. -/
  | unanswered (fault : Fault) (h : fault.isTransfer = false) :
    ChipRound settings [⟨.reqa, .error fault⟩] (.ok none)
  /-- The chip could not be asked for a tag. -/
  | unasked (fault : Fault) (h : fault.isTransfer = true) :
    ChipRound settings [⟨.reqa, .error fault⟩] (.error (.tag .transport))
  /-- The tag left before it was selected. -/
  | left (atqa : ρ) (fault : Fault) (h : fault.isTransfer = false) :
    ChipRound settings [⟨.reqa, .ok atqa⟩, ⟨.select atqa, .error fault⟩] (.ok none)
  /-- The chip could not be reached to select the tag. -/
  | unselected (atqa : ρ) (fault : Fault) (h : fault.isTransfer = true) :
    ChipRound settings [⟨.reqa, .ok atqa⟩, ⟨.select atqa, .error fault⟩] (.error (.tag .transport))
  /-- The tag refused the key, and the encryption was stopped. -/
  | refused (atqa : ρ) (uid : Uid) (fault : Fault) (stopped : Except Fault Unit)
      (h : fault.isTransfer = false) :
    ChipRound settings
      [⟨.reqa, .ok atqa⟩, ⟨.select atqa, .ok uid⟩,
        ⟨.authenticate uid settings.block settings.key, .error fault⟩, ⟨.stopCrypto, stopped⟩]
      (.ok none)
  /-- The chip could not be reached to open the block. -/
  | unopened (atqa : ρ) (uid : Uid) (fault : Fault) (h : fault.isTransfer = true) :
    ChipRound settings
      [⟨.reqa, .ok atqa⟩, ⟨.select atqa, .ok uid⟩,
        ⟨.authenticate uid settings.block settings.key, .error fault⟩]
      (.error (.tag .transport))
  /-- The open block could not be read. -/
  | unread (atqa : ρ) (uid : Uid) (fault : Fault) :
    ChipRound settings
      [⟨.reqa, .ok atqa⟩, ⟨.select atqa, .ok uid⟩,
        ⟨.authenticate uid settings.block settings.key, .ok ()⟩,
        ⟨.read settings.block, .error fault⟩]
      (.error (.tag fault.readFault))
  /-- The block was read, the tag was halted and the encryption stopped. -/
  | read (atqa : ρ) (uid : Uid) (block : Block) (halted stopped : Except Fault Unit) :
    ChipRound settings
      [⟨.reqa, .ok atqa⟩, ⟨.select atqa, .ok uid⟩,
        ⟨.authenticate uid settings.block settings.key, .ok ()⟩,
        ⟨.read settings.block, .ok block⟩, ⟨.halt, halted⟩, ⟨.stopCrypto, stopped⟩]
      (.ok (some (.tag uid block)))

variable {settings : TagSettings}

/-- Whatever the chip remembers and answers, a round of the tag reader is one of these. -/
theorem TagRound.chipRound {before after : Standing} {above : List (Call TagStation)}
    {result : Except Failure (Option Reading)} {memory final : Memory ρ}
    {calls : List (Call (ChipBoard ρ))} (h : TagRound settings before above result after)
    (hcarries : onChip.Carries memory (cardCalls above) calls final) :
    ChipRound settings (commands calls) result := by
  -- what the reader was answered tells which command of the chip failed, and how
  cases h with
  | requestFailed fault =>
    obtain ⟨_, rest, hnil, ⟨_, hanswer, _⟩ | ⟨fault, hanswer, hcommands⟩⟩ :=
      carries_request hcarries
    · cases hanswer
    · obtain ⟨rfl, htransfer⟩ := Fault.status_eq_error hanswer.symm
      rw [hcommands, commands_of_carries_nil hnil]
      exact .unasked fault htransfer
  | missed status hstatus =>
    rw [show cardCalls (card ⟨.request, .ok status⟩ :: pause settings) = [⟨.request, .ok status⟩]
      by simp] at hcarries
    obtain ⟨_, rest, hnil, ⟨_, hanswer, _⟩ | ⟨fault, hanswer, hcommands⟩⟩ :=
      carries_request hcarries
    · cases hanswer
      exact absurd rfl hstatus
    · rw [hcommands, commands_of_carries_nil hnil]
      exact .unanswered fault (Fault.status_eq_ok hanswer.symm)
  | anticollisionFailed fault =>
    obtain ⟨atqa, _, _, hanti, hanswered, hreqa⟩ := carries_answered hcarries
    obtain ⟨_, rest, hnil, ⟨_, hanswer, _⟩ | ⟨fault, hanswer, hcommands⟩⟩ :=
      carries_anticollision hanswered hanti
    · cases hanswer
    · obtain ⟨rfl, htransfer⟩ := Fault.status_map_eq_error hanswer.symm
      rw [hreqa, hcommands, commands_of_carries_nil hnil]
      exact .unselected atqa fault htransfer
  | left =>
    obtain ⟨atqa, _, _, hanti, hanswered, hreqa⟩ := carries_answered hcarries
    obtain ⟨_, rest, hnil, ⟨_, hanswer, _⟩ | ⟨fault, hanswer, hcommands⟩⟩ :=
      carries_anticollision hanswered hanti
    · cases hanswer
    · rw [hreqa, hcommands, commands_of_carries_nil hnil]
      exact .left atqa fault (Fault.status_map_eq_ok hanswer.symm)
  | selectFailed uid fault =>
    rw [cardCalls_append, cardCalls_found] at hcarries
    -- the chip selects the tag in hand without a command
    cases (carries_selected hcarries).1
  | authenticateFailed uid fault =>
    rw [cardCalls_tried] at hcarries
    rcases carries_selected hcarries with ⟨_, atqa, _, _, hopen, hselected, hfound⟩
    rcases carries_authenticate hselected hopen with ⟨_, rest, hnil, ⟨hanswer, _⟩ |
      ⟨fault, htransfer, hanswer, hcommands⟩ | ⟨fault, _, htransfer, hanswer, _⟩⟩
    · cases hanswer
    · cases hanswer
      rw [hfound, hcommands, commands_of_carries_nil hnil]
      exact .unopened atqa uid fault htransfer
    · -- a key that is refused is an answer and no failure
      rcases Fault.status_eq_error hanswer.symm with ⟨_, hopposite⟩
      rw [htransfer] at hopposite
      cases hopposite
  | refused uid status hstatus =>
    rw [cardCalls_append, cardCalls_tried, cardCalls_turnedAway, List.append_nil] at hcarries
    rcases carries_selected hcarries with ⟨_, atqa, _, _, hopen, hselected, hfound⟩
    rcases carries_authenticate hselected hopen with ⟨_, rest, hnil, ⟨hanswer, _⟩ |
      ⟨_, _, hanswer, _⟩ | ⟨fault, stopped, htransfer, _, hcommands⟩⟩
    · cases hanswer
      exact absurd rfl hstatus
    · cases hanswer
    · rw [hfound, hcommands, commands_of_carries_nil hnil]
      exact .refused atqa uid fault stopped htransfer
  | readFailed uid fault =>
    simp only [cardCalls_append, cardCalls_tried, cardCalls_entered, List.append_nil] at hcarries
    rcases carries_opened hcarries with ⟨atqa, _, _, hread, hselected, hopened⟩
    rcases carries_read hselected hread with ⟨_, rest, hnil, ⟨fault, hanswer, hcommands⟩ |
      ⟨_, _, _, hanswer, _⟩⟩
    · cases hanswer
      rw [hopened, hcommands, commands_of_carries_nil hnil]
      exact .unread atqa uid fault
    · cases hanswer
  | read uid block =>
    simp only [cardCalls_append, cardCalls_tried, cardCalls_entered, List.append_nil] at hcarries
    rcases carries_opened hcarries with ⟨atqa, _, _, hread, hselected, hopened⟩
    rcases carries_read hselected hread with ⟨_, rest, hnil, ⟨_, hanswer, _⟩ |
      ⟨data, halted, stopped, hanswer, hcommands⟩⟩
    · cases hanswer
    · cases hanswer
      rw [hopened, hcommands, commands_of_carries_nil hnil]
      exact .read atqa uid block halted stopped

/-! ### Runs -/

/-- The ways of one run on the chip: the commands it is given, and what the run returns. -/
inductive ChipRun (settings : TagSettings) :
    List (Call (TagChip ρ)) → Except Failure (Option ReadOutcome) → Prop
  /-- No more rounds are allowed for. -/
  | unfinished : ChipRun settings [] (.ok none)
  /-- The stop flag is raised. -/
  | stopped : ChipRun settings [] (.ok (some .cancelled))
  /-- A round fails. -/
  | failed {calls : List (Call (TagChip ρ))} {failure : Failure}
      (round : ChipRound settings calls (.error failure)) :
    ChipRun settings calls (.error failure)
  /-- A round reads something. -/
  | read {calls : List (Call (TagChip ρ))} {reading : Reading}
      (round : ChipRound settings calls (.ok (some reading))) :
    ChipRun settings calls (.ok (some (.read reading)))
  /-- A round reads nothing, and there are more of them. -/
  | again {calls more : List (Call (TagChip ρ))} {result : Except Failure (Option ReadOutcome)}
      (round : ChipRound settings calls (.ok none)) (rest : ChipRun settings more result) :
    ChipRun settings (calls ++ more) result

/-- The commands of a run are rounds one after the other. -/
theorem ChipRun.exists_rounds {calls : List (Call (TagChip ρ))}
    {result : Except Failure (Option ReadOutcome)} (h : ChipRun settings calls result) :
    ∃ rounds : List (List (Call (TagChip ρ))), calls = rounds.flatten ∧
      ∀ round ∈ rounds, ∃ value, ChipRound settings round value := by
  induction h with
  | unfinished | stopped => exact ⟨[], rfl, by simp⟩
  | @failed calls failure round =>
    exact ⟨[calls], by simp, by simpa using ⟨_, round⟩⟩
  | @read calls reading round =>
    exact ⟨[calls], by simp, by simpa using ⟨_, round⟩⟩
  | @again calls more _ round _ ih =>
    rcases ih with ⟨rounds, rfl, hrounds⟩
    refine ⟨calls :: rounds, rfl, ?_⟩
    rw [List.forall_mem_cons]
    exact ⟨⟨_, round⟩, hrounds⟩

/-- Whatever the chip remembers and answers, a run of the tag reader is one of these. -/
theorem Polling.chipRun {before after : Standing} {above : List (Call TagStation)}
    {result : Except Failure (Option ReadOutcome)} {memory final : Memory ρ}
    {calls : List (Call (ChipBoard ρ))} (h : Polling (TagRound settings) before above result after)
    (hcarries : onChip.Carries memory (cardCalls above) calls final) :
    ChipRun settings (commands calls) result := by
  induction h generalizing memory calls with
  | unfinished =>
    rw [commands_of_carries_nil hcarries]
    exact .unfinished
  | stopped =>
    rw [commands_of_carries_nil hcarries]
    exact .stopped
  | failed round => exact .failed (round.chipRound hcarries)
  | read round => exact .read (round.chipRound hcarries)
  | again round _ ih =>
    rw [cardCalls_append, cardCalls_looked] at hcarries
    rcases Realization.carries_append_iff.mp hcarries with ⟨_, _, _, hround, hrest, rfl⟩
    rw [commands_append]
    exact .again (round.chipRound hround) (ih hrest)

namespace TagChip

/-- A run for contactless tags on the chip, from whatever standing and memory. -/
theorem readTag_chipRun {fuel : Nat} {standing after : Standing} {memory final : Memory ρ}
    {above : List (Call TagStation)} {calls : List (Call (ChipStation ρ))}
    {result : Except Failure (Option ReadOutcome)}
    (h : (ReadProcedure.readTag settings fuel).Path standing above result after)
    (hcarries : onStation.Carries memory above calls final) :
    ChipRun settings (commands calls) result := by
  rcases ReadProcedure.readTag_path h with ⟨rest, rfl, hpoll⟩
  rcases carries_cardCalls hcarries with ⟨asked, hasked, hcommands⟩
  rw [cardCalls_append, cardCalls_entered, List.nil_append] at hasked
  rw [hcommands]
  exact hpoll.chipRun hasked

/-- The commands of several runs are rounds one after the other. -/
theorem readTags_rounds {settings : Settings} {fuels : List Nat} {standing : Standing}
    {memory final : Memory ρ} {above : List (Call TagStation)} {calls : List (Call (ChipStation ρ))}
    {value : List (Except Failure (Option ReadOutcome)) × Standing}
    (h : Program.Path ((ReadProcedure.readTags settings fuels).run standing) above value)
    (hcarries : onStation.Carries memory above calls final) :
    ∃ rounds : List (List (Call (TagChip ρ))), commands calls = rounds.flatten ∧
      ∀ round ∈ rounds, ∃ value, ChipRound settings.tag round value := by
  -- on the runs, each from the memory that the one before it left
  induction fuels generalizing standing memory above calls value with
  | nil =>
    have hdone : Program.Path (.done ([], standing)) above value := h
    rw [Program.path_done_iff] at hdone
    rcases hdone with ⟨rfl, _⟩
    rw [Realization.carries_nil_iff] at hcarries
    rcases hcarries with ⟨rfl, _⟩
    exact ⟨[], rfl, by simp⟩
  | cons fuel more ih =>
    rw [ReadProcedure.readTags, StateT.run_bind, Program.path_bind_iff] at h
    rcases h with ⟨⟨result, middle⟩, first, second, hfirst, hsecond, rfl⟩
    rw [StateT.run_bind, Program.path_bind_iff] at hsecond
    rcases hsecond with ⟨later, rest, last, hrest, hlast, rfl⟩
    rw [StateT.run_pure, Program.pure_eq_done, Program.path_done_iff] at hlast
    rcases hlast with ⟨rfl, _⟩
    rw [List.append_nil, Realization.carries_append_iff] at hcarries
    rcases hcarries with ⟨_, firstCalls, restCalls, hone, hothers, rfl⟩
    have hrun : ChipRun settings.tag (commands firstCalls) result := readTag_chipRun hfirst hone
    rcases hrun.exists_rounds with ⟨rounds, hrounds, hall⟩
    rcases ih hrest hothers with ⟨others, hcommands, hothers⟩
    refine ⟨rounds ++ others, ?_, ?_⟩
    · rw [commands_append, hrounds, hcommands, List.flatten_append]
    · rw [List.forall_mem_append]
      exact ⟨hall, hothers⟩

/-- The commands of several runs in any world are rounds one after the other. -/
theorem commands_readTags {σ : Type} (w : World (ChipStation ρ) σ) (settings : Settings)
    (fuels : List Nat) (standing : Standing) (memory : Memory ρ) (s : σ) :
    ∃ rounds : List (List (Call (TagChip ρ))),
      commands (((((ReadProcedure.readTags settings fuels).run standing).realize onStation).run
        memory).calls w s) = rounds.flatten ∧
      ∀ round ∈ rounds, ∃ value, ChipRound settings.tag round value := by
  let p := (((ReadProcedure.readTags settings fuels).run standing).realize onStation).run memory
  have hpath : Program.Path p (p.calls w s) ((p.eval w s).1.1, (p.eval w s).1.2) :=
    Program.path_calls w p s
  rcases Program.path_realize_iff.mp hpath with ⟨above, habove, hcarries⟩
  exact readTags_rounds habove hcarries

end TagChip

end DrinkMixer
