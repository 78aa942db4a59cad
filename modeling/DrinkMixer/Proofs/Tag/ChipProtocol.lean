import DrinkMixer.Proofs.Program.Moments
import DrinkMixer.Proofs.Tag.ChipRounds

/-!
# The protocol of one run on the contactless reader chip

A run for a contactless tag gives the chip whole rounds that read nothing and then one ending, which
says by itself what the run returns (`ChipEnding`). The chip is never found without the tag in hand
that the tag reader goes on with.

Main statement: `read_uid_protocol`.
-/

namespace DrinkMixer

open TagStation TagChip

variable {ρ : Type}

/-- The commands with which a run ends, after the rounds that read nothing, and what it returns. -/
inductive ChipEnding (settings : TagSettings) :
    List (Call (TagChip ρ)) → Except Failure (Option ReadOutcome) → Prop
  /-- No more rounds are allowed for. -/
  | unfinished : ChipEnding settings [] (.ok none)
  /-- The stop flag is raised. -/
  | stopped : ChipEnding settings [] (.ok (some .cancelled))
  /-- A round fails. -/
  | failed {calls : List (Call (TagChip ρ))} {failure : Failure}
      (round : ChipRound settings calls (.error failure)) :
    ChipEnding settings calls (.error failure)
  /-- A round reads something. -/
  | read {calls : List (Call (TagChip ρ))} {reading : Reading}
      (round : ChipRound settings calls (.ok (some reading))) :
    ChipEnding settings calls (.ok (some (.read reading)))

section Ending

variable {settings : TagSettings} {calls : List (Call (TagChip ρ))}

/-- A run is rounds that read nothing and an ending. -/
theorem ChipRun.exists_ending {result : Except Failure (Option ReadOutcome)}
    (h : ChipRun settings calls result) :
    ∃ (rounds : List (List (Call (TagChip ρ)))) (ending : List (Call (TagChip ρ))),
      calls = rounds.flatten ++ ending ∧
      (∀ round ∈ rounds, ChipRound settings round (.ok none)) ∧
      ChipEnding settings ending result := by
  induction h with
  | unfinished => exact ⟨[], [], rfl, List.forall_mem_nil _, .unfinished⟩
  | stopped => exact ⟨[], [], rfl, List.forall_mem_nil _, .stopped⟩
  | failed round => exact ⟨[], _, rfl, List.forall_mem_nil _, .failed round⟩
  | read round => exact ⟨[], _, rfl, List.forall_mem_nil _, .read round⟩
  | @again first more _ round _ ih =>
    obtain ⟨rounds, ending, rfl, hrounds, hending⟩ := ih
    refine ⟨first :: rounds, ending, ?_, ?_, hending⟩
    · rw [List.flatten_cons, List.append_assoc]
    · rw [List.forall_mem_cons]
      exact ⟨round, hrounds⟩

/-- On the chip a round never fails for want of a tag in hand. -/
theorem ChipRound.ne_noTagSelected {result : Except Failure (Option Reading)}
    (h : ChipRound settings calls result) : result ≠ .error (.tag .noTagSelected) := by
  cases h with
  | unread atqa uid fault => cases fault <;> simp [Fault.readFault]
  | _ => simp

theorem ChipEnding.ne_noTagSelected {result : Except Failure (Option ReadOutcome)}
    (h : ChipEnding settings calls result) : result ≠ .error (.tag .noTagSelected) := by
  cases h with
  | failed round =>
    intro hresult
    exact round.ne_noTagSelected (by rw [Except.error.inj hresult])
  | _ => simp

end Ending

/-! ### Calls that fail -/

/-- The fault with which a call to the contactless reader failed. -/
def cardFault? : Call Card → Option TagFault
  | ⟨.request, .error fault⟩ => some fault
  | ⟨.anticollision, .error fault⟩ => some fault
  | ⟨.select _, .error fault⟩ => some fault
  | ⟨.authenticate _ _ _, .error fault⟩ => some fault
  | ⟨.read _, .error fault⟩ => some fault
  | _ => none

section Faults

variable {settings : TagSettings} {before after : Standing} {calls : List (Call TagStation)}
  {fault : TagFault}

/-- A call that fails ends its round with that fault. -/
theorem TagRound.result_of_cardFault {result : Except Failure (Option Reading)}
    (h : TagRound settings before calls result after) :
    ∀ call ∈ cardCalls calls, cardFault? call = some fault → result = .error (.tag fault) := by
  cases h <;> simp [cardFault?]

/-- A call that fails ends the run with that fault. -/
theorem Polling.result_of_cardFault {result : Except Failure (Option ReadOutcome)}
    (h : Polling (TagRound settings) before calls result after) :
    ∀ call ∈ cardCalls calls, cardFault? call = some fault → result = .error (.tag fault) := by
  induction h with
  | unfinished | stopped => exact List.forall_mem_nil _
  | failed round =>
    intro call hcall hfault
    have hround := round.result_of_cardFault call hcall hfault
    rw [Except.error.inj hround]
  | read round =>
    intro call hcall hfault
    cases round.result_of_cardFault call hcall hfault
  | again round _ ih =>
    rw [cardCalls_append, List.forall_mem_append]
    refine ⟨?_, ih⟩
    intro call hcall hfault
    cases round.result_of_cardFault call hcall hfault

end Faults

namespace TagChip

/-- In a run for a contactless tag, on any chip and from whatever was left behind, the chip is given
whole rounds that read nothing and then one ending, which says what the run returns. No request of
the tag reader is refused for want of a tag in hand. -/
theorem read_uid_protocol {σ : Type} (w : World (ChipStation ρ) σ) (settings : Settings)
    (fuel : Nat) (standing : Standing) (memory : Memory ρ) (s : σ) :
    let reading := (ReadProcedure.read settings .uid fuel).run.run standing
    let run := (reading.realize onStation).run memory
    (∃ (rounds : List (List (Call (TagChip ρ)))) (ending : List (Call (TagChip ρ))),
      commands (run.calls w s) = rounds.flatten ++ ending ∧
      (∀ round ∈ rounds, ChipRound settings.tag round (.ok none)) ∧
      ChipEnding settings.tag ending (run.eval w s).1.1.1) ∧
    ∀ call ∈ cardCalls (reading.calls (onStation.world w) (memory, s)),
      cardFault? call ≠ some .noTagSelected := by
  intro reading run
  have habove : (ReadProcedure.readTag settings.tag fuel).Path standing
      (reading.calls (onStation.world w) (memory, s))
      (reading.eval (onStation.world w) (memory, s)).1.1
      (reading.eval (onStation.world w) (memory, s)).1.2 :=
    Program.path_calls (onStation.world w) reading (memory, s)
  have hresult : (run.eval w s).1.1.1 = (reading.eval (onStation.world w) (memory, s)).1.1 := by
    show ((reading.realize onStation).run memory |>.eval w s).1.1.1 = _
    rw [Program.eval_realize]
  have hrun : ChipRun settings.tag (commands (run.calls w s)) (run.eval w s).1.1.1 := by
    rw [hresult]
    exact readTag_chipRun habove (onStation.carries_calls w reading memory s)
  obtain ⟨rounds, ending, hcommands, hrounds, hending⟩ := hrun.exists_ending
  refine ⟨⟨rounds, ending, hcommands, hrounds, hending⟩, ?_⟩
  intro call hcall hfault
  obtain ⟨rest, hrest, hpoll⟩ := ReadProcedure.readTag_path habove
  rw [hrest, cardCalls_append, cardCalls_entered, List.nil_append] at hcall
  -- a request refused like this would be what the run fails with
  have hfailed := hpoll.result_of_cardFault call hcall hfault
  rw [← hresult] at hfailed
  exact hending.ne_noTagSelected hfailed

end TagChip

end DrinkMixer
