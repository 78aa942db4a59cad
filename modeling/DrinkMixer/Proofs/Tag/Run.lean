import DrinkMixer.Proofs.Tag.Round

/-!
# Runs of the tag reader

A run makes rounds until one of them reads something or fails, or until the stop flag is found
raised. `Polling` lists the ways of such a run over any kind of round, so that what each round keeps
carries over to runs by one induction.

Main statements: `poll_path` for any round, and `readTag_path`, a run for a contactless tag polls
with rounds of `TagRound` from a fresh standing on.
-/

namespace DrinkMixer

open TagStation

/-- The ways of a run that makes rounds. -/
inductive Polling (Round : Standing → List (Call TagStation) → Except Failure (Option Reading) →
    Standing → Prop) :
    Standing → List (Call TagStation) → Except Failure (Option ReadOutcome) → Standing → Prop
  /-- No more rounds are allowed for. -/
  | unfinished (before : Standing) : Polling Round before [] (.ok none) before
  /-- The stop flag is raised. -/
  | stopped (before : Standing) :
    Polling Round before (looked true :: interrupted before.phase) (.ok (some .cancelled))
      { before with phase := .idle }
  /-- A round fails. -/
  | failed {before after : Standing} {calls : List (Call TagStation)} {failure : Failure}
      (round : Round before calls (.error failure) after) :
    Polling Round before (looked false :: calls) (.error failure) after
  /-- A round reads something. -/
  | read {before after : Standing} {calls : List (Call TagStation)} {reading : Reading}
      (round : Round before calls (.ok (some reading)) after) :
    Polling Round before (looked false :: calls) (.ok (some (.read reading))) after
  /-- A round reads nothing, and there are more of them. -/
  | again {before middle after : Standing} {calls more : List (Call TagStation)}
      {result : Except Failure (Option ReadOutcome)}
      (round : Round before calls (.ok none) middle)
      (rest : Polling Round middle more result after) :
    Polling Round before (looked false :: calls ++ more) result after

/-- A run in which every round starts in a standing of some kind is a run of the rounds that can
start there. -/
theorem Polling.map {Round Round' : Standing → List (Call TagStation) →
    Except Failure (Option Reading) → Standing → Prop} (Start : Standing → Prop)
    (step : ∀ {before calls result after}, Start before → Round before calls result after →
      Round' before calls result after)
    (keep : ∀ {before calls after}, Start before → Round' before calls (.ok none) after →
      Start after)
    {before after : Standing} {calls : List (Call TagStation)}
    {result : Except Failure (Option ReadOutcome)} (hstart : Start before)
    (h : Polling Round before calls result after) : Polling Round' before calls result after := by
  induction h with
  | unfinished before => exact .unfinished before
  | stopped before => exact .stopped before
  | failed round => exact .failed (step hstart round)
  | read round => exact .read (step hstart round)
  | again round _ ih =>
    have hround := step hstart round
    exact .again hround (ih (keep hstart hround))

namespace ReadProcedure

variable {before after : Standing} {calls : List (Call TagStation)}
  {result : Except Failure (Option ReadOutcome)}

/-- Giving the pins back cannot fail. -/
theorem release_path (h : (some <$> release).Path before calls result after) :
    calls = interrupted before.phase ∧ result = .ok (some .cancelled) ∧
      after = { before with phase := .idle } := by
  simp only [release, map_bind, map_pure, path_get_bind_iff, path_note_bind_iff,
    path_emit_bind_iff] at h
  obtain ⟨_, ⟨_, h, rfl⟩, rfl⟩ := h
  rw [path_release_bind_iff] at h
  obtain ⟨_, h, rfl⟩ := h
  rw [path_modify_bind_iff] at h
  obtain ⟨rfl, rfl, rfl⟩ := path_pure_iff.mp h
  exact ⟨rfl, rfl, rfl⟩

/-- Making rounds is a run of these rounds. -/
theorem poll_path {round : ReadProcedure (Option Reading)} {fuel : Nat}
    (h : (poll round fuel).Path before calls result after) :
    Polling round.Path before calls result after := by
  -- on the rounds that are allowed for; each begins with a look at the stop flag
  induction fuel generalizing before calls with
  | zero =>
    obtain ⟨rfl, rfl, rfl⟩ := path_pure_iff.mp h
    exact .unfinished _
  | succ fuel ih =>
    rw [poll, path_look_bind_iff] at h
    obtain ⟨raised, rest, h, rfl⟩ := h
    cases raised with
    | true =>
      obtain ⟨rfl, rfl, rfl⟩ := release_path h
      exact .stopped _
    | false =>
      rw [if_neg Bool.false_ne_true, path_bind_iff] at h
      obtain ⟨failure, hround, rfl⟩ | ⟨value, middle, first, second, hround, hrest, rfl⟩ := h
      · exact .failed hround
      · cases value with
        | some reading =>
          obtain ⟨rfl, rfl, rfl⟩ := path_pure_iff.mp hrest
          rw [List.append_nil]
          exact .read hround
        | none => exact .again hround (ih hrest)

/-- A round for a tag that reads nothing ends polling, so the next one can start. -/
theorem phase_of_tagRound {settings : TagSettings} (hphase : before.phase = .polling)
    (h : TagRound settings before calls (.ok none) after) : after.phase = .polling := by
  cases h with
  | missed | left => exact hphase
  | refused => rfl

/-- A run for a contactless tag goes over to polling and makes rounds for a tag. -/
theorem readTag_path {settings : TagSettings} {fuel : Nat}
    (h : (readTag settings fuel).Path before calls result after) :
    ∃ rest, calls = entered .idle .polling ++ rest ∧
      Polling (TagRound settings) { phase := .polling } rest result after := by
  have hreset : (enter .polling >>= fun _ => poll (tagRound settings) fuel).Path {} calls result
      after := h
  rw [path_enter_bind_iff] at hreset
  obtain ⟨rest, hpoll, rfl⟩ := hreset
  exact ⟨rest, rfl, (poll_path hpoll).map (fun standing => standing.phase = .polling)
    tagRound_path phase_of_tagRound rfl⟩

end ReadProcedure

end DrinkMixer
