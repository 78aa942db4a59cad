import DrinkMixer.Proofs.Tag.Steps

/-!
# One round for a contactless tag

`TagRound` lists every way in which one round of the tag reader can go: all of its calls, in order
and with their answers, what it returns, and the standing it leaves.

Main statement: `tagRound_path`, a round that starts while polling goes in one of these ways.
-/

namespace DrinkMixer

namespace TagStation

/-- The pause after a request that no tag answered. -/
def pause (settings : TagSettings) : List (Call TagStation) :=
  if 0 < settings.pollIntervalMs then [waited settings.pollIntervalMs] else []

/-- A tag is found. -/
def found (uid : Uid) : List (Call TagStation) :=
  [card ⟨.request, .ok .ok⟩, card ⟨.anticollision, .ok (some uid)⟩] ++
    entered .polling .cardFound ++ [noted .info s!"tag {uid.text} detected"]

/-- A tag is found and selected, and the opening of its data block is answered. -/
def tried (settings : TagSettings) (uid : Uid) (answer : Except TagFault TagStatus) :
    List (Call TagStation) :=
  found uid ++ [card ⟨.select uid, .ok ()⟩,
    card ⟨.authenticate settings.block settings.key uid, answer⟩]

/-- A tag refused the key for so many times. -/
def turnedAway (settings : TagSettings) (uid : Uid) (status : TagStatus) (attempts : UInt32) :
    List (Call TagStation) :=
  [noted .warn
      s!"tag {uid.text} rejected key for block {settings.block} ({status.name}), attempt {attempts}",
    told (.authFailed uid)] ++ entered .cardFound .polling

end TagStation

open TagStation

/-- The ways of one round for a contactless tag that begins while polling. -/
inductive TagRound (settings : TagSettings) (before : Standing) :
    List (Call TagStation) → Except Failure (Option Reading) → Standing → Prop
  /-- The request failed. -/
  | requestFailed (fault : TagFault) :
    TagRound settings before [card ⟨.request, .error fault⟩] (.error (.tag fault))
      { before with polls := before.polls + 1 }
  /-- No tag answered properly. -/
  | missed (status : TagStatus) (h : status ≠ .ok) :
    TagRound settings before (card ⟨.request, .ok status⟩ :: pause settings) (.ok none)
      { before with polls := before.polls + 1 }
  /-- Singling out a tag failed. -/
  | anticollisionFailed (fault : TagFault) :
    TagRound settings before [card ⟨.request, .ok .ok⟩, card ⟨.anticollision, .error fault⟩]
      (.error (.tag fault)) { before with polls := before.polls + 1 }
  /-- The tag left before it was singled out. -/
  | left :
    TagRound settings before
      [card ⟨.request, .ok .ok⟩, card ⟨.anticollision, .ok none⟩,
        noted .debug "tag left the field during anticollision"]
      (.ok none) { before with polls := before.polls + 1 }
  /-- Selecting the tag failed. -/
  | selectFailed (uid : Uid) (fault : TagFault) :
    TagRound settings before (found uid ++ [card ⟨.select uid, .error fault⟩])
      (.error (.tag fault)) { before with phase := .cardFound, polls := before.polls + 1 }
  /-- Opening the data block failed. -/
  | authenticateFailed (uid : Uid) (fault : TagFault) :
    TagRound settings before (tried settings uid (.error fault))
      (.error (.tag fault)) { before with phase := .cardFound, polls := before.polls + 1 }
  /-- The tag refused the key. -/
  | refused (uid : Uid) (status : TagStatus) (h : status ≠ .ok) :
    TagRound settings before
      (tried settings uid (.ok status) ++
        turnedAway settings uid status (before.authFailures + 1))
      (.ok none)
      { phase := .polling, polls := before.polls + 1, authFailures := before.authFailures + 1 }
  /-- The open block could not be read. -/
  | readFailed (uid : Uid) (fault : TagFault) :
    TagRound settings before
      (tried settings uid (.ok .ok) ++ entered .cardFound .authenticated ++
        [card ⟨.read settings.block, .error fault⟩])
      (.error (.tag fault)) { before with phase := .authenticated, polls := before.polls + 1 }
  /-- The block was read. -/
  | read (uid : Uid) (block : Block) :
    TagRound settings before
      (tried settings uid (.ok .ok) ++ entered .cardFound .authenticated ++
        [card ⟨.read settings.block, .ok block⟩] ++ entered .authenticated .blockRead ++
        entered .blockRead .done)
      (.ok (some (.tag uid block))) { before with phase := .done, polls := before.polls + 1 }

namespace ReadProcedure

variable {settings : TagSettings} {before after : Standing} {calls : List (Call TagStation)}

/-- What follows a tag that refused the key. -/
theorem refused_path {uid : Uid} {status : TagStatus} {result : Except Failure (Option Reading)}
    (hphase : before.phase = .cardFound)
    (h : (refused uid settings.block status >>= fun _ => pure none).Path before calls result
      after) :
    calls = turnedAway settings uid status (before.authFailures + 1) ∧ result = .ok none ∧
      after = { before with phase := .polling, authFailures := before.authFailures + 1 } := by
  simp only [refused, bind_assoc, path_modify_bind_iff, path_get_bind_iff, path_note_bind_iff,
    path_emit_bind_iff, path_enter_bind_iff, path_pure_iff] at h
  obtain ⟨_, ⟨_, ⟨_, ⟨rfl, rfl, rfl⟩, rfl⟩, rfl⟩, rfl⟩ := h
  refine ⟨?_, rfl, rfl⟩
  rw [hphase, turnedAway, List.append_nil]
  rfl

/-- What follows a tag whose data block is open. -/
theorem opened_path {uid : Uid} {result : Except Failure (Option Reading)}
    (hphase : before.phase = .cardFound)
    (h : (do
      enter .authenticated
      let block ← readBlock settings.block
      enter .blockRead
      enter .done
      pure (some (Reading.tag uid block))).Path before calls result after) :
    (∃ fault, calls = entered .cardFound .authenticated ++
        [card ⟨.read settings.block, .error fault⟩] ∧
      result = .error (.tag fault) ∧ after = { before with phase := .authenticated }) ∨
    ∃ block, calls = entered .cardFound .authenticated ++
        [card ⟨.read settings.block, .ok block⟩] ++ entered .authenticated .blockRead ++
        entered .blockRead .done ∧
      result = .ok (some (.tag uid block)) ∧ after = { before with phase := .done } := by
  simp only [path_enter_bind_iff, path_readBlock_bind_iff, path_pure_iff, hphase] at h
  obtain ⟨_, ⟨fault, rfl, rfl, rfl⟩ |
    ⟨block, _, ⟨_, ⟨_, ⟨rfl, rfl, rfl⟩, rfl⟩, rfl⟩, rfl⟩, rfl⟩ := h
  · exact Or.inl ⟨fault, rfl, rfl, rfl⟩
  · refine Or.inr ⟨block, ?_, rfl, rfl⟩
    simp only [List.append_nil, List.append_assoc, List.cons_append, List.nil_append]

/-- A round for a contactless tag that starts while polling goes in one of the listed ways. -/
theorem tagRound_path {result : Except Failure (Option Reading)}
    (hphase : before.phase = .polling) (h : (tagRound settings).Path before calls result after) :
    TagRound settings before calls result after := by
  -- each call that fails is one of the ways, and the rest goes on behind the call
  rw [tagRound, countPoll, path_modify_bind_iff, path_request_bind_iff] at h
  obtain ⟨fault, rfl, rfl, rfl⟩ | ⟨status, rest, h, rfl⟩ := h
  · exact .requestFailed fault
  by_cases hstatus : status = .ok
  swap
  · -- no tag answered properly, and there may be a pause
    rw [if_pos hstatus] at h
    have hrest : rest = pause settings ∧ result = .ok none ∧
        after = { before with polls := before.polls + 1 } := by
      rw [pause]
      split_ifs at h ⊢
      · obtain ⟨_, hdone, rfl⟩ := path_wait_bind_iff.mp h
        obtain ⟨rfl, rfl, rfl⟩ := path_pure_iff.mp hdone
        exact ⟨rfl, rfl, rfl⟩
      · exact path_pure_iff.mp h
    obtain ⟨rfl, rfl, rfl⟩ := hrest
    exact .missed status hstatus
  subst hstatus
  rw [if_neg (by simp), path_anticollision_bind_iff] at h
  obtain ⟨fault, rfl, rfl, rfl⟩ | ⟨_ | uid, rest, h, rfl⟩ := h
  · exact .anticollisionFailed fault
  · obtain ⟨_, hdone, rfl⟩ := path_note_bind_iff.mp h
    obtain ⟨rfl, rfl, rfl⟩ := path_pure_iff.mp hdone
    exact .left
  -- a tag is found
  simp only [path_enter_bind_iff, path_note_bind_iff, path_select_bind_iff, hphase] at h
  obtain ⟨_, ⟨_, h, rfl⟩, rfl⟩ := h
  obtain ⟨fault, rfl, rfl, rfl⟩ | ⟨rest, h, rfl⟩ := h
  · exact .selectFailed uid fault
  rw [path_authenticate_bind_iff] at h
  obtain ⟨fault, rfl, rfl, rfl⟩ | ⟨status, rest, h, rfl⟩ := h
  · exact .authenticateFailed uid fault
  by_cases hstatus : status = .ok
  · subst hstatus
    rw [if_neg (by simp)] at h
    obtain ⟨fault, rfl, rfl, rfl⟩ | ⟨block, rfl, rfl, rfl⟩ := opened_path rfl h
    · exact .readFailed uid fault
    · exact .read uid block
  · rw [if_pos hstatus] at h
    obtain ⟨rfl, rfl, rfl⟩ := refused_path rfl h
    exact .refused uid status hstatus

end ReadProcedure

end DrinkMixer
