import DrinkMixer.Proofs.Tag.Run

/-!
# What a run for a contactless tag has counted

Every round asks for a tag once, and it ends in one of four ways: no tag answered, the tag left, the
tag refused the key, or the run is over. The reader counts its rounds and the refused keys, and it
waits after a request that no tag answered and at no other time. `Tally` says all this of calls that
are made between two standings.

Main statement: `read_uid_tally`, what the reader has counted at the end of a run is what its calls
were, and its rounds are accounted for one by one.
-/

namespace DrinkMixer

open TagStation

/-! ### Kinds of calls -/

namespace TagStation

/-- Whether a call asks for a tag. -/
def isRequest : Call TagStation → Bool
  | ⟨.inl .request, _⟩ => true
  | _ => false

/-- Whether a call asks for a tag and none answers properly. -/
def isMiss : Call TagStation → Bool
  | ⟨.inl .request, .ok .noTag⟩ => true
  | ⟨.inl .request, .ok .error⟩ => true
  | _ => false

/-- Whether a call finds that the tag to be singled out has left. -/
def isLoss : Call TagStation → Bool
  | ⟨.inl .anticollision, .ok none⟩ => true
  | _ => false

/-- Whether a call tries the key on a tag that refuses it. -/
def isRefusal : Call TagStation → Bool
  | ⟨.inl (.authenticate _ _ _), .ok .noTag⟩ => true
  | ⟨.inl (.authenticate _ _ _), .ok .error⟩ => true
  | _ => false

/-- Whether a call tells that a tag refused the key. -/
def tellsRefusal : Call TagStation → Bool
  | ⟨.inr (.inr (.inr (.inr (.inr (.emit (.authFailed _)))))), _⟩ => true
  | _ => false

/-- Whether a call lets time pass. -/
def isWait : Call TagStation → Bool
  | ⟨.inr (.inr (.inr (.inr (.inl (.wait _))))), _⟩ => true
  | _ => false

/-- Whether a call counts for one of these. -/
def isTallied (call : Call TagStation) : Bool :=
  isRequest call || isLoss call || isRefusal call || tellsRefusal call || isWait call

theorem isRequest_of_isMiss {call : Call TagStation} (h : isMiss call = true) :
    isRequest call = true := by
  unfold isMiss at h
  split at h
  · rfl
  · rfl
  · cases h

theorem isMiss_of_ne_ok {status : TagStatus} (h : status ≠ .ok) :
    isMiss (card ⟨.request, .ok status⟩) = true := by
  cases status with
  | ok => exact absurd rfl h
  | noTag | error => rfl

/-- A request is no wait. -/
theorem isWait_of_isMiss {call : Call TagStation} (h : isMiss call = true) :
    isWait call = false := by
  unfold isMiss at h
  split at h
  · rfl
  · rfl
  · cases h

/-- A call with the pause that has to follow it, if one has to. -/
def withPause (settings : TagSettings) (call : Call TagStation) : List (Call TagStation) :=
  if isMiss call then call :: pause settings else [call]

/-- A pause follows each request that no tag answered, and there are no other waits: without its
waits and with these pauses put in, a run is the same again. -/
def Paced (settings : TagSettings) (calls : List (Call TagStation)) : Prop :=
  (calls.filter fun call => !isWait call).flatMap (withPause settings) = calls

end TagStation

section Paced

variable {settings : TagSettings} {first second calls : List (Call TagStation)}

theorem paced_append (hfirst : Paced settings first) (hsecond : Paced settings second) :
    Paced settings (first ++ second) := by
  unfold Paced at hfirst hsecond ⊢
  rw [List.filter_append, List.flatMap_append, hfirst, hsecond]

/-- A pause follows a request that no tag answered. -/
theorem paced_miss {call : Call TagStation} (hmiss : isMiss call = true) :
    Paced settings (call :: pause settings) := by
  have hpause : (pause settings).filter (fun call => !isWait call) = [] := by
    unfold pause
    split_ifs <;> rfl
  rw [Paced, List.filter_cons_of_pos (by simp [isWait_of_isMiss hmiss]), hpause,
    List.flatMap_singleton, withPause, if_pos hmiss]

/-- Where nobody waits or has to, there is nothing to pause for. -/
theorem paced_of_forall (h : ∀ call ∈ calls, isWait call = false ∧ isMiss call = false) :
    Paced settings calls := by
  induction calls with
  | nil => rfl
  | cons call calls ih =>
    rw [List.forall_mem_cons] at h
    obtain ⟨⟨hwait, hmiss⟩, hcalls⟩ := h
    have hcall : Paced settings [call] := by simp [Paced, withPause, hwait, hmiss]
    exact paced_append hcall (ih hcalls)

/-- There is one wait for each request that no tag answered, unless the pause is empty. -/
theorem countP_isWait_of_paced (h : Paced settings calls) :
    calls.countP isWait = if 0 < settings.pollIntervalMs then calls.countP isMiss else 0 := by
  have hpauses : (pause settings).countP isWait = if 0 < settings.pollIntervalMs then 1 else 0 := by
    unfold pause
    split_ifs <;> rfl
  -- with the waits taken out and put in again, they are where the misses are
  have hwaits : ∀ others : List (Call TagStation), (∀ call ∈ others, isWait call = false) →
      (others.flatMap (withPause settings)).countP isWait =
        if 0 < settings.pollIntervalMs then others.countP isMiss else 0 := by
    intro others hothers
    induction others with
    | nil => simp
    | cons call others ih =>
      rw [List.forall_mem_cons] at hothers
      have hcall : ¬isWait call = true := Bool.eq_false_iff.mp hothers.1
      rw [List.flatMap_cons, List.countP_append, ih hothers.2, withPause]
      by_cases hmiss : isMiss call = true
      · rw [if_pos hmiss, List.countP_cons_of_neg hcall, hpauses, List.countP_cons_of_pos hmiss]
        split_ifs
        · exact Nat.add_comm 1 _
        · rfl
      · rw [if_neg hmiss, List.countP_singleton, if_neg hcall, Nat.zero_add,
          List.countP_cons_of_neg hmiss]
  have hmisses : (calls.filter fun call => !isWait call).countP isMiss = calls.countP isMiss := by
    rw [List.countP_filter]
    refine List.countP_congr fun call _ => ?_
    have hwait : isMiss call = true → isWait call = false := isWait_of_isMiss
    simp only [Bool.and_eq_true, Bool.not_eq_true', and_iff_left_iff_imp]
    exact hwait
  have hothers := hwaits (calls.filter fun call => !isWait call) (by simp)
  rw [h, hmisses] at hothers
  exact hothers

end Paced

/-! ### Tallies -/

/-- How many calls end a round without a result of the run: no tag answered, the tag left, or it
refused the key. -/
def setbacks (calls : List (Call TagStation)) : Nat :=
  calls.countP isMiss + calls.countP isLoss + calls.countP isRefusal

/-- What some calls of the tag reader have added to its counts, where so many rounds were the last
of a run. -/
structure Tally (settings : TagSettings) (before : Standing) (calls : List (Call TagStation))
    (last : Nat) (after : Standing) : Prop where
  polls : after.polls = before.polls + UInt32.ofNat (calls.countP isRequest)
  authFailures : after.authFailures = before.authFailures + UInt32.ofNat (calls.countP isRefusal)
  /-- Each refusal is told. -/
  told : calls.countP tellsRefusal = calls.countP isRefusal
  /-- Each round is accounted for. -/
  rounds : calls.countP isRequest = setbacks calls + last
  paced : Paced settings calls

section Tally

variable {settings : TagSettings} {before middle after : Standing}
  {calls first second : List (Call TagStation)}

theorem Tally.append {m n : Nat} (hfirst : Tally settings before first m middle)
    (hsecond : Tally settings middle second n after) :
    Tally settings before (first ++ second) (m + n) after where
  polls := by
    rw [hsecond.polls, hfirst.polls, List.countP_append, UInt32.ofNat_add, UInt32.add_assoc]
  authFailures := by
    rw [hsecond.authFailures, hfirst.authFailures, List.countP_append, UInt32.ofNat_add,
      UInt32.add_assoc]
  told := by
    rw [List.countP_append, List.countP_append, hfirst.told, hsecond.told]
  rounds := by
    have hrounds := hfirst.rounds
    have hmore := hsecond.rounds
    unfold setbacks at hrounds hmore ⊢
    simp only [List.countP_append]
    omega
  paced := paced_append hfirst.paced hsecond.paced

/-- Calls between rounds add nothing. -/
theorem tally_of_any_eq_false (phase : Phase) (h : calls.any isTallied = false) :
    Tally settings before calls 0 { before with phase := phase } := by
  have hnone : ∀ call ∈ calls, isTallied call = false := by
    intro call hcall
    exact Bool.eq_false_iff.mpr (List.any_eq_false.mp h call hcall)
  -- none of the kinds that are counted is among them
  have hzero : ∀ kind : Call TagStation → Bool,
      (∀ call, kind call = true → isTallied call = true) → calls.countP kind = 0 := by
    intro kind hkind
    rw [List.countP_eq_zero]
    intro call hcall hcounted
    have htallied := hkind call hcounted
    rw [hnone call hcall] at htallied
    cases htallied
  have hrequests := hzero isRequest (by simp +contextual [isTallied])
  have hmisses := hzero isMiss fun call hmiss => by simp [isTallied, isRequest_of_isMiss hmiss]
  have hlosses := hzero isLoss (by simp +contextual [isTallied])
  have hrefusals := hzero isRefusal (by simp +contextual [isTallied])
  have htold := hzero tellsRefusal (by simp +contextual [isTallied])
  refine ⟨?_, ?_, ?_, ?_, ?_⟩
  · rw [hrequests]
    exact (UInt32.add_zero _).symm
  · rw [hrefusals]
    exact (UInt32.add_zero _).symm
  · rw [htold, hrefusals]
  · rw [hrequests, setbacks, hmisses, hlosses, hrefusals]
  · refine paced_of_forall fun call hcall => ⟨?_, ?_⟩
    · have htallied := hnone call hcall
      simp only [isTallied, Bool.or_eq_false_iff] at htallied
      exact htallied.2
    · exact Bool.eq_false_iff.mpr (List.countP_eq_zero.mp hmisses call hcall)

/-! ### Rounds and runs -/

/-- How many rounds the last one is: a round that reads nothing is followed by others. -/
def lastRounds : Except Failure (Option Reading) → Nat
  | .ok none => 0
  | _ => 1

/-- How many rounds of a run ended it: none, if the run was stopped before a round. -/
def closingRounds : Except Failure (Option ReadOutcome) → Nat
  | .ok none => 0
  | .ok (some .cancelled) => 0
  | _ => 1

/-- One round asks once, and it is accounted for. -/
theorem TagRound.tally {result : Except Failure (Option Reading)}
    (h : TagRound settings before calls result after) :
    Tally settings before calls (lastRounds result) after := by
  cases h with
  | missed status hstatus =>
    have hpaced : Paced settings (card ⟨.request, .ok status⟩ :: pause settings) :=
      paced_miss (isMiss_of_ne_ok hstatus)
    cases status with
    | ok => exact absurd rfl hstatus
    | noTag | error =>
      -- an empty pause is no wait at all
      obtain hpause | hpause : pause settings = [waited settings.pollIntervalMs] ∨
          pause settings = [] := by
        unfold pause
        split_ifs
        · exact Or.inl rfl
        · exact Or.inr rfl
      all_goals
        rw [hpause] at hpaced ⊢
        exact ⟨rfl, (UInt32.add_zero _).symm, rfl, rfl, hpaced⟩
  | refused uid status hstatus =>
    cases status with
    | ok => exact absurd rfl hstatus
    | noTag | error => exact ⟨rfl, rfl, rfl, rfl, rfl⟩
  | _ => exact ⟨rfl, (UInt32.add_zero _).symm, rfl, rfl, rfl⟩

/-- A run asks once in each of its rounds, and each of them is accounted for. -/
theorem Polling.tally {result : Except Failure (Option ReadOutcome)}
    (h : Polling (TagRound settings) before calls result after) :
    Tally settings before calls (closingRounds result) after := by
  have hlook : ∀ standing raised, Tally settings standing [looked raised] 0 standing :=
    fun standing raised => tally_of_any_eq_false standing.phase rfl
  induction h with
  | unfinished before => exact tally_of_any_eq_false before.phase rfl
  | stopped before => exact tally_of_any_eq_false .idle rfl
  | failed round => exact (hlook _ false).append round.tally
  | read round => exact (hlook _ false).append round.tally
  | again round _ ih =>
    have hround := (hlook _ false).append round.tally
    have hrun := hround.append ih
    rw [Nat.zero_add, lastRounds, Nat.zero_add] at hrun
    exact hrun

end Tally

/-- However a run for a contactless tag goes on whatever hardware, as long as it has less than
`2 ^ 32` rounds, the reader has counted the requests and the refused keys, each of which was told;
the waits are the pauses after requests that no tag answered; and every round is one in which no tag
answered, the tag left or the key was refused, but for the one that ended the run. -/
theorem read_uid_tally {σ : Type} (w : World TagStation σ) (settings : Settings) (fuel : Nat)
    (standing : Standing) (s : σ) :
    let run := (ReadProcedure.read settings .uid fuel).run.run standing
    let calls := run.calls w s
    let result := (run.eval w s).1.1
    let after := (run.eval w s).1.2
    calls.countP isRequest < Nat.pow 2 32 →
      after.polls.toNat = calls.countP isRequest ∧
      after.authFailures.toNat = calls.countP isRefusal ∧
      calls.countP tellsRefusal = calls.countP isRefusal ∧
      Paced settings.tag calls ∧
      calls.countP isWait = (if 0 < settings.tag.pollIntervalMs then calls.countP isMiss else 0) ∧
      after.polls.toNat = calls.countP isMiss + calls.countP isLoss + after.authFailures.toNat +
        closingRounds result := by
  intro run calls result after hpolls
  have hpath : (ReadProcedure.readTag settings.tag fuel).Path standing calls result after :=
    Program.path_calls w run s
  obtain ⟨rest, hrest, hpoll⟩ := ReadProcedure.readTag_path hpath
  have hentered : Tally settings.tag {} (entered .idle .polling) 0 { phase := .polling } :=
    tally_of_any_eq_false .polling rfl
  have htally : Tally settings.tag {} calls (closingRounds result) after := by
    rw [hrest, ← Nat.zero_add (closingRounds result)]
    exact hentered.append hpoll.tally
  have hrounds := htally.rounds
  rw [setbacks] at hrounds
  -- the counters have 32 bits, and there were fewer requests than that
  have hpollCount : after.polls.toNat = calls.countP isRequest := by
    rw [htally.polls]
    show (0 + UInt32.ofNat _).toNat = _
    rw [UInt32.zero_add, UInt32.toNat_ofNat', Nat.mod_eq_of_lt hpolls]
  have hrefusalCount : after.authFailures.toNat = calls.countP isRefusal := by
    have hrefusals : calls.countP isRefusal < Nat.pow 2 32 := by omega
    rw [htally.authFailures]
    show (0 + UInt32.ofNat _).toNat = _
    rw [UInt32.zero_add, UInt32.toNat_ofNat', Nat.mod_eq_of_lt hrefusals]
  refine ⟨hpollCount, hrefusalCount, htally.told, htally.paced,
    countP_isWait_of_paced htally.paced, ?_⟩
  rw [hpollCount, hrefusalCount, hrounds]

/-- A field with the number of requests so far: nobody answers the first, the tag of the second
leaves, that of the third refuses the key, and that of the fourth is read. -/
def passingTags : World TagStation Nat where
  answer
    | .inl .request, n => (.ok (if n = 0 then .noTag else .ok), n + 1)
    | .inl .anticollision, n => (.ok (if n = 2 then none else some ⟨[0xDE, 0xAD], by decide⟩), n)
    | .inl (.select _), n => (.ok (), n)
    | .inl (.authenticate _ _ _), n => (.ok (if n = 3 then .error else .ok), n)
    | .inl (.read _), n => (.ok (Vector.replicate 16 0), n)
    | .inr (.inl (.read _ _)), n => (.error .readFailed, n)
    | .inr (.inr (.inl .release)), n => ((), n)
    | .inr (.inr (.inr (.inl .look))), n => (false, n)
    | .inr (.inr (.inr (.inr (.inl (.wait _))))), n => ((), n)
    | .inr (.inr (.inr (.inr (.inl (.note _))))), n => ((), n)
    | .inr (.inr (.inr (.inr (.inr _)))), n => ((), n)

/-- Four rounds, one of each kind. -/
theorem read_uid_tally_passingTags :
    let run := (ReadProcedure.read {} .uid 9).run.run { polls := 7 }
    let calls := run.calls passingTags 0
    let after := (run.eval passingTags 0).1.2
    calls.countP isRequest = 4 ∧ after.polls.toNat = 4 ∧ after.authFailures.toNat = 1 ∧
      calls.countP isWait = 1 ∧ Paced {} calls ∧
      after.polls.toNat = calls.countP isMiss + calls.countP isLoss + 1 + 1 := by
  intro run calls after
  have hrequests : calls.countP isRequest = 4 := rfl
  have hfew : calls.countP isRequest < Nat.pow 2 32 := by
    rw [hrequests]
    decide
  obtain ⟨hpolls, hrefusals, _, hpaced, hwaits, hrounds⟩ :=
    read_uid_tally passingTags {} 9 { polls := 7 } 0 hfew
  refine ⟨hrequests, hpolls.trans hrequests, hrefusals, hwaits, hpaced, ?_⟩
  rw [hrefusals] at hrounds
  exact hrounds

end DrinkMixer
