import DrinkMixer.Proofs.Tag.CardCalls
import DrinkMixer.Proofs.Tag.FrameRound

/-!
# How runs of the tag reader wind up

The calls of a run cut in two, at a moment from which on no look at the stop flag finds it down.
What comes after that moment finishes the round in progress, and then the run is stopped
(`WoundUp`).

Main statements: `read_woundUp`, and `read_interrupted_of_cancelled` and `read_noCleanup`, the pins
are given back once and last by a run that is stopped, and never by any other.
-/

namespace DrinkMixer

open TagStation

/-! ### Kinds of calls -/

namespace TagStation

/-- Whether a call begins a round of a mode: it asks for a tag, or it waits for a frame. -/
def isStart : ReaderMode → Call TagStation → Bool
  | .uid, ⟨.inl .request, _⟩ => true
  | .payment, ⟨.inr (.inr (.inr (.inr (.inl (.wait _))))), _⟩ => true
  | _, _ => false

/-- Whether a call looks at the stop flag. -/
def isLook : Call TagStation → Bool
  | ⟨.inr (.inr (.inr (.inl .look))), _⟩ => true
  | _ => false

/-- Whether a call tells that the reader was stopped, or gives the pins back. -/
def isCleanup : Call TagStation → Bool
  | ⟨.inr (.inr (.inl .release)), _⟩ => true
  | ⟨.inr (.inr (.inr (.inr (.inr (.emit .cancelled))))), _⟩ => true
  | _ => false

/-- What the calls of one round of a mode are like. -/
structure RoundCalls (mode : ReaderMode) (calls : List (Call TagStation)) : Prop where
  /-- A round is begun by its first call only. -/
  tail : ∀ call ∈ calls.tail, ¬isStart mode call
  /-- The stop flag is looked at between rounds only. -/
  noLook : ∀ call ∈ calls, ¬isLook call
  /-- The pins are kept. -/
  noCleanup : ∀ call ∈ calls, ¬isCleanup call
  /-- At most one frame is read. -/
  frames : (paymentCalls calls).length ≤ 1

end TagStation

section Rounds

variable {before after : Standing} {calls : List (Call TagStation)}
  {result : Except Failure (Option Reading)}

theorem TagRound.roundCalls {settings : TagSettings}
    (h : TagRound settings before calls result after) : RoundCalls .uid calls := by
  have hframes : (paymentCalls calls).length ≤ 1 := by
    rw [h.paymentCalls_eq_nil]
    exact Nat.zero_le 1
  refine ⟨List.any_eq_false.mp ?_, List.any_eq_false.mp ?_, List.any_eq_false.mp ?_, hframes⟩
  all_goals
    cases h with
    | missed =>
      unfold pause
      split_ifs <;> rfl
    | _ => rfl

theorem FrameRound.roundCalls {settings : PaymentSettings}
    (h : FrameRound settings before calls result after) : RoundCalls .payment calls := by
  refine ⟨List.any_eq_false.mp ?_, List.any_eq_false.mp ?_, List.any_eq_false.mp ?_, ?_⟩
  · cases h <;> rfl
  · cases h <;> rfl
  · cases h <;> rfl
  · cases h <;> exact Nat.le_refl 1

theorem ModeRound.roundCalls {settings : Settings} {mode : ReaderMode}
    (h : ModeRound settings mode before calls result after) : RoundCalls mode calls := by
  cases mode with
  | uid => exact TagRound.roundCalls h
  | payment => exact FrameRound.roundCalls h

end Rounds

/-! ### Moments of a run -/

/-- A round is in progress between some calls and the others, and all the others are made by it. -/
def InProgress (earlier later : List (Call TagStation)) : Prop :=
  ∃ before inner, earlier = before ++ looked false :: inner ∧ ∀ call ∈ inner ++ later, ¬isLook call

/-- How a run ends after a moment at which the stop flag was raised. -/
inductive Ends (settings : Settings) (mode : ReaderMode) (earlier later : List (Call TagStation)) :
    Except Failure (Option ReadOutcome) → Prop
  /-- No more rounds are allowed for. -/
  | unfinished : Ends settings mode earlier later (.ok none)
  /-- The run is stopped. -/
  | stopped : Ends settings mode earlier later (.ok (some .cancelled))
  /-- The round in progress reads something. -/
  | read {reading : Reading} (h : InProgress earlier later) :
    Ends settings mode earlier later (.ok (some (.read reading)))
  /-- The round in progress fails. -/
  | failed {failure : Failure} (h : InProgress earlier later) :
    Ends settings mode earlier later (.error failure)
  /-- The run is refused at once. -/
  | refused {fault : BusFault} (h : settings.refusal? mode = some fault) :
    Ends settings mode earlier later (.error (.bus fault))

/-- What a run does after a moment at which the stop flag was raised. -/
structure WoundUp (settings : Settings) (mode : ReaderMode) (earlier later : List (Call TagStation))
    (result : Except Failure (Option ReadOutcome)) : Prop where
  /-- No round begins. -/
  noStart : ∀ call ∈ later, ¬isStart mode call
  /-- At most one more frame is read. -/
  frames : (paymentCalls later).length ≤ 1
  /-- The run ends. -/
  ends : Ends settings mode earlier later result

section Moments

variable {settings : Settings} {mode : ReaderMode} {before after : Standing}
  {calls earlier later : List (Call TagStation)} {result : Except Failure (Option ReadOutcome)}

theorem InProgress.append_left (first : List (Call TagStation)) (h : InProgress earlier later) :
    InProgress (first ++ earlier) later := by
  obtain ⟨before, inner, rfl, hlook⟩ := h
  exact ⟨first ++ before, inner, (List.append_assoc _ _ _).symm, hlook⟩

/-- More calls before the moment do not matter. -/
theorem WoundUp.append_left (first : List (Call TagStation))
    (h : WoundUp settings mode earlier later result) :
    WoundUp settings mode (first ++ earlier) later result := by
  refine ⟨h.noStart, h.frames, ?_⟩
  cases h.ends with
  | unfinished => exact .unfinished
  | stopped => exact .stopped
  | read hin => exact .read (hin.append_left first)
  | failed hin => exact .failed (hin.append_left first)
  | refused hrefused => exact .refused hrefused

/-- When the pins are given back, no round begins and no frame is read. -/
theorem noStart_interrupted (mode : ReaderMode) (phase : Phase) :
    ∀ call ∈ looked true :: interrupted phase, ¬isStart mode call := by
  cases mode <;> exact List.any_eq_false.mp rfl

theorem paymentCalls_interrupted (phase : Phase) :
    paymentCalls (looked true :: interrupted phase) = [] := rfl

/-- A moment within a round, after its first call. -/
theorem TagStation.RoundCalls.split (h : RoundCalls mode calls)
    (hsplit : looked false :: calls = earlier ++ later) (hlater : looked false ∉ later)
    (hearlier : earlier.getLast? ≠ some (looked false)) :
    (∀ call ∈ later, ¬isStart mode call) ∧ (paymentCalls later).length ≤ 1 ∧
      InProgress earlier later := by
  obtain ⟨_, rfl⟩ | ⟨inner, rfl, rfl⟩ := List.cons_eq_append_iff.mp hsplit
  · exact absurd List.mem_cons_self hlater
  -- the moment is not directly after the look, so the round has begun
  cases inner with
  | nil => exact absurd rfl hearlier
  | cons first inner =>
    have hsublist : (paymentCalls later).Sublist (paymentCalls (first :: inner ++ later)) :=
      (List.sublist_append_right _ _).filterMap _
    refine ⟨?_, Nat.le_trans hsublist.length_le h.frames, [], first :: inner, rfl, h.noLook⟩
    intro call hcall
    exact h.tail call (List.mem_append_right inner hcall)

/-- Where no look finds the flag down, a run is stopped at once. -/
theorem Polling.of_not_mem (h : Polling (ModeRound settings mode) before calls result after)
    (hlook : looked false ∉ calls) :
    calls = [] ∧ result = .ok none ∨
      ∃ phase, calls = looked true :: interrupted phase ∧ result = .ok (some .cancelled) := by
  cases h with
  | unfinished => exact Or.inl ⟨rfl, rfl⟩
  | stopped => exact Or.inr ⟨before.phase, rfl, rfl⟩
  | failed | read | again => exact absurd List.mem_cons_self hlook

/-- Where a round is finished and no look finds the flag down, a run has wound up. -/
theorem Polling.woundUp_of_not_mem
    (h : Polling (ModeRound settings mode) before calls result after) (hlook : looked false ∉ calls)
    {inner : List (Call TagStation)} (hstart : ∀ call ∈ inner, ¬isStart mode call)
    (hframes : (paymentCalls inner).length ≤ 1) :
    WoundUp settings mode earlier (inner ++ calls) result := by
  obtain ⟨rfl, rfl⟩ | ⟨phase, rfl, rfl⟩ := h.of_not_mem hlook
  · rw [List.append_nil]
    exact ⟨hstart, hframes, .unfinished⟩
  · refine ⟨List.forall_mem_append.mpr ⟨hstart, noStart_interrupted mode phase⟩, ?_, .stopped⟩
    rw [paymentCalls_append, paymentCalls_interrupted, List.append_nil]
    exact hframes

theorem getLast?_ne_of_append {first inner : List (Call TagStation)} {call : Call TagStation}
    (h : (first ++ inner).getLast? ≠ some call) : inner.getLast? ≠ some call := by
  intro hlast
  refine h ?_
  rw [List.getLast?_append, hlast]
  rfl

/-- From a moment on at which the flag is up, a run winds up. -/
theorem Polling.woundUp (h : Polling (ModeRound settings mode) before calls result after)
    (hsplit : calls = earlier ++ later) (hlater : looked false ∉ later)
    (hearlier : earlier.getLast? ≠ some (looked false)) :
    WoundUp settings mode earlier later result := by
  -- on the rounds; the moment is in this one or in a later one
  induction h generalizing earlier with
  | unfinished =>
    obtain ⟨rfl, rfl⟩ := List.append_eq_nil_iff.mp hsplit.symm
    exact ⟨List.forall_mem_nil _, Nat.zero_le 1, .unfinished⟩
  | stopped before =>
    have hsuffix : later <:+ looked true :: interrupted before.phase := ⟨earlier, hsplit.symm⟩
    have hsublist := hsuffix.sublist.filterMap fun call => call.right?.bind Call.left?
    refine ⟨fun call hcall => noStart_interrupted mode _ call (hsuffix.subset hcall), ?_, .stopped⟩
    exact Nat.le_trans hsublist.length_le (Nat.zero_le 1)
  | failed round =>
    obtain ⟨hstart, hframes, hin⟩ := round.roundCalls.split hsplit hlater hearlier
    exact ⟨hstart, hframes, .failed hin⟩
  | read round =>
    obtain ⟨hstart, hframes, hin⟩ := round.roundCalls.split hsplit hlater hearlier
    exact ⟨hstart, hframes, .read hin⟩
  | @again _ _ _ first more _ round rest ih =>
    obtain ⟨inner, rfl, hmore⟩ | ⟨inner, hfirst, rfl⟩ := List.append_eq_append_iff.mp hsplit
    · -- the moment is in a later round
      have hwound := ih hmore (getLast?_ne_of_append hearlier)
      exact hwound.append_left (looked false :: first)
    · -- the moment is in this round, and the next look finds the flag up
      rw [List.mem_append, not_or] at hlater
      obtain ⟨hstart, hframes, _⟩ := round.roundCalls.split hfirst hlater.1 hearlier
      exact rest.woundUp_of_not_mem hlater.2 hstart hframes

/-- From a moment on at which the flag is up, a run of either mode winds up. -/
theorem ReadProcedure.read_woundUp {fuel : Nat}
    (h : (read settings mode fuel).Path before calls result after)
    (hsplit : calls = earlier ++ later) (hlater : looked false ∉ later)
    (hearlier : earlier.getLast? ≠ some (looked false)) :
    WoundUp settings mode earlier later result := by
  obtain ⟨fault, hrefusal, rfl, rfl⟩ | ⟨_, rest, rfl, hpoll⟩ := read_path h
  · obtain ⟨rfl, rfl⟩ := List.append_eq_nil_iff.mp hsplit.symm
    exact ⟨List.forall_mem_nil _, Nat.zero_le 1, .refused hrefusal⟩
  obtain ⟨inner, rfl, hrest⟩ | ⟨inner, hentered, rfl⟩ := List.append_eq_append_iff.mp hsplit
  · have hwound := hpoll.woundUp hrest hlater (getLast?_ne_of_append hearlier)
    exact hwound.append_left (entered .idle .polling)
  · -- the moment is before the first look, which finds the flag up
    have hstart : ∀ call ∈ entered .idle .polling, ¬isStart mode call := by
      cases mode <;> exact List.any_eq_false.mp rfl
    have hframes : (paymentCalls inner).Sublist (paymentCalls (entered .idle .polling)) := by
      rw [hentered]
      exact (List.sublist_append_right _ _).filterMap _
    rw [List.mem_append, not_or] at hlater
    refine hpoll.woundUp_of_not_mem hlater.2 ?_ (Nat.le_trans hframes.length_le (Nat.zero_le 1))
    intro call hcall
    refine hstart call ?_
    rw [hentered]
    exact List.mem_append_right _ hcall

/-! ### Giving the pins back -/

/-- A run that is stopped gives the pins back with its last call. -/
theorem Polling.interrupted_of_cancelled
    (h : Polling (ModeRound settings mode) before calls (.ok (some .cancelled)) after) :
    ∃ earlier phase, calls = earlier ++ looked true :: interrupted phase ∧
      ∀ call ∈ earlier, ¬isCleanup call := by
  -- the induction is on runs with any result, so this one is kept beside them as an equation
  generalize hresult : (.ok (some .cancelled) : Except Failure (Option ReadOutcome)) = final at h
  induction h with
  | unfinished | failed | read => simp at hresult
  | stopped before => exact ⟨[], before.phase, rfl, List.forall_mem_nil _⟩
  | @again _ _ _ first _ _ round _ ih =>
    obtain ⟨earlier, phase, rfl, hearlier⟩ := ih hresult
    refine ⟨looked false :: first ++ earlier, phase, (List.append_assoc _ _ _).symm, ?_⟩
    rw [List.forall_mem_append, List.forall_mem_cons]
    exact ⟨⟨Bool.false_ne_true, round.roundCalls.noCleanup⟩, hearlier⟩

/-- A run that is not stopped keeps the pins. -/
theorem Polling.noCleanup (h : Polling (ModeRound settings mode) before calls result after)
    (hresult : result ≠ .ok (some .cancelled)) : ∀ call ∈ calls, ¬isCleanup call := by
  induction h with
  | unfinished => exact List.forall_mem_nil _
  | stopped => exact absurd rfl hresult
  | failed round | read round =>
    rw [List.forall_mem_cons]
    exact ⟨Bool.false_ne_true, round.roundCalls.noCleanup⟩
  | again round _ ih =>
    rw [List.forall_mem_append, List.forall_mem_cons]
    exact ⟨⟨Bool.false_ne_true, round.roundCalls.noCleanup⟩, ih hresult⟩

/-- Going over to polling keeps the pins. -/
theorem noCleanup_entered : ∀ call ∈ entered .idle .polling, ¬isCleanup call :=
  List.any_eq_false.mp rfl

/-- A run of either mode that is stopped gives the pins back with its last call. -/
theorem ReadProcedure.read_interrupted_of_cancelled {fuel : Nat}
    (h : (read settings mode fuel).Path before calls (.ok (some .cancelled)) after) :
    ∃ earlier phase, calls = earlier ++ looked true :: interrupted phase ∧
      ∀ call ∈ earlier, ¬isCleanup call := by
  obtain ⟨_, _, _, hresult⟩ | ⟨_, rest, rfl, hpoll⟩ := read_path h
  · cases hresult
  obtain ⟨earlier, phase, rfl, hearlier⟩ := hpoll.interrupted_of_cancelled
  refine ⟨entered .idle .polling ++ earlier, phase, (List.append_assoc _ _ _).symm, ?_⟩
  rw [List.forall_mem_append]
  exact ⟨noCleanup_entered, hearlier⟩

/-- A run of either mode that is not stopped keeps the pins. -/
theorem ReadProcedure.read_noCleanup {fuel : Nat}
    (h : (read settings mode fuel).Path before calls result after)
    (hresult : result ≠ .ok (some .cancelled)) : ∀ call ∈ calls, ¬isCleanup call := by
  obtain ⟨_, _, rfl, _⟩ | ⟨_, rest, rfl, hpoll⟩ := read_path h
  · exact List.forall_mem_nil _
  · rw [List.forall_mem_append]
    exact ⟨noCleanup_entered, hpoll.noCleanup hresult⟩

end Moments

end DrinkMixer
