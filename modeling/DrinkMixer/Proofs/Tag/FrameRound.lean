import DrinkMixer.Proofs.Tag.Run

/-!
# Rounds of either mode

`FrameRound` lists the ways of one round for a payment frame, as `TagRound` does for a contactless
tag: after a wait one frame is read, which counts if it is marked ready.

The buffer that frames are read into is of no consequence, as what is read always overwrites as much
of it as is looked at. So rounds are followed without it (`unbufferedRound`).

Main statements: `pollFrames_eq`, polling with the buffer is polling without it;
`unbufferedRound_path`, a round for a payment frame that starts while polling goes in one of the
listed ways; and `read_path`, a run of either mode refuses its frame length at once or polls with
rounds of that mode.
-/

namespace DrinkMixer

/-! ### The buffer -/

namespace Payment

/-- What is read into the front of the buffer is found there. -/
theorem front_fill (buffer : Buffer) {length : Nat} (frame : Vector UInt8 length)
    (h : length ≤ maxFrameLength.toNat) :
    (buffer.fill frame.toList).front length = frame.toList := by
  have hlength : ((buffer.fill frame.toList).front length).length = frame.toList.length := by
    rw [Buffer.front, List.length_take, Vector.length_toList, Vector.length_toList,
      Nat.min_eq_left h]
  refine List.ext_getElem hlength fun i _ hi => ?_
  rw [Vector.length_toList] at hi
  simp [Buffer.front, Buffer.fill, hi]

/-- A frame that fits into the buffer can be copied. -/
theorem copy?_eq_some {frame : List UInt8} (h : frame.length ≤ maxFrameLength.toNat) :
    copy? frame = some frame :=
  if_pos h

end Payment

namespace ReadProcedure

/-- One round for a payment frame, without the buffer. -/
def unbufferedRound (settings : PaymentSettings) : ReadProcedure (Option Reading) := do
  wait settings.pollIntervalMs
  countPoll
  let frame ← readFrame settings.address settings.frameLength.toNat
  let polls := (← get).polls
  if Payment.isReady frame.toList then
    note .info s!"payment frame ready after {polls} poll(s)"
    enter .done
    pure (some (.frame frame.toList))
  else
    emit (.frameNotReady polls)
    pure none

variable {settings : PaymentSettings}

/-- Whatever is left in the buffer, a round with it does what a round without it does: the frame is
never too long to be copied. -/
theorem frameRound_eq (h : settings.frameLength ≤ Payment.maxFrameLength)
    (buffer : Payment.Buffer) :
    Prod.snd <$> frameRound settings buffer = unbufferedRound settings := by
  have hlength : settings.frameLength.toNat ≤ Payment.maxFrameLength.toNat := h
  unfold frameRound unbufferedRound
  simp only [map_bind]
  refine bind_congr fun _ => bind_congr fun _ => bind_congr fun frame => ?_
  refine bind_congr fun standing => ?_
  have hframe : frame.toList.length ≤ Payment.maxFrameLength.toNat := by
    rw [Vector.length_toList]
    exact hlength
  rw [Payment.front_fill buffer frame hlength, Payment.copy?_eq_some hframe]
  cases Payment.isReady frame.toList <;> simp

/-- Polling with the buffer is polling without it. -/
theorem pollFrames_eq (h : settings.frameLength ≤ Payment.maxFrameLength) (fuel : Nat)
    (buffer : Payment.Buffer) :
    pollFrames settings fuel buffer = poll (unbufferedRound settings) fuel := by
  induction fuel generalizing buffer with
  | zero => rfl
  | succ fuel ih =>
    rw [pollFrames, poll, ← frameRound_eq h buffer]
    refine bind_congr fun raised => ?_
    split_ifs
    · rfl
    · rw [bind_map_left]
      refine bind_congr fun answer => ?_
      obtain ⟨next, reading⟩ := answer
      cases reading with
      | some reading => rfl
      | none =>
        rw [frameRound_eq h]
        exact ih next

end ReadProcedure

namespace TagStation

/-- A call to the payment reader. -/
def payment (call : Call PaymentBus) : Call TagStation :=
  ⟨.inr (.inl call.op), call.answer⟩

end TagStation

open TagStation

/-- The ways of one round for a payment frame that begins while polling. -/
inductive FrameRound (settings : PaymentSettings) (before : Standing) :
    List (Call TagStation) → Except Failure (Option Reading) → Standing → Prop
  /-- The frame could not be read. -/
  | failed (fault : BusFault) :
    FrameRound settings before
      [waited settings.pollIntervalMs,
        payment ⟨.read settings.address settings.frameLength.toNat, .error fault⟩]
      (.error (.bus fault)) { before with polls := before.polls + 1 }
  /-- The frame is not marked ready. -/
  | notReady (frame : Vector UInt8 settings.frameLength.toNat)
      (h : Payment.isReady frame.toList = false) :
    FrameRound settings before
      [waited settings.pollIntervalMs,
        payment ⟨.read settings.address settings.frameLength.toNat, .ok frame⟩,
        told (.frameNotReady (before.polls + 1))]
      (.ok none) { before with polls := before.polls + 1 }
  /-- The frame is marked ready. -/
  | ready (frame : Vector UInt8 settings.frameLength.toNat)
      (h : Payment.isReady frame.toList = true) :
    FrameRound settings before
      ([waited settings.pollIntervalMs,
        payment ⟨.read settings.address settings.frameLength.toNat, .ok frame⟩,
        noted .info s!"payment frame ready after {before.polls + 1} poll(s)"] ++
        entered .polling .done)
      (.ok (some (.frame frame.toList))) { before with phase := .done, polls := before.polls + 1 }

/-- Why a run of a mode is refused at once, if it is. -/
def Settings.refusal? (settings : Settings) : ReaderMode → Option BusFault
  | .uid => none
  | .payment =>
    if settings.payment.frameLength = 0 then some .emptyFrame
    else if Payment.maxFrameLength < settings.payment.frameLength then
      some (.frameTooLong settings.payment.frameLength)
    else none

/-- The ways of one round of a mode. -/
def ModeRound (settings : Settings) : ReaderMode → Standing → List (Call TagStation) →
    Except Failure (Option Reading) → Standing → Prop
  | .uid => TagRound settings.tag
  | .payment => FrameRound settings.payment

namespace ReadProcedure

/-- One round of a mode. -/
def round (settings : Settings) : ReaderMode → ReadProcedure (Option Reading)
  | .uid => tagRound settings.tag
  | .payment => unbufferedRound settings.payment

variable {before after : Standing} {calls : List (Call TagStation)}

/-- The calls of a single request to the payment reader are that request with its answer. -/
theorem path_payment_single_iff {op : PaymentBus.Op} {answer : PaymentBus.Answer op} :
    (Program.request op : Program TagStation (PaymentBus.Answer op)).Path calls answer ↔
      calls = [payment ⟨op, answer⟩] := by
  rw [Program.path_request_iff]
  constructor
  · rintro ⟨own, rfl, rfl⟩
    rfl
  · rintro rfl
    exact ⟨answer, rfl, rfl⟩

/-- A path through the reading of a frame and what follows it. -/
theorem path_readFrame_bind_iff {β : Type} {address : UInt8} {length : Nat}
    {f : Vector UInt8 length → ReadProcedure β} {result : Except Failure β} :
    (readFrame address length >>= f).Path before calls result after ↔
      (∃ fault, calls = [payment ⟨.read address length, .error fault⟩] ∧
        result = .error (.bus fault) ∧ after = before) ∨
      ∃ frame rest, (f frame).Path before rest result after ∧
        calls = payment ⟨.read address length, .ok frame⟩ :: rest :=
  path_attempt_bind_iff (fun answer => payment ⟨.read address length, answer⟩)
    fun _ _ => path_payment_single_iff

/-- A round for a payment frame that starts while polling goes in one of the listed ways. -/
theorem unbufferedRound_path {settings : PaymentSettings} {result : Except Failure (Option Reading)}
    (hphase : before.phase = .polling)
    (h : (unbufferedRound settings).Path before calls result after) :
    FrameRound settings before calls result after := by
  rw [unbufferedRound, path_wait_bind_iff] at h
  obtain ⟨_, h, rfl⟩ := h
  rw [countPoll, path_modify_bind_iff, path_readFrame_bind_iff] at h
  obtain ⟨fault, rfl, rfl, rfl⟩ | ⟨frame, _, h, rfl⟩ := h
  · exact .failed fault
  rw [path_get_bind_iff] at h
  cases hready : Payment.isReady frame.toList with
  | false =>
    rw [hready, if_neg Bool.false_ne_true, path_emit_bind_iff] at h
    obtain ⟨_, hdone, rfl⟩ := h
    obtain ⟨rfl, rfl, rfl⟩ := path_pure_iff.mp hdone
    exact .notReady frame hready
  | true =>
    rw [hready, if_pos rfl, path_note_bind_iff] at h
    obtain ⟨_, h, rfl⟩ := h
    rw [path_enter_bind_iff] at h
    obtain ⟨_, hdone, rfl⟩ := h
    obtain ⟨rfl, rfl, rfl⟩ := path_pure_iff.mp hdone
    rw [List.append_nil, hphase]
    exact .ready frame hready

theorem path_throw_iff {β : Type} {failure : Failure} {result : Except Failure β} :
    (throw failure : ReadProcedure β).Path before calls result after ↔
      calls = [] ∧ result = .error failure ∧ after = before := by
  show Program.Path (.done (.error failure, before)) calls (result, after) ↔ _
  rw [Program.path_done_iff, Prod.mk.injEq]

/-- A round of a mode that starts while polling goes in one of the ways of that mode. -/
theorem round_path {settings : Settings} {mode : ReaderMode}
    {result : Except Failure (Option Reading)} (hphase : before.phase = .polling)
    (h : (round settings mode).Path before calls result after) :
    ModeRound settings mode before calls result after := by
  cases mode with
  | uid => exact tagRound_path hphase h
  | payment => exact unbufferedRound_path hphase h

/-- A round that reads nothing ends polling, so the next one can start. -/
theorem phase_of_modeRound {settings : Settings} {mode : ReaderMode}
    (hphase : before.phase = .polling)
    (h : ModeRound settings mode before calls (.ok none) after) : after.phase = .polling := by
  cases mode with
  | uid => exact phase_of_tagRound hphase h
  | payment =>
    cases h with
    | notReady => exact hphase

/-- A run of either mode is refused at once, or it goes over to polling and makes rounds. -/
theorem read_eq (settings : Settings) (mode : ReaderMode) (fuel : Nat) :
    read settings mode fuel = (do
      reset
      match settings.refusal? mode with
      | some fault => throw (.bus fault)
      | none =>
        enter .polling
        poll (round settings mode) fuel) := by
  cases mode with
  | uid => rfl
  | payment =>
    unfold read readPayment Settings.refusal?
    split_ifs with hzero hlong
    · rfl
    · rfl
    · rw [pollFrames_eq (UInt64.not_lt.mp hlong)]
      rfl

theorem read_path {settings : Settings} {mode : ReaderMode} {fuel : Nat}
    {result : Except Failure (Option ReadOutcome)}
    (h : (read settings mode fuel).Path before calls result after) :
    (∃ fault, settings.refusal? mode = some fault ∧ calls = [] ∧ result = .error (.bus fault)) ∨
    settings.refusal? mode = none ∧ ∃ rest, calls = entered .idle .polling ++ rest ∧
      Polling (ModeRound settings mode) { phase := .polling } rest result after := by
  rw [read_eq] at h
  cases hrefusal : settings.refusal? mode with
  | some fault =>
    rw [hrefusal] at h
    have hreset : (throw (.bus fault) : ReadProcedure (Option ReadOutcome)).Path {} calls result
      after := h
    obtain ⟨rfl, rfl, _⟩ := path_throw_iff.mp hreset
    exact Or.inl ⟨fault, rfl, rfl, rfl⟩
  | none =>
    rw [hrefusal] at h
    have hreset : (enter .polling >>= fun _ => poll (round settings mode) fuel).Path {} calls
      result after := h
    rw [path_enter_bind_iff] at hreset
    obtain ⟨rest, hpoll, rfl⟩ := hreset
    refine Or.inr ⟨rfl, rest, rfl, ?_⟩
    exact (poll_path hpoll).map (fun standing => standing.phase = .polling) round_path
      phase_of_modeRound rfl

end ReadProcedure

end DrinkMixer
