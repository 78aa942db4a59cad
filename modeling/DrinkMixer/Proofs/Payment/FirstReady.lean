import DrinkMixer.Proofs.Tag.CardCalls
import DrinkMixer.Proofs.Tag.Phases
import DrinkMixer.Proofs.Tag.Tally

/-!
# Polling for the first frame that is ready

A run for a payment frame waits and reads a frame, and goes on as long as the frame is not ready,
which the lowest bit of its first byte tells (`Announces`). So its calls are those of some polls
with frames that are not ready (`misses`), which are told with their numbers, and then one of four
endings (`LastPoll`).

Main statement: `read_payment_firstReady`, this holds of every run, and a frame length that cannot
be read is refused before anything is done.
-/

namespace DrinkMixer

open TagStation

/-! ### Frames that are ready -/

namespace Payment

/-- The lowest bit of the first byte is set. -/
def Announces (frame : List UInt8) : Prop :=
  ∃ status rest, frame = status :: rest ∧ status.toNat % 2 = 1

theorem and_readyBit_ne_zero_iff (status : UInt8) :
    status &&& readyBit ≠ 0 ↔ status.toNat % 2 = 1 := by
  have hbit : (status &&& readyBit).toNat = status.toNat % 2 := by
    rw [UInt8.toNat_and]
    exact Nat.and_one_is_mod _
  rw [Ne, ← UInt8.toNat_inj, hbit]
  exact Nat.mod_two_ne_zero

/-- A frame is ready if the lowest bit of its first byte is set. -/
theorem isReady_iff (frame : List UInt8) : isReady frame = true ↔ Announces frame := by
  cases frame with
  | nil =>
    refine iff_of_false Bool.false_ne_true ?_
    rintro ⟨status, rest, hframe, _⟩
    cases hframe
  | cons status rest =>
    have hready : isReady (status :: rest) = true ↔ status &&& readyBit ≠ 0 := bne_iff_ne
    rw [hready, and_readyBit_ne_zero_iff]
    constructor
    · intro hbit
      exact ⟨status, rest, rfl, hbit⟩
    · rintro ⟨_, _, hframe, hbit⟩
      obtain ⟨rfl, rfl⟩ := List.cons.inj hframe
      exact hbit

theorem not_announces_of_isReady {frame : List UInt8} (h : isReady frame = false) :
    ¬Announces frame := by
  rw [← isReady_iff, h]
  exact Bool.false_ne_true

end Payment

/-! ### Polls -/

namespace TagStation

variable (settings : PaymentSettings)

/-- One poll, with the answer to its read. -/
def polled (answer : Except BusFault (Vector UInt8 settings.frameLength.toNat)) :
    List (Call TagStation) :=
  [looked false, waited settings.pollIntervalMs,
    payment ⟨.read settings.address settings.frameLength.toNat, answer⟩]

/-- The polls with frames that are not ready, the first of them with a given number. -/
def misses (first : Nat) (frames : List (Vector UInt8 settings.frameLength.toNat)) :
    List (Call TagStation) :=
  (frames.zipIdx first).flatMap fun (frame, number) =>
    polled settings (.ok frame) ++ [told (.frameNotReady (UInt32.ofNat number))]

end TagStation

/-- How a run ends after the polls with frames that are not ready, where a further poll would have a
given number and so many polls are still allowed for. -/
inductive LastPoll (settings : PaymentSettings) (number left : Nat) :
    List (Call TagStation) → Except Failure (Option ReadOutcome) → Prop
  /-- No more polls are allowed for. -/
  | unfinished (h : left = 0) : LastPoll settings number left [] (.ok none)
  /-- The reader is stopped. -/
  | stopped :
    LastPoll settings number left (looked true :: interrupted .polling) (.ok (some .cancelled))
  /-- The frame could not be read. -/
  | failed (fault : BusFault) :
    LastPoll settings number left (polled settings (.error fault)) (.error (.bus fault))
  /-- The frame is ready. -/
  | ready (frame : Vector UInt8 settings.frameLength.toNat)
      (h : Payment.Announces frame.toList) :
    LastPoll settings number left
      (polled settings (.ok frame) ++
        noted .info s!"payment frame ready after {UInt32.ofNat number} poll(s)" ::
          entered .polling .done)
      (.ok (some (.read (.frame frame.toList))))

section Polls

variable {settings : PaymentSettings} {before after : Standing} {calls : List (Call TagStation)}
  {result : Except Failure (Option ReadOutcome)}

theorem misses_cons (first : Nat) (frame : Vector UInt8 settings.frameLength.toNat)
    (frames : List (Vector UInt8 settings.frameLength.toNat)) :
    misses settings first (frame :: frames) =
      polled settings (.ok frame) ++
        told (.frameNotReady (UInt32.ofNat first)) :: misses settings (first + 1) frames := by
  unfold misses
  rw [List.zipIdx_cons, List.flatMap_cons]
  rfl

/-- Each frame that is not ready takes one wait and one read. -/
theorem counts_misses (first : Nat)
    (frames : List (Vector UInt8 settings.frameLength.toNat)) :
    (misses settings first frames).countP isWait = frames.length ∧
      (paymentCalls (misses settings first frames)).length = frames.length := by
  induction frames generalizing first with
  | nil => exact ⟨rfl, rfl⟩
  | cons frame frames ih =>
    obtain ⟨hwaits, hreads⟩ := ih (first + 1)
    have hpaid : ∀ calls, paymentCalls (told (.frameNotReady (UInt32.ofNat first)) :: calls) =
        paymentCalls calls := fun _ => rfl
    have hwait : ∀ calls, (told (.frameNotReady (UInt32.ofNat first)) :: calls).countP isWait =
        calls.countP isWait := fun _ => List.countP_cons_of_neg Bool.false_ne_true
    rw [misses_cons, List.countP_append, paymentCalls_append, List.length_append, hpaid, hwait,
      hwaits, hreads, List.length_cons]
    exact ⟨Nat.add_comm 1 _, Nat.add_comm 1 _⟩

/-- A run that polls while it may reads frames that are not ready up to its ending. -/
theorem ReadProcedure.poll_misses {fuel : Nat} (polls : Nat) (hphase : before.phase = .polling)
    (hpolls : before.polls = UInt32.ofNat polls)
    (h : (poll (unbufferedRound settings) fuel).Path before calls result after) :
    ∃ frames ending, (∀ frame ∈ frames, ¬Payment.Announces frame.toList) ∧
      frames.length ≤ fuel ∧ calls = misses settings (polls + 1) frames ++ ending ∧
      LastPoll settings (polls + frames.length + 1) (fuel - frames.length) ending result := by
  -- on the rounds that are left; the number of the next poll goes up as they go down
  induction fuel generalizing before calls polls with
  | zero =>
    obtain ⟨rfl, rfl, rfl⟩ := path_pure_iff.mp h
    exact ⟨[], [], List.forall_mem_nil _, Nat.le_refl 0, rfl, .unfinished rfl⟩
  | succ fuel ih =>
    have hnext : before.polls + 1 = UInt32.ofNat (polls + 1) := by
      rw [hpolls, UInt32.ofNat_add]
      rfl
    rw [poll, path_look_bind_iff] at h
    obtain ⟨raised, rest, h, rfl⟩ := h
    cases raised with
    | true =>
      -- the flag is up at the first look
      obtain ⟨rfl, rfl, rfl⟩ := release_path h
      rw [hphase]
      exact ⟨[], _, List.forall_mem_nil _, Nat.zero_le _, rfl, .stopped⟩
    | false =>
      rw [if_neg Bool.false_ne_true, path_bind_iff] at h
      obtain ⟨failure, hround, rfl⟩ | ⟨value, middle, first, second, hround, hrest, rfl⟩ := h
      · cases unbufferedRound_path hphase hround with
        | failed fault =>
          exact ⟨[], _, List.forall_mem_nil _, Nat.zero_le _, rfl, .failed fault⟩
      · cases unbufferedRound_path hphase hround with
        | notReady frame hframe =>
          have hpolling : ({ before with polls := before.polls + 1 } : Standing).phase = .polling :=
            hphase
          -- the polls of the rest come behind this one, each with a number one higher
          obtain ⟨frames, ending, hframes, hlength, rfl, hlast⟩ :=
            ih (polls + 1) hpolling hnext hrest
          refine ⟨frame :: frames, ending, ?_, ?_, ?_, ?_⟩
          · rw [List.forall_mem_cons]
            exact ⟨Payment.not_announces_of_isReady hframe, hframes⟩
          · rw [List.length_cons]
            omega
          · rw [hnext, misses_cons]
            rfl
          · have hnumber :
                polls + (frame :: frames).length + 1 = polls + 1 + frames.length + 1 := by
              rw [List.length_cons]
              omega
            have hleft : fuel + 1 - (frame :: frames).length = fuel - frames.length := by
              rw [List.length_cons]
              omega
            rw [hnumber, hleft]
            exact hlast
        | ready frame hframe =>
          obtain ⟨rfl, rfl, rfl⟩ := path_pure_iff.mp hrest
          refine ⟨[], _, List.forall_mem_nil _, Nat.zero_le _, rfl, ?_⟩
          rw [List.append_nil, hnext]
          exact .ready frame ((Payment.isReady_iff _).mp hframe)

/-- A run for a payment frame that is not refused polls from the first number on. -/
theorem ReadProcedure.read_misses {settings : Settings} {fuel : Nat}
    (hrefusal : settings.refusal? .payment = none)
    (h : (read settings .payment fuel).Path before calls result after) :
    ∃ frames ending, (∀ frame ∈ frames, ¬Payment.Announces frame.toList) ∧
      frames.length ≤ fuel ∧
      calls = entered .idle .polling ++ misses settings.payment 1 frames ++ ending ∧
      LastPoll settings.payment (frames.length + 1) (fuel - frames.length) ending result := by
  rw [read_eq, hrefusal] at h
  have hreset : (enter .polling >>= fun _ => poll (unbufferedRound settings.payment) fuel).Path {}
      calls result after := h
  rw [path_enter_bind_iff] at hreset
  obtain ⟨rest, hpoll, rfl⟩ := hreset
  obtain ⟨frames, ending, hframes, hfuel, rfl, hlast⟩ := poll_misses 0 rfl rfl hpoll
  rw [Nat.zero_add] at hlast
  exact ⟨frames, ending, hframes, hfuel, (List.append_assoc _ _ _).symm, hlast⟩

end Polls

/-! ### Runs -/

/-- A run for a payment frame, on whatever hardware and from whatever standing. A frame length of
zero or above 64 is refused, and nothing is done. Otherwise the run goes over to polling and makes
polls: each looks at the stop flag, waits and reads a frame of that length. The frames are told with
their numbers as long as the lowest bit of their first byte is clear, and the first one that has it
set is returned as it was read; before that the run ends only if a read fails, if it is stopped or
if no more polls are allowed for. So a frame that is returned after some that were not ready took
one wait and one read more than there are of those. -/
theorem read_payment_firstReady {σ : Type} (w : World TagStation σ) (settings : Settings)
    (fuel : Nat) (standing : Standing) (s : σ) :
    let run := (ReadProcedure.read settings .payment fuel).run.run standing
    let calls := run.calls w s
    let result := (run.eval w s).1.1
    let length := settings.payment.frameLength
    if length = 0 then calls = [] ∧ result = .error (.bus .emptyFrame)
    else if 64 < length then calls = [] ∧ result = .error (.bus (.frameTooLong length))
    else
      ∃ frames ending, (∀ frame ∈ frames, ¬Payment.Announces frame.toList) ∧
        calls = entered .idle .polling ++ misses settings.payment 1 frames ++ ending ∧
        LastPoll settings.payment (frames.length + 1) (fuel - frames.length) ending result ∧
        frames.length ≤ fuel ∧
        ((∃ reading, result = .ok (some (.read reading))) →
          calls.countP isWait = frames.length + 1 ∧
            (paymentCalls calls).length = frames.length + 1) := by
  intro run calls result length
  have hpath : (ReadProcedure.read settings .payment fuel).Path standing calls result
      (run.eval w s).1.2 := Program.path_calls w run s
  -- the two lengths that are refused at once, and then all others
  by_cases hzero : length = 0
  · rw [if_pos hzero]
    have hrefusal : settings.refusal? .payment = some .emptyFrame := if_pos hzero
    obtain ⟨hcalls, hresult, _⟩ := ReadProcedure.read_refused hrefusal hpath
    exact ⟨hcalls, hresult⟩
  rw [if_neg hzero]
  by_cases hlong : 64 < length
  · rw [if_pos hlong]
    have hrefusal : settings.refusal? .payment = some (.frameTooLong length) :=
      (if_neg hzero).trans (if_pos hlong)
    obtain ⟨hcalls, hresult, _⟩ := ReadProcedure.read_refused hrefusal hpath
    exact ⟨hcalls, hresult⟩
  rw [if_neg hlong]
  have hrefusal : settings.refusal? .payment = none := (if_neg hzero).trans (if_neg hlong)
  obtain ⟨frames, ending, hframes, hfuel, hcalls, hlast⟩ :=
    ReadProcedure.read_misses hrefusal hpath
  refine ⟨frames, ending, hframes, hcalls, hlast, hfuel, ?_⟩
  -- something was read, so the last poll is one more than those that missed
  rintro ⟨reading, hreading⟩
  obtain ⟨hwaits, hreads⟩ := counts_misses 1 frames
  rw [hreading] at hlast
  cases hlast with
  | ready =>
    rw [hcalls, List.countP_append, List.countP_append, paymentCalls_append, paymentCalls_append,
      List.length_append, List.length_append, hwaits, hreads]
    exact ⟨congrArg (· + 1) (Nat.zero_add _), congrArg (· + 1) (Nat.zero_add _)⟩

/-- A payment reader whose frames begin with the status bytes it is given, and fail after those. -/
def handingOut : World TagStation (List UInt8) where
  answer
    | .inl .request, left => (.error .transport, left)
    | .inl .anticollision, left => (.error .transport, left)
    | .inl (.select _), left => (.error .transport, left)
    | .inl (.authenticate _ _ _), left => (.error .transport, left)
    | .inl (.read _), left => (.error .transport, left)
    | .inr (.inl (.read _ _)), [] => (.error .readFailed, [])
    | .inr (.inl (.read _ length)), status :: left =>
      (.ok ⟨((List.replicate length 0xAB).set 0 status).toArray, by simp⟩, left)
    | .inr (.inr (.inl .release)), left => ((), left)
    | .inr (.inr (.inr (.inl .look))), left => (false, left)
    | .inr (.inr (.inr (.inr (.inl _)))), left => ((), left)
    | .inr (.inr (.inr (.inr (.inr _)))), left => ((), left)

/-- Settings with frames of two bytes. -/
def twoBytes : Settings := { payment := { frameLength := 2 } }

/-- Of the frames that are handed out the third one is the first that is ready. -/
theorem read_payment_third :
    (((ReadProcedure.read twoBytes .payment 5).run.run {}).eval handingOut
      [0x00, 0xFE, 0x03, 0x01]).1.1 = .ok (some (.read (.frame [0x03, 0xAB]))) ∧
    ∃ frames ending, frames.length = 2 ∧ (∀ frame ∈ frames, ¬Payment.Announces frame.toList) ∧
      ((ReadProcedure.read twoBytes .payment 5).run.run {}).calls handingOut
        [0x00, 0xFE, 0x03, 0x01] =
          entered .idle .polling ++ misses twoBytes.payment 1 frames ++ ending ∧
      LastPoll twoBytes.payment 3 3 ending (.ok (some (.read (.frame [0x03, 0xAB])))) := by
  -- evaluated without the buffer
  have hrun : (ReadProcedure.read twoBytes .payment 5).run.run {} = ((do
      ReadProcedure.reset
      ReadProcedure.enter .polling
      ReadProcedure.poll (ReadProcedure.unbufferedRound twoBytes.payment) 5).run.run {}) := by
    rw [ReadProcedure.read_eq]
    rfl
  have hresult : (((ReadProcedure.read twoBytes .payment 5).run.run {}).eval handingOut
      [0x00, 0xFE, 0x03, 0x01]).1.1 = .ok (some (.read (.frame [0x03, 0xAB]))) := by
    rw [hrun]
    rfl
  have hwaits : (((ReadProcedure.read twoBytes .payment 5).run.run {}).calls handingOut
      [0x00, 0xFE, 0x03, 0x01]).countP isWait = 3 := by
    rw [hrun]
    rfl
  have h := read_payment_firstReady handingOut twoBytes 5 {} [0x00, 0xFE, 0x03, 0x01]
  rw [if_neg (by decide), if_neg (by decide)] at h
  simp only [hresult] at h ⊢
  obtain ⟨frames, ending, hframes, hcalls, hlast, _, hcounts⟩ := h
  have hlength : frames.length = 2 := by
    have hcount := (hcounts ⟨_, rfl⟩).1
    omega
  rw [hlength] at hlast
  exact ⟨trivial, frames, ending, hlength, hframes, hcalls, hlast⟩

end DrinkMixer
