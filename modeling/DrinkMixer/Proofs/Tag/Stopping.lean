import DrinkMixer.Proofs.Program.Moments
import DrinkMixer.Proofs.Tag.WindingUp

/-!
# Stopping the tag reader

The stop flag is raised by someone else, before a run or while any of its calls is being answered,
and it stays raised (`StopFlag`). From then on no round begins, and the run ends when the round in
progress does.

Main statement: `read_stops`, in either mode and on whatever hardware a run winds up once the flag
is raised, and the pins are given back once and last if it is stopped, and never otherwise.
-/

namespace DrinkMixer

open TagStation

/-! ### The stop flag -/

/-- The request to look at the stop flag. -/
def TagStation.look : TagStation.Op :=
  .inr (.inr (.inr (.inl .look)))

/-- A flag in the state of a world that looking shows. Any other call may raise it. -/
structure StopFlag {σ : Type} (w : World TagStation σ) where
  raised : σ → Bool
  /-- A look shows the flag. -/
  look_shows : ∀ s, (w.answer look s).1 = raised s
  /-- A look does not raise the flag. -/
  look_keeps : ∀ s, raised (w.answer look s).2 = raised s
  /-- A raised flag stays raised. -/
  stays : ∀ op s, raised s = true → raised (w.answer op s).2 = true

namespace StopFlag

variable {σ α : Type} {w : World TagStation σ} (flag : StopFlag w) {s : σ}

theorem raised_after (ops : List TagStation.Op) (h : flag.raised s = true) :
    flag.raised (w.after ops s) = true := by
  induction ops generalizing s with
  | nil => exact h
  | cons op ops ih => exact ih (flag.stays op s h)

variable {p : Program TagStation α} {earlier later : List (Call TagStation)}

/-- Once the flag is raised, every look finds it up. -/
theorem looked_false_not_mem (hcalls : p.calls w s = earlier ++ later)
    (hraised : flag.raised (w.after (earlier.map Call.op) s) = true) : looked false ∉ later := by
  intro hmem
  obtain ⟨before, rest, rfl⟩ := List.append_of_mem hmem
  rw [← List.append_assoc] at hcalls
  have hanswer : false = (w.answer look (w.after ((earlier ++ before).map Call.op) s)).1 :=
    Program.answer_of_calls_eq hcalls
  rw [flag.look_shows, List.map_append, World.after_append, flag.raised_after _ hraised] at hanswer
  cases hanswer

/-- Directly after a look that finds the flag down, it is down. -/
theorem getLast?_ne (hcalls : p.calls w s = earlier ++ later)
    (hraised : flag.raised (w.after (earlier.map Call.op) s) = true) :
    earlier.getLast? ≠ some (looked false) := by
  intro hlast
  obtain ⟨before, rfl⟩ := List.getLast?_eq_some_iff.mp hlast
  rw [List.append_assoc] at hcalls
  have hanswer : false = (w.answer look (w.after (before.map Call.op) s)).1 :=
    Program.answer_of_calls_eq hcalls
  have hkeeps : flag.raised (w.answer look (w.after (before.map Call.op) s)).2 = true := by
    rw [List.map_append, World.after_append] at hraised
    exact hraised
  rw [flag.look_keeps, ← flag.look_shows, ← hanswer] at hkeeps
  cases hkeeps

end StopFlag

/-! ### More rounds -/

namespace ReadProcedure

/-- Goes on unless there is an outcome. -/
def orElse (more : ReadProcedure (Option ReadOutcome)) :
    Option ReadOutcome → ReadProcedure (Option ReadOutcome)
  | some outcome => pure (some outcome)
  | none => more

/-- With more rounds allowed for, what was not finished is gone on with. -/
theorem poll_add (round : ReadProcedure (Option Reading)) (first more : Nat) :
    poll round (first + more) = poll round first >>= orElse (poll round more) := by
  induction first with
  | zero =>
    rw [Nat.zero_add, poll, pure_bind]
    rfl
  | succ first ih =>
    rw [Nat.succ_add, poll, poll, bind_assoc]
    congr 1
    funext raised
    cases raised with
    | true =>
      rw [if_pos rfl, if_pos rfl, bind_map_left]
      exact map_eq_pure_bind _ _
    | false =>
      rw [if_neg Bool.false_ne_true, if_neg Bool.false_ne_true, bind_assoc]
      congr 1
      funext value
      cases value with
      | some reading =>
        rw [pure_bind]
        rfl
      | none => exact ih

theorem read_add (settings : Settings) (mode : ReaderMode) (first more : Nat) :
    read settings mode (first + more) =
      read settings mode first >>= orElse (poll (round settings mode) more) := by
  rw [read_eq, read_eq, bind_assoc]
  congr 1
  funext _
  cases settings.refusal? mode with
  | some fault => rfl
  | none =>
    rw [bind_assoc, poll_add]

variable {σ : Type} {w : World TagStation σ} {standing : Standing} {s : σ}

/-- A run that is begun with the flag raised is stopped at once. -/
theorem eval_poll_of_raised (flag : StopFlag w) (round : ReadProcedure (Option Reading))
    (more : Nat) (h : flag.raised s = true) :
    (((poll round (more + 1)).run.run standing).eval w s).1.1 = .ok (some .cancelled) := by
  have hpath : (poll round (more + 1)).Path standing _ _ _ :=
    Program.path_calls w ((poll round (more + 1)).run.run standing) s
  generalize hcalls : ((poll round (more + 1)).run.run standing).calls w s = calls at hpath
  rw [poll, path_look_bind_iff] at hpath
  obtain ⟨raised, rest, hrest, rfl⟩ := hpath
  have hfirst : ((poll round (more + 1)).run.run standing).calls w s =
      [] ++ looked raised :: rest := hcalls
  have hanswer : raised = (w.answer look s).1 := Program.answer_of_calls_eq hfirst
  rw [flag.look_shows, h] at hanswer
  subst hanswer
  exact (release_path hrest).2.1

/-- With more rounds allowed for, a run begins with the same calls. -/
theorem calls_read_prefix (w : World TagStation σ) (settings : Settings) (mode : ReaderMode)
    {fuel more : Nat} (hmore : fuel ≤ more) (standing : Standing) (s : σ) :
    ((read settings mode fuel).run.run standing).calls w s <+:
      ((read settings mode more).run.run standing).calls w s := by
  obtain ⟨extra, rfl⟩ := Nat.exists_eq_add_of_le hmore
  rw [read_add, ExceptT.run_bind, StateT.run_bind, Program.calls_bind]
  exact List.prefix_append _ _

/-- A run that is finished, or whose flag is raised at the end, is finished with any more rounds. -/
theorem eval_read_ne_none (flag : StopFlag w) (settings : Settings) (mode : ReaderMode)
    {fuel more : Nat} (hmore : fuel < more)
    (h : flag.raised (((read settings mode fuel).run.run standing).eval w s).2 = true) :
    (((read settings mode more).run.run standing).eval w s).1.1 ≠ .ok none := by
  obtain ⟨extra, rfl⟩ := Nat.exists_eq_add_of_lt hmore
  rw [Nat.add_assoc, read_add, ExceptT.run_bind, StateT.run_bind, Program.eval_bind]
  generalize ((read settings mode fuel).run.run standing).eval w s = first at h ⊢
  obtain ⟨⟨result, middle⟩, s'⟩ := first
  rcases result with failure | _ | outcome
  · simp
  · -- the next look finds the flag up
    have hstopped : (((poll (round settings mode) (extra + 1)).run.run middle).eval w s').1.1 =
        .ok (some .cancelled) := eval_poll_of_raised flag _ extra h
    show (((poll (round settings mode) (extra + 1)).run.run middle).eval w s').1.1 ≠ .ok none
    rw [hstopped]
    simp
  · show (Except.ok (some outcome) : Except Failure (Option ReadOutcome)) ≠ .ok none
    simp

end ReadProcedure

/-! ### Runs of either mode -/

/-- What a run of either mode does, on whatever hardware and from whatever standing.

Once the stop flag is raised, it winds up: no round begins any more, and the same run is finished if
more rounds are allowed for. If it is stopped, the last things that it does are to find the flag
raised, to tell so and to give the pins back, and it did neither of these before; otherwise it never
does. -/
theorem read_stops {σ : Type} (w : World TagStation σ) (flag : StopFlag w) (settings : Settings)
    (mode : ReaderMode) (fuel : Nat) (standing : Standing) (s : σ) :
    let run := fun fuel => (ReadProcedure.read settings mode fuel).run.run standing
    let calls := (run fuel).calls w s
    let result := ((run fuel).eval w s).1.1
    (∀ earlier later, calls = earlier ++ later →
      flag.raised (w.after (earlier.map Call.op) s) = true →
      WoundUp settings mode earlier later result ∧
      ∀ more > fuel, calls <+: (run more).calls w s ∧ ((run more).eval w s).1.1 ≠ .ok none) ∧
    (result = .ok (some .cancelled) → ∃ earlier phase,
      calls = earlier ++ looked true :: interrupted phase ∧ (∀ call ∈ earlier, ¬isCleanup call) ∧
      flag.raised (w.after (earlier.map Call.op) s) = true) ∧
    (result ≠ .ok (some .cancelled) → ∀ call ∈ calls, ¬isCleanup call) := by
  intro run calls result
  have hpath : (ReadProcedure.read settings mode fuel).Path standing calls result
      ((run fuel).eval w s).1.2 := Program.path_calls w (run fuel) s
  refine ⟨?_, ?_, fun hresult => ReadProcedure.read_noCleanup hpath hresult⟩
  · intro earlier later hsplit hraised
    have hlater : looked false ∉ later := flag.looked_false_not_mem hsplit hraised
    have hearlier := flag.getLast?_ne hsplit hraised
    refine ⟨ReadProcedure.read_woundUp hpath hsplit hlater hearlier, ?_⟩
    intro more hmore
    refine ⟨ReadProcedure.calls_read_prefix w settings mode (Nat.le_of_lt hmore) standing s, ?_⟩
    refine ReadProcedure.eval_read_ne_none flag settings mode hmore ?_
    have hend : ((run fuel).eval w s).2 =
        w.after (later.map Call.op) (w.after (earlier.map Call.op) s) := by
      rw [Program.eval_snd_eq_after, ← World.after_append, ← List.map_append]
      exact congrArg (fun calls => w.after (calls.map Call.op) s) hsplit
    rw [hend]
    exact flag.raised_after _ hraised
  · intro hresult
    rw [hresult] at hpath
    obtain ⟨earlier, phase, hsplit, hkept⟩ := ReadProcedure.read_interrupted_of_cancelled hpath
    refine ⟨earlier, phase, hsplit, hkept, ?_⟩
    -- the flag is what the last look showed
    have hanswer : true = (w.answer look (w.after (earlier.map Call.op) s)).1 :=
      Program.answer_of_calls_eq hsplit
    rw [flag.look_shows] at hanswer
    exact hanswer.symm

/-! ### Hardware that is stopped from outside -/

/-- Hardware whose stop flag is raised while the given calls are being answered. -/
def World.stoppable {σ : Type} (w : World TagStation σ) (raises : TagStation.Op → σ → Bool) :
    World TagStation (σ × Bool) where
  answer op s :=
    match op with
    | .inr (.inr (.inr (.inl .look))) => (s.2, s)
    | op => ((w.answer op s.1).1, (w.answer op s.1).2, s.2 || raises op s.1)

/-- The stop flag of such hardware. -/
def World.stopFlag {σ : Type} (w : World TagStation σ) (raises : TagStation.Op → σ → Bool) :
    StopFlag (w.stoppable raises) where
  raised s := s.2
  look_shows _ := rfl
  look_keeps _ := rfl
  stays op s h := by
    unfold stoppable
    dsimp only
    split
    · exact h
    · rw [h]
      rfl

/-- A payment reader that never has a frame ready, with the number of waits so far. -/
def unready : World TagStation Nat where
  answer
    | .inl .request, n => (.ok .noTag, n)
    | .inl .anticollision, n => (.ok none, n)
    | .inl (.select _), n => (.ok (), n)
    | .inl (.authenticate _ _ _), n => (.ok .noTag, n)
    | .inl (.read _), n => (.error .protocol, n)
    | .inr (.inl (.read _ length)), n => (.ok (Vector.replicate length 0), n)
    | .inr (.inr (.inl .release)), n => ((), n)
    | .inr (.inr (.inr (.inl .look))), n => (false, n)
    | .inr (.inr (.inr (.inr (.inl (.wait _))))), n => ((), n + 1)
    | .inr (.inr (.inr (.inr (.inl (.note _))))), n => ((), n)
    | .inr (.inr (.inr (.inr (.inr _)))), n => ((), n)

/-- The second wait. -/
def inSecondWait : TagStation.Op → Nat → Bool
  | .inr (.inr (.inr (.inr (.inl (.wait _))))), n => n == 1
  | _, _ => false

/-- A run for a payment frame is stopped in its second wait, and reads one more frame. -/
theorem read_stops_second_wait :
    let w := unready.stoppable inSecondWait
    let calls := ((ReadProcedure.read {} .payment 5).run.run {}).calls w (0, false)
    let result := (((ReadProcedure.read {} .payment 5).run.run {}).eval w (0, false)).1.1
    result = .ok (some .cancelled) ∧
    (w.after ((calls.take 8).map Call.op) (0, false)).2 = true ∧
    (paymentCalls (calls.drop 8)).length = 1 ∧
    WoundUp {} .payment (calls.take 8) (calls.drop 8) result ∧
    ∃ earlier phase, calls = earlier ++ looked true :: interrupted phase ∧
      ∀ call ∈ earlier, ¬isCleanup call := by
  intro w calls result
  have hresult : result = .ok (some .cancelled) := rfl
  have hraised : (w.after ((calls.take 8).map Call.op) (0, false)).2 = true := rfl
  have hframes : (paymentCalls (calls.drop 8)).length = 1 := rfl
  obtain ⟨hwound, hstopped, _⟩ := read_stops w (unready.stopFlag inSecondWait) {} .payment 5 {}
    (0, false)
  obtain ⟨earlier, phase, hsplit, hkept, _⟩ := hstopped hresult
  refine ⟨hresult, hraised, hframes, ?_, earlier, phase, hsplit, hkept⟩
  exact (hwound _ _ (List.take_append_drop 8 calls).symm hraised).1

end DrinkMixer
