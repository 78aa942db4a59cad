import DrinkMixer.Proofs.Program.Moments
import DrinkMixer.Proofs.Program.Runs

/-!
# Conditions on every call

A condition on calls and the states in which they are made holds throughout a run if it holds of
each of its calls (`Throughout`). It is shown step by step along the program, as the program itself
runs.

Main statements: `throughout_iff`, the condition at each call of a run, `throughout_run_bind_iff`
for one thing after another, and `Throughout.invariant`, what such calls keep holds at every moment.
-/

namespace DrinkMixer.Program

variable {S : Signature} {σ α β ε : Type}

/-- Each call of a run meets a condition in the state in which it is made. -/
def Throughout (w : World S σ) (Q : σ → Call S → Prop) : Program S α → σ → Prop
  | done _, _ => True
  | ask op next, s =>
    Q s ⟨op, (w.answer op s).1⟩ ∧ (next (w.answer op s).1).Throughout w Q (w.answer op s).2

variable {w : World S σ} {Q : σ → Call S → Prop} {s : σ}

theorem throughout_iff {p : Program S α} :
    p.Throughout w Q s ↔ ∀ before call after, p.calls w s = before ++ call :: after →
      Q (w.after (before.map Call.op) s) call := by
  induction p generalizing s with
  | done value => simp [Throughout]
  | ask op next ih =>
    rw [Throughout, calls, ih]
    constructor
    · rintro ⟨hfirst, hrest⟩ before call after hsplit
      -- the call is the first one, or one of those that follow it
      cases before with
      | nil =>
        obtain ⟨rfl, _⟩ := List.cons.inj hsplit
        exact hfirst
      | cons first before =>
        obtain ⟨rfl, hcalls⟩ := List.cons.inj hsplit
        exact hrest before call after hcalls
    · intro h
      refine ⟨h [] _ _ rfl, fun before call after hcalls => ?_⟩
      have hsplit := congrArg (⟨op, (w.answer op s).1⟩ :: ·) hcalls
      exact h (_ :: before) call after hsplit

/-- What each call of a run keeps holds at every moment of it. -/
theorem Throughout.invariant {I : σ → Prop} {p : Program S α} (h : p.Throughout w Q s)
    (hstep : ∀ s op, I s → Q s ⟨op, (w.answer op s).1⟩ → I (w.answer op s).2) (hs : I s)
    {before after : List (Call S)} (hcalls : p.calls w s = before ++ after) :
    I (w.after (before.map Call.op) s) := by
  induction p generalizing s before with
  | done value =>
    obtain ⟨rfl, _⟩ := List.nil_eq_append_iff.mp hcalls
    exact hs
  | ask op next ih =>
    cases before with
    | nil => exact hs
    | cons first before =>
      obtain ⟨rfl, hrest⟩ := List.cons.inj hcalls
      exact ih _ h.2 (hstep s op hs h.1) hrest

theorem throughout_request_iff {T : Signature} [Offers S T] {op : T.Op} :
    (request op : Program S (T.Answer op)).Throughout w Q s ↔
      Q s ⟨Offers.inject op, (w.answer (Offers.inject op) s).1⟩ :=
  iff_of_eq (and_true _)

theorem throughout_bind_iff {p : Program S α} {f : α → Program S β} :
    (p >>= f).Throughout w Q s ↔
      p.Throughout w Q s ∧ (f (p.eval w s).1).Throughout w Q (p.eval w s).2 := by
  induction p generalizing s with
  | done value => exact (iff_of_eq (true_and _)).symm
  | ask op next ih =>
    rw [ask_bind, Throughout, Throughout, ih, and_assoc]
    rfl

/-- Procedures one after the other: where the first one fails, nothing is asked any more. -/
theorem throughout_run_bind_iff {p : ExceptT ε (Program S) α} {f : α → ExceptT ε (Program S) β} :
    (p >>= f).run.Throughout w Q s ↔
      p.run.Throughout w Q s ∧
        ∀ value middle, Runs w p s (.ok value) middle → (f value).run.Throughout w Q middle := by
  rw [ExceptT.run_bind, throughout_bind_iff]
  refine and_congr_right fun _ => ?_
  rcases exists_runs w p s with ⟨failure | value, middle, hrun⟩
  · have heval : p.run.eval w s = (.error failure, middle) := hrun
    rw [heval]
    refine iff_of_true trivial ?_
    rintro value' middle' hrun'
    cases hrun.symm.trans hrun'
  · have heval : p.run.eval w s = (.ok value, middle) := hrun
    rw [heval]
    constructor
    · rintro h value' middle' hrun'
      cases hrun.symm.trans hrun'
      exact h
    · intro h
      exact h value middle hrun

end DrinkMixer.Program
