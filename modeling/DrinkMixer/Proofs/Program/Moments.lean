import DrinkMixer.Proofs.Program.Path

/-!
# Moments of a run

Between two calls of a run the world is in a state that depends on the requests before that moment
only (`World.after`).

Main statements: `eval_snd_eq_after`, a run ends in the state after all its calls,
`answer_of_calls_eq`, each call is answered in the state after those before it, and `carries_calls`,
the calls below a realization carry out those that are made above it.
-/

namespace DrinkMixer

namespace World

variable {S : Signature} {σ : Type} (w : World S σ)

/-- The state after some requests. -/
def after (ops : List S.Op) (s : σ) : σ :=
  ops.foldl (fun s op => (w.answer op s).2) s

@[simp] theorem after_cons (op : S.Op) (ops : List S.Op) (s : σ) :
    w.after (op :: ops) s = w.after ops (w.answer op s).2 := rfl

theorem after_append (first second : List S.Op) (s : σ) :
    w.after (first ++ second) s = w.after second (w.after first s) :=
  List.foldl_append

end World

namespace Program

variable {S : Signature} {σ α : Type}

section Ask

variable {w : World S σ} {p : Program S α} {op : S.Op} {next : S.Answer op → Program S α}
  {answer : S.Answer op} {s s' : σ}

/-- A program that begins with a request goes on with the answer to it. -/
theorem calls_of_eq_ask (hp : p = ask op next) (h : w.answer op s = (answer, s')) :
    p.calls w s = ⟨op, answer⟩ :: (next answer).calls w s' := by
  rw [hp, calls, h]

theorem eval_of_eq_ask (hp : p = ask op next) (h : w.answer op s = (answer, s')) :
    p.eval w s = (next answer).eval w s' := by
  rw [hp, eval, h]

end Ask

/-- A run ends in the state after all its calls. -/
theorem eval_snd_eq_after (w : World S σ) (p : Program S α) (s : σ) :
    (p.eval w s).2 = w.after ((p.calls w s).map Call.op) s := by
  induction p generalizing s with
  | done value => rfl
  | ask op next ih => exact ih _ _

/-- Each call of a run is answered in the state after those before it. -/
theorem answer_of_calls_eq {w : World S σ} {p : Program S α} {s : σ}
    {before rest : List (Call S)} {call : Call S} (h : p.calls w s = before ++ call :: rest) :
    call.answer = (w.answer call.op (w.after (before.map Call.op) s)).1 := by
  induction p generalizing s before with
  | done value => simp at h
  | ask op next ih =>
    rw [calls] at h
    cases before with
    | nil =>
      obtain ⟨rfl, _⟩ := List.cons.inj h
      rfl
    | cons first before =>
      obtain ⟨rfl, hrest⟩ := List.cons.inj h
      have hcall := ih _ hrest
      exact hcall

theorem exists_answer_of_mem_calls {w : World S σ} {p : Program S α} {s : σ} {call : Call S}
    (h : call ∈ p.calls w s) : ∃ s', call.answer = (w.answer call.op s').1 := by
  obtain ⟨before, rest, hsplit⟩ := List.append_of_mem h
  exact ⟨_, answer_of_calls_eq hsplit⟩

end Program

namespace Realization

variable {S T : Signature} {τ σ α : Type}

/-- What a realized program asks below carries out what the program itself asks in the world that
the realization shows it. -/
theorem carries_calls (r : Realization S T τ) (w : World T σ) (p : Program S α) (memory : τ)
    (s : σ) :
    r.Carries memory (p.calls (r.world w) (memory, s)) (((p.realize r).run memory).calls w s)
      (p.eval (r.world w) (memory, s)).2.1 := by
  induction p generalizing memory s with
  | done value => exact .nil memory
  | ask op next ih =>
    have hbelow : (((Program.ask op next).realize r).run memory).calls w s =
        ((r op).run memory).calls w s ++
          (((next (((r op).run memory).eval w s).1.1).realize r).run
            (((r op).run memory).eval w s).1.2).calls w (((r op).run memory).eval w s).2 := by
      rw [Program.realize, StateT.run_bind, Program.calls_bind]
    rw [hbelow]
    exact .cons (Program.path_calls w ((r op).run memory) s) (ih _ _ _)

end Realization

end DrinkMixer
