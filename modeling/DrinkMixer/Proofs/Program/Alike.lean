import DrinkMixer.Program.World

/-!
# Programs that do the same

Two programs are alike if they ask the same requests whatever is answered, and end with values that
are related (`Alike`). Two worlds are alike if they answer in the same way as long as their states
are related (`World.Alike`).

Main statements: `Alike.bind`, alike programs go on alike, and `Alike.eval`, alike programs cannot
be told apart by what they ask of a world and how they leave it. `World.Alike.run`, programs cannot
tell alike worlds apart.
-/

namespace DrinkMixer.Program

variable {S T : Signature} {α β γ δ σ : Type}

/-- The same requests whatever is answered, and related values at the end. -/
inductive Alike (R : α → β → Prop) : Program S α → Program S β → Prop
  | done {x : α} {y : β} (h : R x y) : Alike R (.done x) (.done y)
  | ask {op : S.Op} {next : S.Answer op → Program S α} {next' : S.Answer op → Program S β}
      (h : ∀ answer, Alike R (next answer) (next' answer)) : Alike R (.ask op next) (.ask op next')

variable {R : α → β → Prop} {R' : γ → δ → Prop} {p : Program S α} {q : Program S β}

theorem Alike.refl {R : α → α → Prop} (h : ∀ x, R x x) (p : Program S α) : Alike R p p := by
  induction p with
  | done value => exact .done (h value)
  | ask op next ih => exact .ask ih

/-- Programs that are alike up to a point are alike if they go on alike from there. -/
theorem Alike.bind {f : α → Program S γ} {g : β → Program S δ} (h : Alike R p q)
    (hnext : ∀ x y, R x y → Alike R' (f x) (g y)) : Alike R' (p >>= f) (q >>= g) := by
  induction h with
  | done h => exact hnext _ _ h
  | ask _ ih => exact .ask ih

theorem Alike.lift [Offers T S] (h : Alike R p q) :
    Alike R (p.lift : Program T α) (q.lift : Program T β) := by
  induction h with
  | done h => exact .done h
  | ask _ ih => exact .ask fun _ => ih _

/-- Programs that are alike make the same calls. -/
theorem Alike.calls_eq (h : Alike R p q) (w : World S σ) (s : σ) : p.calls w s = q.calls w s := by
  induction h generalizing s with
  | done => rfl
  | ask _ ih => exact congrArg (_ :: ·) (ih _ _)

/-- Programs that are alike end with related values and leave the same world behind. -/
theorem Alike.eval (h : Alike R p q) (w : World S σ) (s : σ) :
    R (p.eval w s).1 (q.eval w s).1 ∧ (p.eval w s).2 = (q.eval w s).2 := by
  induction h generalizing s with
  | done h => exact ⟨h, rfl⟩
  | ask _ ih => exact ih _ _

end DrinkMixer.Program

namespace DrinkMixer

/-- Related states are answered in the same way, and are related again after it. -/
structure World.Alike {S : Signature} {σ ρ : Type} (R : σ → ρ → Prop) (w : World S σ)
    (v : World S ρ) : Prop where
  answer : ∀ op {s r}, R s r →
    (w.answer op s).1 = (v.answer op r).1 ∧ R (w.answer op s).2 (v.answer op r).2

/-- A program does the same in worlds that are alike, and leaves them in related states. -/
theorem World.Alike.run {S : Signature} {σ ρ α : Type} {R : σ → ρ → Prop} {w : World S σ}
    {v : World S ρ} (h : w.Alike R v) (p : Program S α) {s : σ} {r : ρ} (hs : R s r) :
    p.calls w s = p.calls v r ∧ (p.eval w s).1 = (p.eval v r).1 ∧
      R (p.eval w s).2 (p.eval v r).2 := by
  induction p generalizing s r with
  | done value => exact ⟨rfl, rfl, hs⟩
  | ask op next ih =>
    obtain ⟨hanswer, hnext⟩ := h.answer op hs
    obtain ⟨hcalls, hresult, hrelated⟩ := ih (w.answer op s).1 hnext
    simp only [Program.calls, Program.eval, ← hanswer]
    exact ⟨congrArg _ hcalls, hresult, hrelated⟩

end DrinkMixer
