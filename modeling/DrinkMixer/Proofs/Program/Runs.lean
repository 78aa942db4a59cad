import DrinkMixer.Program.World

/-!
# Runs of procedures that can fail

A run of a procedure in a world goes from one state to another and returns something or fails. Each
step of a procedure cuts its runs in two: the step fails and the run ends there, or the rest runs
from where the step left the world.

Main statements: `runs_bind_iff` for one thing after another, and `Keeps.bind`, what both of two
steps keep is kept by one after the other.
-/

namespace DrinkMixer

namespace World

variable {S T : Signature} {σ : Type}

/-- The world of things that are told and change nothing here. -/
def silent {Op : Type} : World ⟨Op, fun _ => Unit⟩ σ where
  answer _ s := ((), s)

/-- What a world offers to those who ask through it. -/
def offered [Offers T S] (w : World T σ) : World S σ where
  answer op s := (Offers.back op (w.answer (Offers.inject op) s).1,
    (w.answer (Offers.inject op) s).2)

end World

namespace Program

variable {S T : Signature} {σ ε δ α β : Type}

/-- A lifted program does what the program itself does with what is offered to it. -/
theorem eval_lift [Offers T S] (w : World T σ) (p : Program S α) (s : σ) :
    (p.lift : Program T α).eval w s = p.eval w.offered s := by
  induction p generalizing s with
  | done value => rfl
  | ask op next ih =>
    show ((next _).lift : Program T α).eval w _ = (next _).eval w.offered _
    rw [ih]

theorem eval_request [Offers T S] (w : World T σ) (op : S.Op) (s : σ) :
    (request op : Program T (S.Answer op)).eval w s = (w.offered (S := S)).answer op s := rfl

/-- A run of a procedure in a world, from one state to another. -/
def Runs (w : World S σ) (p : ExceptT ε (Program S) α) (s : σ) (result : Except ε α) (s' : σ) :
    Prop :=
  p.run.eval w s = (result, s')

variable {w : World S σ} {s s' : σ}

theorem exists_runs (w : World S σ) (p : ExceptT ε (Program S) α) (s : σ) :
    ∃ result s', Runs w p s result s' :=
  ⟨_, _, rfl⟩

theorem runs_pure_iff {value : α} {result : Except ε α} :
    Runs w (pure value) s result s' ↔ result = .ok value ∧ s' = s := by
  show (Except.ok value, s) = (result, s') ↔ _
  rw [Prod.mk.injEq, eq_comm, @eq_comm _ s]

theorem runs_throw_iff {failure : ε} {result : Except ε α} :
    Runs w (throw failure) s result s' ↔ result = .error failure ∧ s' = s := by
  show (Except.error failure, s) = (result, s') ↔ _
  rw [Prod.mk.injEq, eq_comm, @eq_comm _ s]

section Bind

variable {p : ExceptT ε (Program S) α} {f : α → ExceptT ε (Program S) β} {middle : σ}
  {result : Except ε β}

/-- A step that succeeded is followed by the rest. -/
theorem runs_bind_of_ok {value : α} (h : Runs w p s (.ok value) middle) :
    Runs w (p >>= f) s result s' ↔ Runs w (f value) middle result s' := by
  have hbind : (p >>= f).run.eval w s = (match (p.run.eval w s).1 with
      | .ok value => (f value).run
      | .error failure => pure (.error failure)).eval w (p.run.eval w s).2 :=
    eval_bind w p.run _ s
  unfold Runs at h ⊢
  rw [hbind, h]

/-- A step that failed ends the procedure. -/
theorem runs_bind_of_error {failure : ε} (h : Runs w p s (.error failure) middle) :
    Runs w (p >>= f) s result s' ↔ result = .error failure ∧ s' = middle := by
  have hbind : (p >>= f).run.eval w s = (match (p.run.eval w s).1 with
      | .ok value => (f value).run
      | .error failure => pure (.error failure)).eval w (p.run.eval w s).2 :=
    eval_bind w p.run _ s
  unfold Runs at h ⊢
  rw [hbind, h]
  show (Except.error failure, middle) = (result, s') ↔ _
  rw [Prod.mk.injEq, eq_comm, @eq_comm _ middle]

/-- A run of one thing after another fails in the first or goes on to the second. -/
theorem runs_bind_iff :
    Runs w (p >>= f) s result s' ↔
      (∃ failure, Runs w p s (.error failure) s' ∧ result = .error failure) ∨
      ∃ value middle, Runs w p s (.ok value) middle ∧ Runs w (f value) middle result s' := by
  -- the first step has one run only, so at most one side of the disjunction can hold
  rcases exists_runs w p s with ⟨failure | value, middle, h⟩
  · rw [runs_bind_of_error h]
    constructor
    · rintro ⟨rfl, rfl⟩
      exact Or.inl ⟨failure, h, rfl⟩
    · rintro (⟨_, h', rfl⟩ | ⟨_, _, h', _⟩) <;> cases h.symm.trans h'
      exact ⟨rfl, rfl⟩
  · rw [runs_bind_of_ok h]
    constructor
    · intro hrest
      exact Or.inr ⟨value, middle, h, hrest⟩
    · rintro (⟨_, h', _⟩ | ⟨_, _, h', hrest⟩) <;> cases h.symm.trans h'
      exact hrest

end Bind

/-- A step that cannot fail. -/
theorem runs_always_iff {p : Program S α} {result : Except ε α} :
    Runs w (always p) s result s' ↔ result = .ok (p.eval w s).1 ∧ s' = (p.eval w s).2 := by
  show (p >>= fun value => done (Except.ok value : Except ε α)).eval w s = _ ↔ _
  rw [eval_bind, eval_done, Prod.mk.injEq, eq_comm, @eq_comm _ (p.eval w s).2]

theorem runs_always_bind_iff {p : Program S α} {f : α → ExceptT ε (Program S) β}
    {result : Except ε β} :
    Runs w (always p >>= f) s result s' ↔
      Runs w (f (p.eval w s).1) (p.eval w s).2 result s' :=
  runs_bind_of_ok (runs_always_iff.mpr ⟨rfl, rfl⟩)

/-- A request whose failure ends the procedure. -/
theorem runs_attempt_iff {wrap : ε → δ} {p : Program S (Except ε α)} {result : Except δ α} :
    Runs w (attempt wrap p) s result s' ↔
      ∃ answer, p.eval w s = (answer, s') ∧ result = answer.mapError wrap := by
  unfold Runs
  show (p >>= fun answer => done (answer.mapError wrap)).eval w s = _ ↔ _
  rw [eval_bind, eval_done, Prod.mk.injEq]
  constructor
  · rintro ⟨rfl, rfl⟩
    exact ⟨_, rfl, rfl⟩
  · rintro ⟨answer, h, rfl⟩
    rw [h]
    exact ⟨rfl, rfl⟩

/-! ### Conditions kept by all steps -/

/-- Started where `J` holds, a procedure ends where `J` holds, or fails where `F` holds. -/
structure Keeps (w : World S σ) (J : σ → Prop) (F : ε → σ → Prop) (p : ExceptT ε (Program S) α) :
    Prop where
  /-- It returns something. -/
  ok : ∀ {s s' value}, J s → Runs w p s (.ok value) s' → J s'
  /-- It fails. -/
  error : ∀ {s s' failure}, J s → Runs w p s (.error failure) s' → F failure s'

variable {J : σ → Prop} {F : ε → σ → Prop}

theorem keeps_pure (value : α) : Keeps w J F (pure value) where
  ok hJ h := by
    rcases runs_pure_iff.mp h with ⟨_, rfl⟩
    exact hJ
  error _ h := by
    rcases runs_pure_iff.mp h with ⟨hresult, _⟩
    cases hresult

/-- A step that cannot fail and changes nothing. -/
theorem keeps_always {p : Program S α} (hp : ∀ s, (p.eval w s).2 = s) :
    Keeps w J F (always p) where
  ok hJ h := by
    rcases runs_always_iff.mp h with ⟨_, rfl⟩
    rw [hp]
    exact hJ
  error _ h := by
    rcases runs_always_iff.mp h with ⟨hresult, _⟩
    cases hresult

theorem Keeps.bind {p : ExceptT ε (Program S) α} {f : α → ExceptT ε (Program S) β}
    (hp : Keeps w J F p) (hf : ∀ value, Keeps w J F (f value)) : Keeps w J F (p >>= f) where
  ok hJ h := by
    rcases runs_bind_iff.mp h with ⟨_, _, hresult⟩ | ⟨value, _, hfirst, hrest⟩
    · cases hresult
    · exact (hf value).ok (hp.ok hJ hfirst) hrest
  error hJ h := by
    rcases runs_bind_iff.mp h with ⟨_, hfirst, hresult⟩ | ⟨value, _, hfirst, hrest⟩
    · cases hresult
      exact hp.error hJ hfirst
    · exact (hf value).error (hp.ok hJ hfirst) hrest

end Program

end DrinkMixer
