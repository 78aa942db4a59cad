import DrinkMixer.Program.Basic

/-!
# Worlds that answer programs

A `World` answers requests from a state of its own: a register file, a queue of scripted answers, a
list of what has been asked so far. `Program.eval` runs a program in a world; `Program.calls` is the
list of requests it made there, each with its answer. A `Realization` carries out the requests of
one signature by programs over another, as a chip driver carries out "move the servo" by register
writes.

Main statements: `eval_bind` and `calls_bind` follow a sequence of steps, and `eval_realize` says
that running a realized program is running the program itself in the world that the realization
and the world below it make up together.
-/

namespace DrinkMixer

/-- Something that answers the requests of `S` out of a state of type `σ`. -/
structure World (S : Signature) (σ : Type) where
  /-- The answer to a request, and the state it leaves. -/
  answer : (op : S.Op) → σ → S.Answer op × σ

/-- A request together with the answer it got. -/
structure Call (S : Signature) where
  op : S.Op
  answer : S.Answer op

namespace World

variable {S T : Signature} {σ : Type}

/-- The two worlds side by side, on one state. -/
def sum (v : World S σ) (w : World T σ) : World (S.sum T) σ where
  answer
    | .inl op, s => v.answer op s
    | .inr op, s => w.answer op s

/-- The same world on one part of a larger state. -/
def focus {τ : Type} (get : τ → σ) (set : τ → σ → τ) (w : World S σ) : World S τ where
  answer op s :=
    let (answer, part) := w.answer op (get s)
    (answer, set s part)

end World

namespace Program

variable {S : Signature} {σ α β : Type}

/-- What a program returns in a world, and the state it leaves. -/
def eval (w : World S σ) : Program S α → σ → α × σ
  | done value, s => (value, s)
  | ask op next, s =>
    let (answer, s') := w.answer op s
    (next answer).eval w s'

/-- The requests a program makes in a world, in order, with their answers. -/
def calls (w : World S σ) : Program S α → σ → List (Call S)
  | done _, _ => []
  | ask op next, s =>
    let (answer, s') := w.answer op s
    ⟨op, answer⟩ :: (next answer).calls w s'

@[simp] theorem eval_done (w : World S σ) (value : α) (s : σ) :
    (done value : Program S α).eval w s = (value, s) := rfl

/-- One thing after another: the second starts where the first ends. -/
theorem eval_bind (w : World S σ) (p : Program S α) (f : α → Program S β) (s : σ) :
    (p >>= f).eval w s = (f (p.eval w s).1).eval w (p.eval w s).2 := by
  induction p generalizing s with
  | done value => rfl
  | ask op next ih => simp [eval, ih]

@[simp] theorem calls_done (w : World S σ) (value : α) (s : σ) :
    (done value : Program S α).calls w s = [] := rfl

/-- The requests of one thing after another. -/
theorem calls_bind (w : World S σ) (p : Program S α) (f : α → Program S β) (s : σ) :
    (p >>= f).calls w s = p.calls w s ++ (f (p.eval w s).1).calls w (p.eval w s).2 := by
  induction p generalizing s with
  | done value => rfl
  | ask op next ih => simp [calls, eval, ih]

end Program

/-! ### Realizations -/

/-- How the requests of `S` are carried out by requests of `T`, remembering a `τ` in between. -/
def Realization (S T : Signature) (τ : Type) : Type :=
  (op : S.Op) → StateT τ (Program T) (S.Answer op)

namespace Realization

variable {S T U : Signature} {τ σ : Type}

/-- A realization that remembers nothing. -/
def stateless (perform : (op : S.Op) → Program T (S.Answer op)) : Realization S T τ :=
  fun op => StateT.lift (perform op)

/-- The requests of `S` handed on as they are. -/
def direct (S : Signature) [Offers T S] : Realization S T τ :=
  stateless fun op => Program.request op

/-- Requests of either signature, each carried out in its own way. -/
def sum (r : Realization S U τ) (q : Realization T U τ) : Realization (S.sum T) U τ
  | .inl op => r op
  | .inr op => q op

/-- The same realization among the requests of a larger signature below. -/
def lift [Offers U T] (r : Realization S T τ) : Realization S U τ :=
  fun op memory => ((r op).run memory).lift

/-- What the realization and a world below it look like from above. -/
def world (r : Realization S T τ) (w : World T σ) : World S (τ × σ) where
  answer op s :=
    let ((answer, memory), s') := ((r op).run s.1).eval w s.2
    (answer, memory, s')

end Realization

namespace Program

variable {S T : Signature} {τ σ α : Type}

/-- The program with every request carried out by a realization. -/
def realize (r : Realization S T τ) : Program S α → StateT τ (Program T) α
  | done value => pure value
  | ask op next => do (next (← r op)).realize r

/-- A realized program does in the world below what the program does in the world that the
realization shows it. -/
theorem eval_realize (r : Realization S T τ) (w : World T σ) (p : Program S α) (memory : τ)
    (s : σ) :
    ((p.realize r).run memory).eval w s =
      (((p.eval (r.world w) (memory, s)).1, (p.eval (r.world w) (memory, s)).2.1),
        (p.eval (r.world w) (memory, s)).2.2) := by
  induction p generalizing memory s with
  | done value => rfl
  | ask op next ih => simp [realize, eval, eval_bind, Realization.world, ih]

end Program

end DrinkMixer
