/-!
# Programs that ask their surroundings

A `Signature` lists the requests a procedure may make and the type of the answer to each. A
`Program` is a tree of such requests: it either is finished, or makes one request and goes on with
whatever is answered. Nothing is assumed about who answers, so what is shown of a program holds on
every kind of hardware.

Main statements: programs form a lawful monad, and `Program.lift` (the same requests among more
signatures) respects it.
-/

namespace DrinkMixer

/-- The requests a procedure may make, and the type of the answer to each of them. -/
structure Signature where
  Op : Type
  /-- The type of the answer to a request. -/
  Answer : Op → Type

namespace Signature

/-- Requests of either of two signatures. -/
def sum (S T : Signature) : Signature where
  Op := S.Op ⊕ T.Op
  Answer := Sum.elim S.Answer T.Answer

end Signature

/-- Every request of `S` is also a request of `T`, with the same answers. -/
class Offers (T S : Signature) where
  /-- The request of `T` that stands for a request of `S`. -/
  inject : S.Op → T.Op
  /-- Its answer, read as an answer to the request of `S`. -/
  back : (op : S.Op) → T.Answer (inject op) → S.Answer op

instance Offers.self (S : Signature) : Offers S S := ⟨id, fun _ answer => answer⟩

instance Offers.left (S T U : Signature) [Offers S U] : Offers (S.sum T) U :=
  ⟨fun op => .inl (Offers.inject op), fun op answer => Offers.back (T := S) op answer⟩

instance Offers.right (S T U : Signature) [Offers T U] : Offers (S.sum T) U :=
  ⟨fun op => .inr (Offers.inject op), fun op answer => Offers.back (T := T) op answer⟩

instance Offers.both (S T U : Signature) [Offers U S] [Offers U T] : Offers U (S.sum T) where
  inject
    | .inl op => Offers.inject op
    | .inr op => Offers.inject op
  back
    | .inl op, answer => Offers.back (S := S) op answer
    | .inr op, answer => Offers.back (S := T) op answer

/-- A procedure: finished with a value, or asking a request and going on with its answer. -/
inductive Program (S : Signature) (α : Type) : Type
  | done (value : α)
  /-- One request, and the rest of the procedure for each possible answer. -/
  | ask (op : S.Op) (next : S.Answer op → Program S α)

namespace Program

variable {S T : Signature} {α β γ : Type}

/-- Goes on with `f` where `p` is finished. -/
protected def bind : Program S α → (α → Program S β) → Program S β
  | done value, f => f value
  | ask op next, f => ask op fun answer => (next answer).bind f

instance : Monad (Program S) where
  pure := done
  bind := Program.bind

/-- The procedure that makes one request and returns its answer. -/
def request [Offers T S] (op : S.Op) : Program T (S.Answer op) :=
  ask (Offers.inject op) fun answer => done (Offers.back op answer)

/-- The same procedure among the requests of a larger signature. -/
def lift [Offers T S] : Program S α → Program T α
  | done value => done value
  | ask op next => ask (Offers.inject op) fun answer => (next (Offers.back op answer)).lift

/-! ### Laws -/

@[simp] theorem pure_eq_done (value : α) : (pure value : Program S α) = done value := rfl

@[simp] theorem done_bind (value : α) (f : α → Program S β) : done value >>= f = f value := rfl

@[simp] theorem ask_bind (op : S.Op) (next : S.Answer op → Program S α)
    (f : α → Program S β) : ask op next >>= f = ask op fun answer => next answer >>= f := rfl

/-- Ending a procedure with its own value changes nothing. -/
theorem bind_done (p : Program S α) : p >>= done = p := by
  induction p with
  | done value => rfl
  | ask op next ih => simp [ih]

/-- It does not matter how the steps of a procedure are bracketed. -/
theorem bind_assoc (p : Program S α) (f : α → Program S β) (g : β → Program S γ) :
    p >>= f >>= g = p >>= fun value => f value >>= g := by
  induction p with
  | done value => rfl
  | ask op next ih => simp [ih]

instance : LawfulMonad (Program S) :=
  LawfulMonad.mk' _ bind_done (fun _ _ => rfl) bind_assoc

@[simp] theorem lift_done [Offers T S] (value : α) :
    (done value : Program S α).lift = (done value : Program T α) := rfl

/-- Lifting respects doing one thing after another. -/
theorem lift_bind [Offers T S] (p : Program S α) (f : α → Program S β) :
    (p >>= f).lift = (p.lift >>= fun value => (f value).lift : Program T β) := by
  induction p with
  | done value => rfl
  | ask op next ih => simp [lift, ih]

/-! ### Procedures that can fail -/

/-- A program that cannot fail, as a step of one that can. -/
def always {ε : Type} (p : Program S α) : ExceptT ε (Program S) α :=
  ExceptT.mk (p >>= fun value => done (.ok value))

/-- A request whose failure ends the procedure. -/
def attempt {ε δ : Type} (wrap : ε → δ) (p : Program S (Except ε α)) :
    ExceptT δ (Program S) α :=
  ExceptT.mk (p >>= fun answer => done (answer.mapError wrap))

end Program

end DrinkMixer
