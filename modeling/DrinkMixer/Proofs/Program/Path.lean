import DrinkMixer.Program.World
import Mathlib.Data.List.Forall2

/-!
# Paths through programs

A path is one way through a program: its requests, each with some answer, and the value it ends
with. It takes no world to speak of paths, so what holds on every path holds in every world
(`path_calls`), whatever hardware answers there and however it came to its answers.

Main statements: `path_bind_iff` cuts a path where one program is followed by another, and
`path_realize_iff` says that a path through a realized program is a path through the program itself
with each of its requests carried out in turn (`Realization.Carries`).
-/

namespace DrinkMixer

namespace Program

variable {S T : Signature} {σ α β : Type}

/-- One way through a program: its requests with an answer to each, and the value it ends with. -/
inductive Path : Program S α → List (Call S) → α → Prop
  /-- Nothing is left to ask. -/
  | done (value : α) : Path (.done value) [] value
  /-- One request, some answer to it, and a way through the rest. -/
  | ask {op : S.Op} {next : S.Answer op → Program S α} {answer : S.Answer op}
      {calls : List (Call S)} {value : α} (rest : Path (next answer) calls value) :
      Path (.ask op next) (⟨op, answer⟩ :: calls) value

theorem path_done_iff {final value : α} {calls : List (Call S)} :
    Path (.done final) calls value ↔ calls = [] ∧ value = final := by
  constructor
  · intro h
    cases h
    exact ⟨rfl, rfl⟩
  · rintro ⟨rfl, rfl⟩
    exact .done value

theorem path_ask_iff {op : S.Op} {next : S.Answer op → Program S α} {calls : List (Call S)}
    {value : α} :
    Path (.ask op next) calls value ↔
      ∃ answer rest, Path (next answer) rest value ∧ calls = ⟨op, answer⟩ :: rest := by
  constructor
  · intro h
    cases h with
    | ask rest => exact ⟨_, _, rest, rfl⟩
  · rintro ⟨answer, rest, h, rfl⟩
    exact .ask h

/-- A path through one thing after another is a path through each of them. -/
theorem path_bind_iff {p : Program S α} {f : α → Program S β} {calls : List (Call S)}
    {value : β} :
    Path (p >>= f) calls value ↔
      ∃ middle first second, Path p first middle ∧ Path (f middle) second value ∧
        calls = first ++ second := by
  constructor
  · intro h
    -- the first program ends where the induction on it does, and from there on the path is `f`'s
    induction p generalizing calls with
    | done middle => exact ⟨middle, [], calls, .done middle, h, rfl⟩
    | ask op next ih =>
      rw [ask_bind, path_ask_iff] at h
      obtain ⟨answer, rest, hrest, rfl⟩ := h
      obtain ⟨middle, first, second, hfirst, hsecond, rfl⟩ := ih answer hrest
      exact ⟨middle, ⟨op, answer⟩ :: first, second, .ask hfirst, hsecond, rfl⟩
  · rintro ⟨middle, first, second, hfirst, hsecond, rfl⟩
    induction hfirst with
    | done middle => exact hsecond
    | ask _ ih => exact .ask (ih hsecond)

/-- The only path of a request is to make it and return its answer. -/
theorem path_request_iff [Offers T S] {op : S.Op} {calls : List (Call T)} {value : S.Answer op} :
    Path (request op : Program T (S.Answer op)) calls value ↔
      ∃ answer, calls = [⟨Offers.inject op, answer⟩] ∧ value = Offers.back op answer := by
  constructor
  · intro h
    rw [request, path_ask_iff] at h
    obtain ⟨answer, rest, hrest, rfl⟩ := h
    obtain ⟨rfl, rfl⟩ := path_done_iff.mp hrest
    exact ⟨answer, rfl, rfl⟩
  · rintro ⟨answer, rfl, rfl⟩
    exact .ask (.done _)

/-- What a program does in a world is one of its paths. -/
theorem path_calls (w : World S σ) (p : Program S α) (s : σ) :
    Path p (p.calls w s) (p.eval w s).1 := by
  induction p generalizing s with
  | done value => exact .done value
  | ask op next ih => exact .ask (ih _ _)

end Program

/-! ### Procedures that can fail -/

namespace Program

variable {S T : Signature} {ε δ α β : Type}

/-- A path through one thing after another fails in the first or goes on to the second. -/
theorem path_run_bind_iff {p : ExceptT ε (Program S) α} {f : α → ExceptT ε (Program S) β}
    {calls : List (Call S)} {result : Except ε β} :
    Path (p >>= f).run calls result ↔
      (∃ failure, Path p.run calls (.error failure) ∧ result = .error failure) ∨
      ∃ value first second, Path p.run first (.ok value) ∧ Path (f value).run second result ∧
        calls = first ++ second := by
  rw [ExceptT.run_bind, path_bind_iff]
  constructor
  · rintro ⟨failure | value, first, second, hfirst, hsecond, rfl⟩
    · have hdone : Path (.done (.error failure)) second result := hsecond
      obtain ⟨rfl, rfl⟩ := path_done_iff.mp hdone
      rw [List.append_nil]
      exact Or.inl ⟨failure, hfirst, rfl⟩
    · exact Or.inr ⟨value, first, second, hfirst, hsecond, rfl⟩
  · rintro (⟨failure, hfirst, rfl⟩ | ⟨value, first, second, hfirst, hsecond, rfl⟩)
    · exact ⟨.error failure, calls, [], hfirst, .done _, (List.append_nil calls).symm⟩
    · exact ⟨.ok value, first, second, hfirst, hsecond, rfl⟩

/-- A request whose failure ends the procedure. -/
theorem path_attempt_iff {wrap : ε → δ} {p : Program S (Except ε α)} {calls : List (Call S)}
    {result : Except δ α} :
    Path (attempt wrap p).run calls result ↔
      ∃ answer, Path p calls answer ∧ result = answer.mapError wrap := by
  show Path (p >>= fun answer => done (answer.mapError wrap)) calls result ↔ _
  rw [path_bind_iff]
  constructor
  · rintro ⟨answer, first, second, hfirst, hsecond, rfl⟩
    obtain ⟨rfl, rfl⟩ := path_done_iff.mp hsecond
    rw [List.append_nil]
    exact ⟨answer, hfirst, rfl⟩
  · rintro ⟨answer, hanswer, rfl⟩
    exact ⟨answer, calls, [], hanswer, .done _, (List.append_nil calls).symm⟩

/-- A request that cannot fail. -/
theorem path_always_request_iff [Offers T S] {op : S.Op} {calls : List (Call T)}
    {result : Except ε (S.Answer op)} :
    Path (always (request op) : ExceptT ε (Program T) (S.Answer op)).run calls result ↔
      ∃ answer, calls = [⟨Offers.inject op, answer⟩] ∧ result = .ok (Offers.back op answer) := by
  have hrun : (always (request op) : ExceptT ε (Program T) (S.Answer op)).run =
      .ask (Offers.inject op) fun answer => .done (.ok (Offers.back op answer)) := rfl
  rw [hrun, path_ask_iff]
  constructor
  · rintro ⟨answer, rest, hrest, rfl⟩
    obtain ⟨rfl, rfl⟩ := path_done_iff.mp hrest
    exact ⟨answer, rfl, rfl⟩
  · rintro ⟨answer, rfl, rfl⟩
    exact ⟨answer, [], .done _, rfl⟩

theorem lift_attempt [Offers T S] (wrap : ε → δ) (p : Program S (Except ε α)) :
    ((attempt wrap p).run.lift : Program T (Except δ α)) = (attempt wrap p.lift).run :=
  lift_bind p _

/-- Steps of a procedure, each among the requests of a larger signature, are the procedure there. -/
theorem attempt_lift_bind [Offers T S] (wrap : ε → δ)
    (p : ExceptT ε (Program S) α) (f : α → ExceptT ε (Program S) β) :
    (attempt wrap p.run.lift >>= fun value => attempt wrap (f value).run.lift :
      ExceptT δ (Program T) β) = attempt wrap (p >>= f).run.lift := by
  refine ExceptT.ext ?_
  show ((p.run.lift >>= fun answer => .done (answer.mapError wrap)) >>= _ : Program T _) =
    (p.run >>= _).lift >>= _
  rw [lift_bind, bind_assoc, bind_assoc]
  refine congrArg _ (funext fun answer => ?_)
  cases answer with
  | error failure => rfl
  | ok value => rfl

end Program

/-! ### Calls of a larger signature -/

namespace Call

variable {S T : Signature}

/-- A call of the first of two signatures. -/
def left? : Call (S.sum T) → Option (Call S)
  | ⟨.inl op, answer⟩ => some ⟨op, answer⟩
  | ⟨.inr _, _⟩ => none

/-- A call of the second of two signatures. -/
def right? : Call (S.sum T) → Option (Call T)
  | ⟨.inl _, _⟩ => none
  | ⟨.inr op, answer⟩ => some ⟨op, answer⟩

/-- The call of `T` by which a call of `S` is made. -/
inductive Offered [Offers T S] : Call S → Call T → Prop
  | intro (op : S.Op) (answer : T.Answer (Offers.inject op)) :
      Offered ⟨op, Offers.back op answer⟩ ⟨Offers.inject op, answer⟩

end Call

namespace Program

variable {S T : Signature} {α : Type}

/-- A path of a lifted program makes the calls of a path of the program itself. -/
theorem Path.of_lift [Offers T S] {p : Program S α} {calls : List (Call T)} {value : α}
    (h : Path (p.lift : Program T α) calls value) :
    ∃ asked, Path p asked value ∧ List.Forall₂ Call.Offered asked calls := by
  induction p generalizing calls with
  | done final =>
    obtain ⟨rfl, rfl⟩ := path_done_iff.mp h
    exact ⟨[], .done value, .nil⟩
  | ask op next ih =>
    rw [lift, path_ask_iff] at h
    obtain ⟨answer, rest, hrest, rfl⟩ := h
    obtain ⟨asked, hasked, hoffered⟩ := ih _ hrest
    exact ⟨⟨op, Offers.back op answer⟩ :: asked, .ask hasked, .cons (.intro op answer) hoffered⟩

end Program

/-! ### Realizations -/

namespace Realization

variable {S T : Signature} {τ : Type}

/-- The calls below by which a realization carries out the calls above, one after the other, and
what it remembers before and after. -/
inductive Carries (r : Realization S T τ) : τ → List (Call S) → List (Call T) → τ → Prop
  | nil (memory : τ) : Carries r memory [] [] memory
  | cons {memory middle final : τ} {op : S.Op} {answer : S.Answer op} {above : List (Call S)}
      {first below : List (Call T)}
      (head : Program.Path ((r op).run memory) first (answer, middle))
      (tail : Carries r middle above below final) :
      Carries r memory (⟨op, answer⟩ :: above) (first ++ below) final

variable {r : Realization S T τ}

theorem carries_nil_iff {memory final : τ} {below : List (Call T)} :
    r.Carries memory [] below final ↔ below = [] ∧ final = memory := by
  constructor
  · intro h
    cases h
    exact ⟨rfl, rfl⟩
  · rintro ⟨rfl, rfl⟩
    exact .nil final

theorem carries_cons_iff {memory final : τ} {call : Call S} {above : List (Call S)}
    {below : List (Call T)} :
    r.Carries memory (call :: above) below final ↔
      ∃ middle first rest, Program.Path ((r call.op).run memory) first (call.answer, middle) ∧
        r.Carries middle above rest final ∧ below = first ++ rest := by
  constructor
  · intro h
    cases h with
    | cons head tail => exact ⟨_, _, _, head, tail, rfl⟩
  · rintro ⟨middle, first, rest, head, tail, rfl⟩
    exact .cons head tail

/-- What is carried out for a call is one of its paths. -/
theorem Carries.exists_path {memory final : τ} {above : List (Call S)} {below : List (Call T)}
    {call : Call S} (h : r.Carries memory above below final) (hcall : call ∈ above) :
    ∃ before own after, Program.Path ((r call.op).run before) own (call.answer, after) := by
  induction h with
  | nil => cases hcall
  | cons head _ ih =>
    rcases List.mem_cons.mp hcall with rfl | hmem
    · exact ⟨_, _, _, head⟩
    · exact ih hmem

/-- Calls are carried out part by part. -/
theorem carries_append_iff {memory final : τ} {before after : List (Call S)}
    {below : List (Call T)} :
    r.Carries memory (before ++ after) below final ↔
      ∃ middle first rest, r.Carries memory before first middle ∧
        r.Carries middle after rest final ∧ below = first ++ rest := by
  -- on the first part; its first call is carried out before the rest of it
  induction before generalizing memory below with
  | nil =>
    rw [List.nil_append]
    constructor
    · intro h
      exact ⟨memory, [], below, .nil memory, h, rfl⟩
    · rintro ⟨middle, first, rest, hfirst, hrest, rfl⟩
      obtain ⟨rfl, rfl⟩ := carries_nil_iff.mp hfirst
      exact hrest
  | cons call before ih =>
    rw [List.cons_append, carries_cons_iff]
    constructor
    · rintro ⟨middle, first, rest, hhead, hrest, rfl⟩
      obtain ⟨next, inner, outer, hinner, houter, rfl⟩ := ih.mp hrest
      exact ⟨next, first ++ inner, outer, .cons hhead hinner, houter,
        (List.append_assoc first inner outer).symm⟩
    · rintro ⟨next, inner, outer, hinner, houter, rfl⟩
      obtain ⟨middle, first, rest, hhead, hrest, rfl⟩ := carries_cons_iff.mp hinner
      exact ⟨middle, first, rest ++ outer, hhead, ih.mpr ⟨next, rest, outer, hrest, houter, rfl⟩,
        List.append_assoc first rest outer⟩

end Realization

namespace Program

variable {S T U : Signature} {τ α : Type}

/-- What remembers nothing leaves the memory as it was. -/
theorem path_lift_stateless_iff [Offers U T] {perform : (op : S.Op) → Program T (S.Answer op)}
    {op : S.Op} {memory final : τ} {below : List (Call U)} {answer : S.Answer op} :
    Path (((Realization.stateless perform).lift (U := U) op).run memory) below (answer, final) ↔
      Path ((perform op).lift : Program U _) below answer ∧ final = memory := by
  show Path ((perform op >>= fun answer => .done (answer, memory)).lift : Program U _) below
    (answer, final) ↔ _
  rw [lift_bind, path_bind_iff]
  constructor
  · rintro ⟨value, first, second, hfirst, hsecond, rfl⟩
    obtain ⟨rfl, hvalue⟩ := path_done_iff.mp hsecond
    obtain ⟨rfl, rfl⟩ := Prod.mk.inj hvalue
    rw [List.append_nil]
    exact ⟨hfirst, rfl⟩
  · rintro ⟨hpath, rfl⟩
    exact ⟨answer, below, [], hpath, .done _, (List.append_nil below).symm⟩

/-- What is handed on is one request below. -/
theorem path_direct_iff [Offers T S] {op : S.Op} {memory final : τ} {below : List (Call T)}
    {answer : S.Answer op} :
    Path ((Realization.direct S op : StateT τ (Program T) _).run memory) below (answer, final) ↔
      ∃ own, below = [⟨Offers.inject op, own⟩] ∧ answer = Offers.back op own ∧ final = memory := by
  show Path (.ask (Offers.inject op) fun own => .done (Offers.back op own, memory)) below
    (answer, final) ↔ _
  rw [path_ask_iff]
  constructor
  · rintro ⟨own, rest, hrest, rfl⟩
    obtain ⟨rfl, hanswer⟩ := path_done_iff.mp hrest
    obtain ⟨rfl, rfl⟩ := Prod.mk.inj hanswer
    exact ⟨own, rfl, rfl, rfl⟩
  · rintro ⟨own, rfl, rfl, rfl⟩
    exact ⟨own, [], .done _, rfl⟩

/-- A path of a realized program is a path of the program with all its requests carried out. -/
theorem path_realize_iff {r : Realization S T τ} {p : Program S α} {memory final : τ}
    {below : List (Call T)} {value : α} :
    Path ((p.realize r).run memory) below (value, final) ↔
      ∃ above, Path p above value ∧ r.Carries memory above below final := by
  -- one request above is one path below, and what that remembers is where the rest starts
  induction p generalizing memory below with
  | done result =>
    rw [realize, StateT.run_pure, pure_eq_done, path_done_iff, Prod.mk.injEq]
    constructor
    · rintro ⟨rfl, rfl, rfl⟩
      exact ⟨[], .done value, .nil final⟩
    · rintro ⟨above, habove, hcarries⟩
      obtain ⟨rfl, rfl⟩ := path_done_iff.mp habove
      obtain ⟨rfl, rfl⟩ := Realization.carries_nil_iff.mp hcarries
      exact ⟨rfl, rfl, rfl⟩
  | ask op next ih =>
    rw [realize, StateT.run_bind, path_bind_iff]
    constructor
    · rintro ⟨⟨answer, middle⟩, first, rest, hfirst, hrest, rfl⟩
      obtain ⟨above, habove, hcarries⟩ := (ih answer).mp hrest
      exact ⟨⟨op, answer⟩ :: above, .ask habove, .cons hfirst hcarries⟩
    · rintro ⟨above, habove, hcarries⟩
      obtain ⟨answer, more, hmore, rfl⟩ := path_ask_iff.mp habove
      obtain ⟨middle, first, rest, hfirst, hrest, rfl⟩ := Realization.carries_cons_iff.mp hcarries
      exact ⟨(answer, middle), first, rest, hfirst, (ih answer).mpr ⟨more, hmore, hrest⟩, rfl⟩

end Program

end DrinkMixer
