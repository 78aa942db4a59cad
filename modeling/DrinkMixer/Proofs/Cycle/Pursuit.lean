import DrinkMixer.Proofs.Cycle.Plan

/-!
# Plans carried out in a world

What a servo procedure does in a world is settled by its plan: the world is asked for one thing
after the other up to the first command that fails (`World.pursue`). Requests that the hardware
takes no notice of (`World.unmoved`) can be left out of a plan.

Main statements: `Follows.eq_pursue`, the effects and the result of a procedure are those of its
plan, and `Asides.agree`, procedures whose plans differ only in such requests do the same.
-/

namespace DrinkMixer

open Servos

/-! ### Calls that a world answers -/

namespace World

variable {S : Signature} {σ α : Type}

/-- The same world, except that some requests leave its state as it was. -/
def unmoved (w : World S σ) (aside : S.Op → Bool) : World S σ where
  answer op s := ((w.answer op s).1, if aside op then s else (w.answer op s).2)

theorem unmoved_keeps (w : World S σ) {aside : S.Op → Bool} {op : S.Op} (h : aside op = true)
    (s : σ) : ((w.unmoved aside).answer op s).2 = s :=
  if_pos h

/-- Each of some calls has the answer that the world gives after those before it. -/
inductive Answers (w : World S σ) : σ → List (Call S) → Prop
  | nil (s : σ) : Answers w s []
  /-- One call, and the others from the state it leaves. -/
  | cons {s : σ} {op : S.Op} {calls : List (Call S)} (rest : Answers w (w.answer op s).2 calls) :
    Answers w s (⟨op, (w.answer op s).1⟩ :: calls)

theorem answers_calls (w : World S σ) (p : Program S α) (s : σ) : w.Answers s (p.calls w s) := by
  induction p generalizing s with
  | done value => exact .nil s
  | ask op next ih => exact .cons (ih _ _)

/-- Calls that change nothing can be left out. -/
theorem Answers.filter {w : World S σ} (keep : S.Op → Bool) {calls : List (Call S)} {s : σ}
    (hkeep : ∀ op, keep op = false → ∀ s, (w.answer op s).2 = s) (h : w.Answers s calls) :
    w.Answers s (calls.filter fun call => keep call.op) := by
  induction h with
  | nil s => exact .nil s
  | @cons s op calls _ ih =>
    rw [List.filter_cons]
    cases hop : keep op with
    | true => exact .cons ih
    | false =>
      rw [hkeep op hop] at ih
      exact ih

end World

/-! ### Carrying out a plan -/

variable {σ : Type}

/-- The calls by which a plan is carried out, up to the first command that fails. -/
def World.pursue (w : World Servos σ) : List Servos.Op → σ → List (Call Servos)
  | [], _ => []
  | op :: plan, s =>
    let call : Call Servos := ⟨op, (w.answer op s).1⟩
    match fault? call with
    | none => call :: w.pursue plan (w.answer op s).2
    | some _ => [call]

/-- The result of a procedure that returns a value unless a command fails. -/
def Servos.result {α : Type} (calls : List (Call Servos)) (value : α) : Except Failure α :=
  match calls.findSome? fault? with
  | none => .ok value
  | some fault => .error (.pwm fault)

section Pursue

variable {α : Type} {w : World Servos σ} {plan : List Servos.Op} {calls done : List (Call Servos)}
  {last : Call Servos} {s : σ}

theorem pursue_cons_of_none {op : Servos.Op} (h : fault? ⟨op, (w.answer op s).1⟩ = none) :
    w.pursue (op :: plan) s =
      ⟨op, (w.answer op s).1⟩ :: w.pursue plan (w.answer op s).2 := by
  rw [World.pursue]
  simp only [h]

theorem pursue_cons_of_some {op : Servos.Op} {fault : PwmFault}
    (h : fault? ⟨op, (w.answer op s).1⟩ = some fault) :
    w.pursue (op :: plan) s = [⟨op, (w.answer op s).1⟩] := by
  rw [World.pursue]
  simp only [h]

/-- Where nothing fails, all of a plan is carried out. -/
theorem eq_pursue_of_whole (h : w.Answers s calls) (hplan : calls.map Call.op = plan)
    (hnone : ∀ call ∈ calls, fault? call = none) : calls = w.pursue plan s := by
  subst hplan
  induction h with
  | nil s => rfl
  | cons _ ih =>
    rw [List.forall_mem_cons] at hnone
    rw [List.map_cons, pursue_cons_of_none hnone.1, ← ih hnone.2]

/-- Where a command fails, a plan is carried out up to and with this one. -/
theorem eq_pursue_of_cut {fault : PwmFault} (h : w.Answers s (done ++ [last]))
    (hplan : (done ++ [last]).map Call.op <+: plan) (hnone : ∀ call ∈ done, fault? call = none)
    (hfails : fault? last = some fault) : done ++ [last] = w.pursue plan s := by
  obtain ⟨rest, rfl⟩ := hplan
  induction done generalizing s with
  | nil =>
    cases h with
    | cons =>
      rw [List.nil_append, List.map_singleton, List.singleton_append, pursue_cons_of_some hfails]
  | cons call done ih =>
    rw [List.forall_mem_cons] at hnone
    cases h with
    | cons hrest =>
      rw [List.cons_append, List.map_cons, List.cons_append, pursue_cons_of_none hnone.1,
        ← ih hrest hnone.2]

end Pursue

/-! ### Procedures that follow a plan -/

section Follows

variable {α : Type} {w : World Servos σ} {p : ServoProcedure α} {plan : List Servos.Op} {x : α}

/-- Where log records change nothing, what a procedure does is settled by its plan: its effects are
the plan carried out, and its result tells whether a command of it failed. -/
theorem Follows.eq_pursue (h : Follows p plan x)
    (hnote : ∀ op, isNote op = true → ∀ s, (w.answer op s).2 = s) (s : σ) :
    effects (p.run.calls w s) = w.pursue plan s ∧
      (p.run.eval w s).1 = Servos.result (w.pursue plan s) x := by
  have hpursued := h.pursued (Program.path_calls w p.run s)
  have hanswers : w.Answers s (effects (p.run.calls w s)) :=
    (w.answers_calls p.run s).filter (fun op => !isNote op) fun op hop =>
      hnote op (by simpa using hop)
  generalize (p.run.eval w s).1 = result at hpursued
  cases hpursued with
  | whole hplan hnone =>
    have heffects := eq_pursue_of_whole hanswers hplan hnone
    refine ⟨heffects, ?_⟩
    rw [← heffects, Servos.result, List.findSome?_eq_none_iff.mpr hnone]
  | cut done last hplan hends hnone hfails =>
    rw [hends] at hanswers hplan ⊢
    have heffects := eq_pursue_of_cut hanswers hplan hnone hfails
    refine ⟨heffects, ?_⟩
    rw [← heffects, Servos.result, List.findSome?_append, List.findSome?_eq_none_iff.mpr hnone]
    simp [hfails]

end Follows

/-! ### Leaving out what changes nothing -/

/-- Requests of which the hardware takes no notice: log records among others, and no commands. -/
structure Servos.Asides (aside : Servos.Op → Bool) : Prop where
  note : ∀ op, isNote op = true → aside op = true
  /-- Commands are noticed. -/
  command : ∀ request, aside (commanded request) = false

section Asides

variable {α : Type} {w : World Servos σ} {aside : Servos.Op → Bool}

/-- What is left of some calls without those of which the hardware takes no notice. -/
def Servos.deeds (aside : Servos.Op → Bool) (calls : List (Call Servos)) : List (Call Servos) :=
  calls.filter fun call => !aside call.op

theorem Servos.Asides.fault?_eq_none (h : Asides aside) {call : Call Servos}
    (hcall : aside call.op = true) : fault? call = none := by
  obtain ⟨request | other, answer⟩ := call
  · have hcommand : aside (commanded request) = true := hcall
    rw [h.command request] at hcommand
    cases hcommand
  · rfl

theorem Servos.Asides.deeds_effects (h : Asides aside) (calls : List (Call Servos)) :
    deeds aside (effects calls) = deeds aside calls := by
  rw [deeds, effects, List.filter_filter]
  refine List.filter_congr fun call _ => ?_
  cases hnote : isNote call.op with
  | true => rw [h.note _ hnote]; rfl
  | false => rw [Bool.not_false, Bool.and_true]

/-- What cannot fail has no part in the result. -/
theorem Servos.Asides.result_deeds (h : Asides aside) (calls : List (Call Servos)) (value : α) :
    Servos.result (deeds aside calls) value = Servos.result calls value := by
  have hfirst : (deeds aside calls).findSome? fault? = calls.findSome? fault? := by
    induction calls with
    | nil => rfl
    | cons call calls ih =>
      rw [deeds, List.filter_cons, List.findSome?_cons]
      cases hcall : aside call.op with
      | true =>
        rw [h.fault?_eq_none hcall]
        exact ih
      | false =>
        show List.findSome? fault? (call :: deeds aside calls) = _
        rw [List.findSome?_cons, ih]
  rw [Servos.result, Servos.result, hfirst]

/-- What changes nothing and cannot fail can be left out of a plan. -/
theorem Servos.Asides.deeds_pursue (h : Asides aside) (plan : List Servos.Op) (s : σ) :
    deeds aside ((w.unmoved aside).pursue plan s) =
      (w.unmoved aside).pursue (plan.filter fun op => !aside op) s := by
  -- on the plan; what is left out neither fails nor changes the state the rest starts in
  induction plan generalizing s with
  | nil => rfl
  | cons op plan ih =>
    cases hop : aside op with
    | true =>
      rw [pursue_cons_of_none (h.fault?_eq_none hop), w.unmoved_keeps hop, deeds, List.filter_cons,
        List.filter_cons, hop]
      exact ih s
    | false =>
      rw [List.filter_cons, hop]
      cases hfault : fault? ⟨op, ((w.unmoved aside).answer op s).1⟩ with
      | none =>
        rw [pursue_cons_of_none hfault, deeds, List.filter_cons, hop]
        show _ = (w.unmoved aside).pursue (op :: _) s
        rw [pursue_cons_of_none hfault, ← ih]
        rfl
      | some fault =>
        rw [pursue_cons_of_some hfault, deeds, List.filter_cons, hop]
        show _ = (w.unmoved aside).pursue (op :: _) s
        rw [pursue_cons_of_some hfault]
        rfl

/-- Procedures whose plans differ only in what the hardware takes no notice of do the same to it,
and they return the same. -/
theorem Servos.Asides.agree (h : Asides aside) {p q : ServoProcedure α}
    {plan plan' : List Servos.Op} {x : α} (hp : Follows p plan x) (hq : Follows q plan' x)
    (hplan : (plan.filter fun op => !aside op) = plan'.filter fun op => !aside op) (s : σ) :
    deeds aside (p.run.calls (w.unmoved aside) s) = deeds aside (q.run.calls (w.unmoved aside) s) ∧
      (p.run.eval (w.unmoved aside) s).1 = (q.run.eval (w.unmoved aside) s).1 := by
  have hkeeps : ∀ op, isNote op = true → ∀ s, ((w.unmoved aside).answer op s).2 = s :=
    fun op hop => w.unmoved_keeps (h.note op hop)
  obtain ⟨hpcalls, hpresult⟩ := hp.eq_pursue hkeeps s
  obtain ⟨hqcalls, hqresult⟩ := hq.eq_pursue hkeeps s
  constructor
  · rw [← h.deeds_effects, hpcalls, ← h.deeds_effects (q.run.calls _ s), hqcalls, h.deeds_pursue,
      h.deeds_pursue, hplan]
  · rw [hpresult, hqresult, ← h.result_deeds, ← h.result_deeds ((w.unmoved aside).pursue plan' s),
      h.deeds_pursue, h.deeds_pursue, hplan]

end Asides

end DrinkMixer
