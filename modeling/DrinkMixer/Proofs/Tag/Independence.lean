import DrinkMixer.Proofs.Program.Alike
import DrinkMixer.Proofs.Tag.ChipRounds
import DrinkMixer.Proofs.Tag.FrameRound

/-!
# Runs that do not depend on earlier ones

A run of the tag reader starts afresh, but what the chip remembers of earlier runs is left as it is.
Every call to the contactless reader is licensed by the one directly before it, and a licensed call
reads nothing that was not written since the run began (`Agree`).

Main statement: `read_independent`, a run does the same whatever runs there were before.
-/

namespace DrinkMixer

open TagStation TagChip

variable {ρ : Type}

/-! ### Calls that are licensed -/

section Linked

variable {settings : Settings} {mode : ReaderMode} {before after : Standing}
  {calls : List (Call TagStation)} {previous : Option (Call Card)}

/-- In a round of either mode each call to the contactless reader has what it needs. -/
theorem ModeRound.linked {result : Except Failure (Option Reading)}
    (h : ModeRound settings mode before calls result after) :
    Linked (Licensed settings.tag) previous (cardCalls calls) := by
  cases mode with
  | uid => exact TagRound.linked h
  | payment => cases h <;> trivial

/-- In a run of either mode each call to the contactless reader has what it needs. -/
theorem ReadProcedure.read_linked {fuel : Nat} {result : Except Failure (Option ReadOutcome)}
    (h : (read settings mode fuel).Path before calls result after) :
    Linked (Licensed settings.tag) none (cardCalls calls) := by
  rcases read_path h with ⟨_, _, rfl, _⟩ | ⟨_, rest, rfl, hpolling⟩
  · trivial
  · rw [cardCalls_append, cardCalls_entered, List.nil_append]
    exact hpolling.linked_of ModeRound.linked

end Linked

/-! ### Memories that agree -/

namespace TagChip

/-- Two memories cannot be told apart by a call that is licensed by the one directly before it. -/
inductive Agree : Option (Call Card) → Memory ρ → Memory ρ → Prop
  /-- They are the same. -/
  | same (previous : Option (Call Card)) (memory : Memory ρ) : Agree previous memory memory
  /-- Nothing was asked of the contactless reader. -/
  | fresh (memory memory' : Memory ρ) : Agree none memory memory'
  /-- Tags were asked for, and both remember what one answered. -/
  | asked (answer : Except TagFault TagStatus) (memory memory' : Memory ρ)
      (h : answer = .ok .ok → ∃ atqa, memory.answered = some atqa ∧
        memory'.answered = some atqa) :
    Agree (some ⟨.request, answer⟩) memory memory'

variable {memory memory' : Memory ρ}

/-- Tags are asked for in the same way whatever is remembered. -/
theorem alike_request (memory memory' : Memory ρ) :
    Program.Alike (fun x y => x.1 = y.1 ∧ Agree (some ⟨.request, x.1⟩) x.2 y.2)
      (request.run memory) (request.run memory') := by
  refine .ask fun reply => ?_
  rcases reply with fault | atqa
  · cases fault with
    | timeout => exact .done ⟨rfl, .asked _ _ _ nofun⟩
    | _ => exact .ask fun _ => .done ⟨rfl, .asked _ _ _ nofun⟩
  · exact .done ⟨rfl, .asked _ _ _ fun _ => ⟨atqa, rfl, rfl⟩⟩

/-- A tag that answered is singled out in the same way whatever tag is in hand. -/
theorem run_anticollision_eq {atqa : ρ} (h : memory.answered = some atqa)
    (h' : memory'.answered = some atqa) : anticollision.run memory = anticollision.run memory' := by
  obtain ⟨_, selected⟩ := memory
  obtain ⟨_, selected'⟩ := memory'
  subst h h'
  refine congrArg (Program.ask _) (funext fun reply => ?_)
  -- either answer overwrites the tag in hand
  rcases reply with fault | uid
  · rfl
  · show (hold uid).run _ = (hold uid).run _
    rw [hold_eq]
    rfl

/-- What two memories agree in is all that a licensed call reads, and they agree again after it. -/
theorem Agree.alike {previous : Option (Call Card)} {settings : TagSettings} {op : Card.Op}
    {answer : Card.Answer op} (h : Agree previous memory memory')
    (hlicensed : Licensed settings previous ⟨op, answer⟩) :
    Program.Alike (fun x y => x.1 = y.1 ∧ Agree (some ⟨op, x.1⟩) x.2 y.2)
      ((onChip op).run memory) ((onChip op).run memory') := by
  cases h with
  | same => exact .refl (fun _ => ⟨rfl, .same _ _⟩) _
  | fresh =>
    cases op with
    | request => exact alike_request memory memory'
    | anticollision => cases hlicensed
    | select uid => cases hlicensed
    | authenticate block key uid => cases hlicensed.1
    | read block =>
      obtain ⟨_, _, hopened⟩ := hlicensed
      cases hopened
  | asked _ _ _ h =>
    cases op with
    | request => exact alike_request memory memory'
    | anticollision =>
      cases hlicensed
      obtain ⟨atqa, hmemory, hmemory'⟩ := h rfl
      have hrun : (onChip .anticollision).run memory = (onChip .anticollision).run memory' :=
        run_anticollision_eq hmemory hmemory'
      rw [hrun]
      exact .refl (fun _ => ⟨rfl, .same _ _⟩) _
    | select uid => cases hlicensed
    | authenticate block key uid => cases hlicensed.1
    | read block =>
      obtain ⟨_, _, hopened⟩ := hlicensed
      cases hopened

end TagChip

/-! ### Runs -/

/-- A program whose calls to the contactless reader are all licensed does the same with memories
that agree. -/
theorem alike_realize {settings : TagSettings} {τ α : Type} (w : World TagStation τ) (t : τ)
    {p : Program TagStation α} {previous : Option (Call Card)} {memory memory' : Memory ρ}
    (hagree : Agree previous memory memory')
    (hlinked : ∀ {calls value}, p.Path calls value →
      Linked (Licensed settings) previous (cardCalls calls)) :
    Program.Alike (fun x y => x.1 = y.1) ((p.realize onStation).run memory)
      ((p.realize onStation).run memory') := by
  induction p generalizing previous memory memory' with
  | done value => exact .done rfl
  | ask op next ih =>
    have hrest : ∀ answer {calls value}, (next answer).Path calls value →
        Linked (Licensed settings) previous (cardCalls (⟨op, answer⟩ :: calls)) :=
      fun _ _ _ hpath => hlinked (.ask hpath)
    rw [Program.realize, StateT.run_bind, StateT.run_bind]
    cases op with
    | inl asked =>
      -- any answer will do, as whether a call is licensed does not depend on its own answer
      have hfirst := hrest (w.answer (.inl asked) t).1 (Program.path_calls w _ t)
      refine (hagree.alike hfirst.1).lift.bind ?_
      rintro ⟨answer, middle⟩ ⟨_, middle'⟩ ⟨rfl, hmiddle⟩
      exact ih answer hmiddle fun hpath => (hrest answer hpath).2
    | inr other =>
      have hdirect : Program.Alike (fun x y => x.1 = y.1 ∧ Agree previous x.2 y.2)
          ((onStation (.inr other)).run memory) ((onStation (.inr other)).run memory') :=
        .ask fun _ => .done ⟨rfl, hagree⟩
      refine hdirect.bind ?_
      rintro ⟨answer, middle⟩ ⟨_, middle'⟩ ⟨rfl, hmiddle⟩
      exact ih answer hmiddle fun hpath => hrest answer hpath

/-- A run does not depend on the runs before it. Wherever the reader stands and whatever the chip
remembers, in the same world a run makes the same calls, ends with the same result, and leaves the
reader and the world in the same state. -/
theorem read_independent {σ : Type} (w : World (ChipStation ρ) σ) (s : σ) (settings : Settings)
    (mode : ReaderMode) (fuel : Nat) (standing standing' : Standing) (memory memory' : Memory ρ) :
    let run standing memory :=
      (((ReadProcedure.read settings mode fuel).run.run standing).realize onStation).run memory
    (run standing memory).calls w s = (run standing' memory').calls w s ∧
    ((run standing memory).eval w s).1.1 = ((run standing' memory').eval w s).1.1 ∧
    ((run standing memory).eval w s).2 = ((run standing' memory').eval w s).2 := by
  intro run
  have hreset : (ReadProcedure.read settings mode fuel).run.run standing =
      (ReadProcedure.read settings mode fuel).run.run standing' := by
    rw [ReadProcedure.read_eq]
    rfl
  have halike : Program.Alike (fun x y => x.1 = y.1) (run standing memory)
      (run standing' memory') := by
    show Program.Alike _ ((Program.realize _ ((ReadProcedure.read _ _ _).run.run standing)).run _) _
    rw [hreset]
    exact alike_realize (onStation.world w) (memory, s) (.fresh memory memory')
      ReadProcedure.read_linked
  exact ⟨halike.calls_eq w s, halike.eval w s⟩

end DrinkMixer
