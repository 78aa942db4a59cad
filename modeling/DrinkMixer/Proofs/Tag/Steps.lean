import DrinkMixer.Proofs.Program.Path
import DrinkMixer.Tag.Reader

/-!
# Paths through procedures of the tag reader

A procedure of the tag reader starts in one standing and ends in another, with a result or a
failure. `ReadProcedure.Path` says by which calls it can get there. For each step of the reader one
lemma says what a path through that step and whatever follows it looks like; the paths of whole
rounds are put together from these.

Main statement: `path_bind_iff`, a failed step ends the procedure and any other is gone on from.
-/

namespace DrinkMixer

/-! ### Calls of the tag reader -/

namespace TagStation

/-- A call to the contactless reader. -/
def card (call : Call Card) : Call TagStation :=
  ⟨.inl call.op, call.answer⟩

/-- The pins were given back. -/
def released : Call TagStation :=
  ⟨.inr (.inr (.inl .release)), ()⟩

/-- The stop flag was looked at. -/
def looked (raised : Bool) : Call TagStation :=
  ⟨.inr (.inr (.inr (.inl .look))), raised⟩

/-- Time was let pass. -/
def waited (ms : UInt32) : Call TagStation :=
  ⟨.inr (.inr (.inr (.inr (.inl (.wait ms))))), ()⟩

/-- A record was put into the log. -/
def noted (level : LogLevel) (text : String) : Call TagStation :=
  ⟨.inr (.inr (.inr (.inr (.inl (.note ⟨level, text⟩))))), ()⟩

/-- An event was told. -/
def told (event : Event) : Call TagStation :=
  ⟨.inr (.inr (.inr (.inr (.inr (.emit event))))), ()⟩

/-- What is to be seen of going over from one phase to another. -/
def entered (before after : Phase) : List (Call TagStation) :=
  if before = after then []
  else [noted .debug s!"reader {before.name} -> {after.name}", told (.phaseChanged before after)]

/-- What is to be seen of giving the pins back in a phase. -/
def interrupted (phase : Phase) : List (Call TagStation) :=
  [noted .warn s!"reader interrupted in {phase.name}, releasing pins", told .cancelled, released]

end TagStation

namespace ReadProcedure

open TagStation

variable {α β : Type} {before after : Standing} {calls : List (Call TagStation)}
  {result : Except Failure β}

/-- A way of a procedure from one standing to another, with the calls made and the result. -/
def Path (p : ReadProcedure α) (before : Standing) (calls : List (Call TagStation))
    (result : Except Failure α) (after : Standing) : Prop :=
  Program.Path (p.run.run before) calls (result, after)

/-! ### One step after another -/

theorem path_pure_iff {value : β} :
    (pure value : ReadProcedure β).Path before calls result after ↔
      calls = [] ∧ result = .ok value ∧ after = before := by
  show Program.Path (.done (.ok value, before)) calls (result, after) ↔ _
  rw [Program.path_done_iff, Prod.mk.injEq]

/-- A failed step ends a procedure, and any other is gone on from. -/
theorem path_bind_iff {p : ReadProcedure α} {f : α → ReadProcedure β} :
    (p >>= f).Path before calls result after ↔
      (∃ failure, p.Path before calls (.error failure) after ∧ result = .error failure) ∨
      ∃ value middle first second, p.Path before first (.ok value) middle ∧
        (f value).Path middle second result after ∧ calls = first ++ second := by
  unfold Path
  rw [ExceptT.run_bind, StateT.run_bind, Program.path_bind_iff]
  constructor
  · rintro ⟨⟨answer | value, middle⟩, first, second, hfirst, hsecond, rfl⟩
    · have hdone : Program.Path (.done (.error answer, middle)) second (result, after) := hsecond
      obtain ⟨rfl, hresult⟩ := Program.path_done_iff.mp hdone
      obtain ⟨rfl, rfl⟩ := Prod.mk.inj hresult
      rw [List.append_nil]
      exact Or.inl ⟨answer, hfirst, rfl⟩
    · exact Or.inr ⟨value, middle, first, second, hfirst, hsecond, rfl⟩
  · rintro (⟨failure, hfirst, rfl⟩ | ⟨value, middle, first, second, hfirst, hsecond, rfl⟩)
    · exact ⟨(.error failure, after), calls, [], hfirst, .done _, (List.append_nil calls).symm⟩
    · exact ⟨(.ok value, middle), first, second, hfirst, hsecond, rfl⟩

/-- A step that only makes calls is gone on from. -/
theorem run_always_bind {p : Program TagStation α} {f : α → ReadProcedure β} :
    (always p >>= f).run.run before = p >>= fun value => (f value).run.run before := by
  rw [ExceptT.run_bind, StateT.run_bind, always, ExceptT.run_lift]
  show (p >>= fun value => pure (value, before)) >>= _ >>= _ = _
  simp [bind_assoc]

/-- A step that can fail is gone on from if it does not. -/
theorem run_attempt_bind {ε : Type} {wrap : ε → Failure} {p : Program TagStation (Except ε α)}
    {f : α → ReadProcedure β} :
    (attempt wrap p >>= f).run.run before = p >>= fun answer =>
      match answer with
      | .ok value => (f value).run.run before
      | .error fault => .done (.error (wrap fault), before) := by
  rw [ExceptT.run_bind, StateT.run_bind, attempt, ExceptT.run_mk]
  show (p >>= fun value => pure (value, before)) >>= _ >>= _ = _
  simp only [bind_assoc]
  congr 1
  funext answer
  cases answer <;> rfl

/-! ### Steps that cannot fail -/

variable {f : α → ReadProcedure β}

theorem path_get_bind_iff {f : Standing → ReadProcedure β} :
    (get >>= f).Path before calls result after ↔ (f before).Path before calls result after :=
  Iff.rfl

theorem path_modify_bind_iff {change : Standing → Standing} {f : Unit → ReadProcedure β} :
    (modify change >>= f).Path before calls result after ↔
      (f ()).Path (change before) calls result after :=
  Iff.rfl

theorem path_call_bind_iff {S : Signature} [Offers TagStation S] {op : S.Op}
    {f : S.Answer op → ReadProcedure β} :
    (always (Program.request op) >>= f).Path before calls result after ↔
      ∃ answer rest, (f (Offers.back op answer)).Path before rest result after ∧
        calls = ⟨Offers.inject op, answer⟩ :: rest := by
  unfold Path
  rw [run_always_bind]
  exact Program.path_ask_iff

theorem path_look_bind_iff {f : Bool → ReadProcedure β} :
    (always (Program.request (S := Stop) .look) >>= f).Path before calls result after ↔
      ∃ raised rest, (f raised).Path before rest result after ∧ calls = looked raised :: rest :=
  path_call_bind_iff

theorem path_release_bind_iff {f : Unit → ReadProcedure β} :
    (always (Program.request (S := Pins) .release) >>= f).Path before calls result after ↔
      ∃ rest, (f ()).Path before rest result after ∧ calls = released :: rest := by
  rw [path_call_bind_iff]
  exact ⟨fun ⟨(), rest, h⟩ => ⟨rest, h⟩, fun ⟨rest, h⟩ => ⟨(), rest, h⟩⟩

theorem path_note_bind_iff {level : LogLevel} {text : String} {f : Unit → ReadProcedure β} :
    (note level text >>= f).Path before calls result after ↔
      ∃ rest, (f ()).Path before rest result after ∧ calls = noted level text :: rest := by
  rw [note, Program.note, path_call_bind_iff]
  exact ⟨fun ⟨(), rest, h⟩ => ⟨rest, h⟩, fun ⟨rest, h⟩ => ⟨(), rest, h⟩⟩

theorem path_emit_bind_iff {event : Event} {f : Unit → ReadProcedure β} :
    (emit event >>= f).Path before calls result after ↔
      ∃ rest, (f ()).Path before rest result after ∧ calls = told event :: rest := by
  rw [emit, Program.emit, path_call_bind_iff]
  exact ⟨fun ⟨(), rest, h⟩ => ⟨rest, h⟩, fun ⟨rest, h⟩ => ⟨(), rest, h⟩⟩

theorem path_wait_bind_iff {ms : UInt32} {f : Unit → ReadProcedure β} :
    (wait ms >>= f).Path before calls result after ↔
      ∃ rest, (f ()).Path before rest result after ∧ calls = waited ms :: rest := by
  rw [wait, Program.wait, path_call_bind_iff]
  exact ⟨fun ⟨(), rest, h⟩ => ⟨rest, h⟩, fun ⟨rest, h⟩ => ⟨(), rest, h⟩⟩

/-- A path through a change of phase and what follows it. -/
theorem path_enter_bind_iff {phase : Phase} {f : Unit → ReadProcedure β} :
    (enter phase >>= f).Path before calls result after ↔
      ∃ rest, (f ()).Path { before with phase := phase } rest result after ∧
        calls = entered before.phase phase ++ rest := by
  rw [enter, bind_assoc, path_get_bind_iff, entered]
  by_cases h : before.phase = phase
  · subst h
    simp
  · simp only [h, ↓reduceIte, bind_assoc, path_modify_bind_iff, path_note_bind_iff,
      path_emit_bind_iff]
    constructor
    · rintro ⟨_, ⟨rest, hrest, rfl⟩, rfl⟩
      exact ⟨rest, hrest, rfl⟩
    · rintro ⟨rest, hrest, rfl⟩
      exact ⟨_, ⟨rest, hrest, rfl⟩, rfl⟩

/-! ### Steps that can fail -/

/-- A step that makes one call, and fails if the answer to it is a fault. -/
theorem path_attempt_bind_iff {ε : Type} {wrap : ε → Failure}
    {p : Program TagStation (Except ε α)} (call : Except ε α → Call TagStation)
    (hp : ∀ calls answer, p.Path calls answer ↔ calls = [call answer]) :
    (attempt wrap p >>= f).Path before calls result after ↔
      (∃ fault, calls = [call (.error fault)] ∧ result = .error (wrap fault) ∧ after = before) ∨
      ∃ value rest, (f value).Path before rest result after ∧
        calls = call (.ok value) :: rest := by
  unfold Path
  rw [run_attempt_bind, Program.path_bind_iff]
  constructor
  · rintro ⟨answer, first, second, hfirst, hsecond, rfl⟩
    obtain rfl := (hp _ _).mp hfirst
    cases answer with
    | error fault =>
      obtain ⟨rfl, hlast⟩ := Program.path_done_iff.mp hsecond
      obtain ⟨rfl, rfl⟩ := Prod.mk.inj hlast
      exact Or.inl ⟨fault, rfl, rfl, rfl⟩
    | ok value => exact Or.inr ⟨value, second, hsecond, rfl⟩
  · rintro (⟨fault, rfl, rfl, rfl⟩ | ⟨value, rest, hrest, rfl⟩)
    · exact ⟨.error fault, _, [], (hp _ _).mpr rfl, .done _, (List.append_nil _).symm⟩
    · exact ⟨.ok value, _, rest, (hp _ _).mpr rfl, hrest, rfl⟩

/-- The calls of a single request are that request with its answer. -/
theorem path_request_single_iff {op : Card.Op} {answer : Card.Answer op} :
    (Program.request op : Program TagStation (Card.Answer op)).Path calls answer ↔
      calls = [card ⟨op, answer⟩] := by
  rw [Program.path_request_iff]
  constructor
  · rintro ⟨own, rfl, rfl⟩
    rfl
  · rintro rfl
    exact ⟨answer, rfl, rfl⟩

theorem path_request_bind_iff {f : TagStatus → ReadProcedure β} :
    (request >>= f).Path before calls result after ↔
      (∃ fault, calls = [card ⟨.request, .error fault⟩] ∧ result = .error (.tag fault) ∧
        after = before) ∨
      ∃ status rest, (f status).Path before rest result after ∧
        calls = card ⟨.request, .ok status⟩ :: rest :=
  path_attempt_bind_iff (fun answer => card ⟨.request, answer⟩) fun _ _ => path_request_single_iff

theorem path_anticollision_bind_iff {f : Option Uid → ReadProcedure β} :
    (anticollision >>= f).Path before calls result after ↔
      (∃ fault, calls = [card ⟨.anticollision, .error fault⟩] ∧ result = .error (.tag fault) ∧
        after = before) ∨
      ∃ found rest, (f found).Path before rest result after ∧
        calls = card ⟨.anticollision, .ok found⟩ :: rest :=
  path_attempt_bind_iff (fun answer => card ⟨.anticollision, answer⟩)
    fun _ _ => path_request_single_iff

theorem path_select_bind_iff {uid : Uid} {f : Unit → ReadProcedure β} :
    (select uid >>= f).Path before calls result after ↔
      (∃ fault, calls = [card ⟨.select uid, .error fault⟩] ∧ result = .error (.tag fault) ∧
        after = before) ∨
      ∃ rest, (f ()).Path before rest result after ∧ calls = card ⟨.select uid, .ok ()⟩ :: rest :=
  (path_attempt_bind_iff (fun answer => card ⟨.select uid, answer⟩)
    fun _ _ => path_request_single_iff).trans
    (or_congr_right ⟨fun ⟨(), rest, h⟩ => ⟨rest, h⟩, fun ⟨rest, h⟩ => ⟨(), rest, h⟩⟩)

theorem path_authenticate_bind_iff {block : UInt8} {key : AuthKey} {uid : Uid}
    {f : TagStatus → ReadProcedure β} :
    (authenticate block key uid >>= f).Path before calls result after ↔
      (∃ fault, calls = [card ⟨.authenticate block key uid, .error fault⟩] ∧
        result = .error (.tag fault) ∧ after = before) ∨
      ∃ status rest, (f status).Path before rest result after ∧
        calls = card ⟨.authenticate block key uid, .ok status⟩ :: rest :=
  path_attempt_bind_iff (fun answer => card ⟨.authenticate block key uid, answer⟩)
    fun _ _ => path_request_single_iff

theorem path_readBlock_bind_iff {block : UInt8} {f : Block → ReadProcedure β} :
    (readBlock block >>= f).Path before calls result after ↔
      (∃ fault, calls = [card ⟨.read block, .error fault⟩] ∧ result = .error (.tag fault) ∧
        after = before) ∨
      ∃ data rest, (f data).Path before rest result after ∧
        calls = card ⟨.read block, .ok data⟩ :: rest :=
  path_attempt_bind_iff (fun answer => card ⟨.read block, answer⟩)
    fun _ _ => path_request_single_iff

end ReadProcedure

end DrinkMixer
