import DrinkMixer.Proofs.Tag.FrameRound
import DrinkMixer.Proofs.Tag.Selection

/-!
# Changes of phase

A run of the tag reader tells every change of its phase. What it tells is a walk from `idle` along
the edges of its mode (`Walk`, `ReaderMode.Edge`), the way back from a card that was found is
explained by what was told directly before it (`Explained`), and the request that fails settles the
phase at the end (`strandsIn?`).

Main statement: `read_walks`, all of this holds of every run of either mode.
-/

namespace DrinkMixer

open TagStation

/-! ### Walks -/

/-- The changes of phase that the tag reader can go through in a mode. -/
inductive ReaderMode.Edge : ReaderMode → Phase → Phase → Prop
  | start (mode : ReaderMode) : Edge mode .idle .polling
  | found : Edge .uid .polling .cardFound
  /-- The tag that was found refused the key. -/
  | turnedAway : Edge .uid .cardFound .polling
  | opened : Edge .uid .cardFound .authenticated
  | read : Edge .uid .authenticated .blockRead
  | finished : Edge .uid .blockRead .done
  /-- A payment frame was read. -/
  | ready : Edge .payment .polling .done

/-- Changes of phase, each along an edge and from where the one before it led. -/
inductive Walk (Edge : Phase → Phase → Prop) : Phase → List (Phase × Phase) → Phase → Prop
  | nil (phase : Phase) : Walk Edge phase [] phase
  /-- One change, and the others from where it led. -/
  | cons {start next stop : Phase} {changes : List (Phase × Phase)} (edge : Edge start next)
      (rest : Walk Edge next changes stop) : Walk Edge start ((start, next) :: changes) stop

/-- The phase in which changes of phase leave a reader that started idle. -/
def lastPhase (changes : List (Phase × Phase)) : Phase :=
  (changes.getLast?.map Prod.snd).getD .idle

section Walk

variable {Edge : Phase → Phase → Prop} {start middle stop : Phase}
  {changes more : List (Phase × Phase)}

theorem Walk.append (h : Walk Edge start changes middle) (hmore : Walk Edge middle more stop) :
    Walk Edge start (changes ++ more) stop := by
  induction h with
  | nil phase => exact hmore
  | cons edge _ ih => exact .cons edge (ih hmore)

/-- A walk leads where its last change does. -/
theorem Walk.getLast?_eq (h : Walk Edge start changes stop) :
    (changes.getLast?.map Prod.snd).getD start = stop := by
  induction h with
  | nil phase => rfl
  | @cons start next stop changes _ _ ih =>
    rw [List.getLast?_cons]
    cases hlast : changes.getLast? with
    | none =>
      rw [hlast] at ih
      exact ih
    | some change =>
      rw [hlast] at ih
      exact ih

end Walk

/-! ### Lists in which elements go with all those before them -/

/-- Every element of a list goes with those before it, which follow a given history. -/
def Grounded {α : Type} (R : List α → α → Prop) : List α → List α → Prop
  | _, [] => True
  | history, x :: rest => R history x ∧ Grounded R (history ++ [x]) rest

section Grounded

variable {α : Type} {R : List α → α → Prop} {history first second : List α}

theorem grounded_append_iff : Grounded R history (first ++ second) ↔
    Grounded R history first ∧ Grounded R (history ++ first) second := by
  induction first generalizing history with
  | nil => simp [Grounded]
  | cons x first ih =>
    rw [List.cons_append, Grounded, Grounded, ih, and_assoc, List.append_assoc,
      List.singleton_append]

/-- A list is grounded whose elements go with everything. -/
theorem grounded_of_forall (h : ∀ x ∈ first, ∀ history, R history x) :
    Grounded R history first := by
  induction first generalizing history with
  | nil => trivial
  | cons x first ih =>
    rw [List.forall_mem_cons] at h
    exact ⟨h.1 history, ih h.2⟩

/-- Each element of a grounded list goes with those before it. -/
theorem Grounded.of_split {before after : List α} {x : α}
    (h : Grounded R [] (before ++ x :: after)) : R before x := by
  rw [grounded_append_iff, Grounded, List.nil_append] at h
  exact h.2.1

end Grounded

/-! ### What is told and asked of phases -/

namespace TagStation

/-- Whether a call only puts a record into the log. -/
def isNote : Call TagStation → Bool
  | ⟨.inr (.inr (.inr (.inr (.inl (.note _))))), _⟩ => true
  | _ => false

/-- The calls that have an effect on the outside. -/
def effects (calls : List (Call TagStation)) : List (Call TagStation) :=
  calls.filter fun call => !isNote call

/-- The change of phase that a call tells. -/
def change? : Call TagStation → Option (Phase × Phase)
  | ⟨.inr (.inr (.inr (.inr (.inr (.emit (.phaseChanged before after)))))), _⟩ =>
    some (before, after)
  | _ => none

/-- The changes of phase that some calls tell. -/
def changes (calls : List (Call TagStation)) : List (Phase × Phase) :=
  calls.filterMap change?

/-- Whether a call singles out a tag. -/
def isAnticollision : Call TagStation → Bool
  | ⟨.inl .anticollision, _⟩ => true
  | _ => false

/-- It was told directly before that the tag that was singled out last refused the key. -/
def Explained (history : List (Call TagStation)) : Prop :=
  ∃ uid, history.getLast? = some (told (.authFailed uid)) ∧
    Since (· = card ⟨.anticollision, .ok (some uid)⟩) (isAnticollision · = true) history

/-- The way back from a card that was found is explained. -/
def Justified (history : List (Call TagStation)) (call : Call TagStation) : Prop :=
  change? call = some (.cardFound, .polling) → Explained history

/-- The failure of a call that fails, and the phase in which that leaves the reader. -/
def strandsIn? : Call TagStation → Option (Failure × Phase)
  | ⟨.inl .request, .error fault⟩ => some (.tag fault, .polling)
  | ⟨.inl .anticollision, .error fault⟩ => some (.tag fault, .polling)
  | ⟨.inl (.select _), .error fault⟩ => some (.tag fault, .cardFound)
  | ⟨.inl (.authenticate _ _ _), .error fault⟩ => some (.tag fault, .cardFound)
  | ⟨.inl (.read _), .error fault⟩ => some (.tag fault, .authenticated)
  | ⟨.inr (.inl (.read _ _)), .error fault⟩ => some (.bus fault, .polling)
  | _ => none

/-- The failures of some calls, each with the phase in which it leaves the reader. -/
def strandings (calls : List (Call TagStation)) : List (Failure × Phase) :=
  calls.filterMap strandsIn?

theorem effects_append (first second : List (Call TagStation)) :
    effects (first ++ second) = effects first ++ effects second :=
  List.filter_append first second

theorem changes_append (first second : List (Call TagStation)) :
    changes (first ++ second) = changes first ++ changes second :=
  List.filterMap_append

theorem strandings_append (first second : List (Call TagStation)) :
    strandings (first ++ second) = strandings first ++ strandings second :=
  List.filterMap_append

end TagStation

/-- What a procedure that ends in a phase has failed with. -/
def stranding {α : Type} (result : Except Failure α) (phase : Phase) : List (Failure × Phase) :=
  match result with
  | .ok _ => []
  | .error failure => [(failure, phase)]

theorem mem_stranding_iff {α : Type} {result : Except Failure α} {phase stop : Phase}
    {failure : Failure} :
    (failure, stop) ∈ stranding result phase ↔ result = .error failure ∧ phase = stop := by
  cases result with
  | ok value => simp [stranding]
  | error other => simp [stranding, eq_comm]

/-- Where the way back is not taken, there is nothing to explain. -/
theorem grounded_of_not_mem {calls history : List (Call TagStation)}
    (h : (.cardFound, .polling) ∉ changes calls) :
    Grounded Justified history (effects calls) := by
  refine grounded_of_forall fun call hcall _ hchange => absurd ?_ h
  exact List.mem_filterMap.mpr ⟨call, List.mem_of_mem_filter hcall, hchange⟩

/-! ### One round -/

/-- What one round of a mode is like that begins while polling. -/
structure RoundWalks (mode : ReaderMode) (calls : List (Call TagStation))
    (result : Except Failure (Option Reading)) (phase : Phase) : Prop where
  walk : Walk mode.Edge .polling (changes calls) phase
  /-- Each way back from a card is explained within the round. -/
  grounded : ∀ history, Grounded Justified history (effects calls)
  /-- The round is done if it reads something. -/
  done_iff : (∃ reading, result = .ok (some reading)) ↔ phase = .done
  /-- The call that fails is the only one, and the round fails with it. -/
  strandings_eq : strandings calls = stranding result phase

section Rounds

variable {before after : Standing} {calls : List (Call TagStation)}
  {result : Except Failure (Option Reading)}

theorem changes_pause (settings : TagSettings) : changes (pause settings) = [] := by
  unfold pause
  split_ifs <;> rfl

theorem strandings_pause (settings : TagSettings) : strandings (pause settings) = [] := by
  unfold pause
  split_ifs <;> rfl

theorem TagRound.walk {settings : TagSettings} (hphase : before.phase = .polling)
    (h : TagRound settings before calls result after) :
    Walk ReaderMode.uid.Edge .polling (changes calls) after.phase := by
  have hnone : Walk ReaderMode.uid.Edge .polling [] before.phase := by
    rw [hphase]
    exact .nil .polling
  cases h with
  | requestFailed | anticollisionFailed | left => exact hnone
  | missed =>
    show Walk _ _ (changes (pause settings)) _
    rw [changes_pause]
    exact hnone
  | selectFailed | authenticateFailed => exact .cons .found (.nil .cardFound)
  | refused => exact .cons .found (.cons .turnedAway (.nil .polling))
  | readFailed => exact .cons .found (.cons .opened (.nil .authenticated))
  | read => exact .cons .found (.cons .opened (.cons .read (.cons .finished (.nil .done))))

/-- A tag that refused the key was singled out in the same round. -/
theorem explained_tried {settings : TagSettings} {uid : Uid} {status : TagStatus}
    (history : List (Call TagStation)) :
    Explained
      (history ++ (effects (tried settings uid (.ok status)) ++ [told (.authFailed uid)])) := by
  refine ⟨uid, by simp, history ++ [card ⟨.request, .ok .ok⟩], _,
    [told (.phaseChanged .polling .cardFound), card ⟨.select uid, .ok ()⟩,
      card ⟨.authenticate settings.block settings.key uid, .ok status⟩, told (.authFailed uid)],
    ?_, rfl, List.any_eq_false.mp rfl⟩
  rw [List.append_assoc]
  rfl

theorem TagRound.grounded {settings : TagSettings}
    (h : TagRound settings before calls result after) (history : List (Call TagStation)) :
    Grounded Justified history (effects calls) := by
  cases h with
  | refused uid status =>
    -- only a refusal goes back from a card, and it is told before
    have htold : (.cardFound, .polling) ∉ changes
        (tried settings uid (.ok status) ++ [told (.authFailed uid)]) := by
      show _ ∉ [(Phase.polling, Phase.cardFound)]
      decide
    have hsplit : ∀ attempts, effects (tried settings uid (.ok status) ++
        turnedAway settings uid status attempts) =
          effects (tried settings uid (.ok status) ++ [told (.authFailed uid)]) ++
            [told (.phaseChanged .cardFound .polling)] := fun _ => rfl
    rw [hsplit, grounded_append_iff]
    exact ⟨grounded_of_not_mem htold, fun _ => explained_tried history, trivial⟩
  | missed =>
    refine grounded_of_not_mem ?_
    show _ ∉ changes (pause settings)
    rw [changes_pause]
    exact List.not_mem_nil
  | requestFailed | anticollisionFailed | left =>
    refine grounded_of_not_mem ?_
    exact List.not_mem_nil
  | selectFailed | authenticateFailed =>
    refine grounded_of_not_mem ?_
    show _ ∉ [(Phase.polling, Phase.cardFound)]
    decide
  | readFailed =>
    refine grounded_of_not_mem ?_
    show _ ∉ [(Phase.polling, Phase.cardFound), (.cardFound, .authenticated)]
    decide
  | read =>
    refine grounded_of_not_mem ?_
    show _ ∉ [(Phase.polling, Phase.cardFound), (.cardFound, .authenticated),
      (.authenticated, .blockRead), (.blockRead, .done)]
    decide

theorem TagRound.walks {settings : TagSettings} (hphase : before.phase = .polling)
    (h : TagRound settings before calls result after) :
    RoundWalks .uid calls result after.phase := by
  refine ⟨h.walk hphase, h.grounded, ?_, ?_⟩
  · cases h <;> simp [hphase]
  · cases h with
    | missed =>
      show strandings (pause settings) = []
      exact strandings_pause settings
    | requestFailed | anticollisionFailed =>
      show [_] = [_]
      rw [hphase]
    | _ => rfl

theorem FrameRound.walks {settings : PaymentSettings} (hphase : before.phase = .polling)
    (h : FrameRound settings before calls result after) :
    RoundWalks .payment calls result after.phase := by
  have hnone : Walk ReaderMode.payment.Edge .polling [] before.phase := by
    rw [hphase]
    exact .nil .polling
  cases h with
  | failed fault =>
    refine ⟨hnone, fun _ => grounded_of_not_mem List.not_mem_nil, by simp [hphase], ?_⟩
    show [_] = [_]
    rw [hphase]
  | notReady =>
    exact ⟨hnone, fun _ => grounded_of_not_mem List.not_mem_nil, by simp [hphase], rfl⟩
  | ready =>
    have hchanges : (Phase.cardFound, Phase.polling) ∉ [(Phase.polling, Phase.done)] := by decide
    exact ⟨.cons .ready (.nil .done), fun _ => grounded_of_not_mem hchanges, by simp, rfl⟩

theorem ModeRound.walks {settings : Settings} {mode : ReaderMode} (hphase : before.phase = .polling)
    (h : ModeRound settings mode before calls result after) :
    RoundWalks mode calls result after.phase := by
  cases mode with
  | uid => exact TagRound.walks hphase h
  | payment => exact FrameRound.walks hphase h

end Rounds

/-! ### Whole runs -/

/-- The phase at the end of a run, from the last that was told: a reader that is stopped is idle
again, which is not told. -/
def phaseAtEnd (last : Phase) : Except Failure (Option ReadOutcome) → Phase
  | .ok (some .cancelled) => .idle
  | _ => last

/-- What a run of a mode is like that begins in a phase. -/
structure RunWalks (mode : ReaderMode) (start : Phase) (calls : List (Call TagStation))
    (result : Except Failure (Option ReadOutcome)) (phase : Phase) : Prop where
  walk : ∃ last, Walk mode.Edge start (changes calls) last ∧ phase = phaseAtEnd last result
  /-- Each way back from a card is explained within the run. -/
  grounded : ∀ history, Grounded Justified history (effects calls)
  /-- The run is done if it reads something. -/
  done_iff : (∃ reading, result = .ok (some (.read reading))) ↔ phase = .done
  /-- The call that fails is the only one, and the run fails with it. -/
  strandings_eq : strandings calls = stranding result phase

section Runs

variable {settings : Settings} {mode : ReaderMode} {before after : Standing}
  {calls : List (Call TagStation)} {result : Except Failure (Option ReadOutcome)}
  {start middle phase : Phase}

/-- What goes before a run and does not fail. -/
theorem RunWalks.append_left (first : List (Call TagStation))
    (hwalk : Walk mode.Edge start (changes first) middle)
    (hgrounded : ∀ history, Grounded Justified history (effects first))
    (hstrandings : strandings first = []) (h : RunWalks mode middle calls result phase) :
    RunWalks mode start (first ++ calls) result phase := by
  obtain ⟨last, hmore, hphase⟩ := h.walk
  refine ⟨⟨last, ?_, hphase⟩, fun history => ?_, h.done_iff, ?_⟩
  · rw [changes_append]
    exact hwalk.append hmore
  · rw [effects_append, grounded_append_iff]
    exact ⟨hgrounded history, h.grounded _⟩
  · rw [strandings_append, hstrandings, List.nil_append]
    exact h.strandings_eq

/-- Looking at the stop flag needs nothing before it. -/
theorem grounded_looked {history : List (Call TagStation)} {raised : Bool}
    (h : Grounded Justified (history ++ [looked raised]) (effects calls)) :
    Grounded Justified history (effects (looked raised :: calls)) := by
  refine ⟨?_, h⟩
  intro hchange
  cases hchange

/-- A run that begins while polling is a walk. -/
theorem Polling.walks (hphase : before.phase = .polling)
    (h : Polling (ModeRound settings mode) before calls result after) :
    RunWalks mode .polling calls result after.phase := by
  induction h with
  | unfinished before =>
    refine ⟨⟨.polling, .nil .polling, hphase⟩, fun _ => trivial, by simp [hphase], rfl⟩
  | stopped before =>
    have hchanges : changes (looked true :: interrupted before.phase) = [] := rfl
    refine ⟨⟨.polling, .nil .polling, rfl⟩, fun _ => grounded_of_not_mem ?_, by simp, rfl⟩
    rw [hchanges]
    exact List.not_mem_nil
  | @failed _ after calls failure round =>
    -- the last round is the last part of the walk, whether it fails or reads
    have hround := round.walks hphase
    have hdone : after.phase ≠ .done := by
      intro hdone
      obtain ⟨_, hread⟩ := hround.done_iff.mpr hdone
      cases hread
    refine ⟨⟨after.phase, hround.walk, rfl⟩, fun history => ?_, by simp [hdone], ?_⟩
    · exact grounded_looked (hround.grounded _)
    · exact hround.strandings_eq
  | @read _ after calls reading round =>
    have hround := round.walks hphase
    have hdone : after.phase = .done := hround.done_iff.mp ⟨reading, rfl⟩
    refine ⟨⟨after.phase, hround.walk, rfl⟩, fun history => ?_, by simp [hdone], ?_⟩
    · exact grounded_looked (hround.grounded _)
    · exact hround.strandings_eq
  | @again _ middle _ calls _ _ round _ ih =>
    -- a round that reads nothing comes back to where it began
    have hround := round.walks hphase
    have hmiddle := ReadProcedure.phase_of_modeRound hphase round
    have hwalk : Walk mode.Edge .polling (changes calls) .polling := hmiddle ▸ hround.walk
    refine (ih hmiddle).append_left (looked false :: calls) hwalk (fun history => ?_) ?_
    · exact grounded_looked (hround.grounded _)
    · exact hround.strandings_eq

/-- A run that is refused at once has told nothing and stays idle. -/
theorem ReadProcedure.read_refused {fuel : Nat} {fault : BusFault}
    (hrefusal : settings.refusal? mode = some fault)
    (h : (read settings mode fuel).Path before calls result after) :
    calls = [] ∧ result = .error (.bus fault) ∧ after = {} := by
  rw [read_eq, hrefusal] at h
  have hreset : (throw (.bus fault) : ReadProcedure (Option ReadOutcome)).Path {} calls result
    after := h
  exact path_throw_iff.mp hreset

/-- A run that is not refused is a walk from `idle` on. -/
theorem ReadProcedure.walks_of_read {fuel : Nat} (hrefusal : settings.refusal? mode = none)
    (h : (read settings mode fuel).Path before calls result after) :
    RunWalks mode .idle calls result after.phase := by
  obtain ⟨_, hrefused, _⟩ | ⟨_, rest, rfl, hpoll⟩ := read_path h
  · rw [hrefusal] at hrefused
    cases hrefused
  have hchanges : (Phase.cardFound, Phase.polling) ∉ changes (entered .idle .polling) := by
    show _ ∉ [(Phase.idle, Phase.polling)]
    decide
  exact (hpoll.walks rfl).append_left (entered .idle .polling)
    (.cons (.start mode) (.nil .polling)) (fun _ => grounded_of_not_mem hchanges) rfl

end Runs

/-- On whatever hardware, whenever it is stopped, and whatever the reader did before, the changes of
phase that a run tells are a walk from `idle` along the edges of its mode, and the phase it ends in
is the last that was told, but `idle` if it was stopped. Each way back from a card is told directly
after the refusal of the tag that was singled out last. The reader is done if and only if something
was read. If a frame length is refused, nothing is done and the reader is idle; else the run fails
if and only if a call fails, with the failure of that call and in the phase that belongs to it. -/
theorem read_walks {σ : Type} (w : World TagStation σ) (settings : Settings) (mode : ReaderMode)
    (fuel : Nat) (standing : Standing) (s : σ) :
    let run := (ReadProcedure.read settings mode fuel).run.run standing
    let calls := run.calls w s
    let result := (run.eval w s).1.1
    let phase := (run.eval w s).1.2.phase
    let last := lastPhase (changes calls)
    Walk mode.Edge .idle (changes calls) last ∧
    phase = phaseAtEnd last result ∧
    (∀ earlier later, effects calls = earlier ++ told (.phaseChanged .cardFound .polling) :: later →
      Explained earlier) ∧
    ((∃ reading, result = .ok (some (.read reading))) ↔ phase = .done) ∧
    (∀ fault, settings.refusal? mode = some fault →
      calls = [] ∧ result = .error (.bus fault) ∧ phase = .idle) ∧
    (settings.refusal? mode = none → ∀ failure stop, result = .error failure ∧ phase = stop ↔
      ∃ call ∈ calls, strandsIn? call = some (failure, stop)) := by
  intro run calls result phase last
  have hpath : (ReadProcedure.read settings mode fuel).Path standing calls result
      (run.eval w s).1.2 := Program.path_calls w run s
  cases hrefusal : settings.refusal? mode with
  | some fault =>
    -- refused at once: nothing is told, and the walk has no edge
    obtain ⟨hcalls, hresult, hafter⟩ := ReadProcedure.read_refused hrefusal hpath
    have hphase : phase = .idle := congrArg Standing.phase hafter
    have hlast : last = .idle := by
      show lastPhase (changes calls) = .idle
      rw [hcalls]
      rfl
    rw [hlast, hcalls, hresult, hphase]
    refine ⟨.nil .idle, rfl, ?_, by simp, ?_, by simp⟩
    · intro earlier later hsplit
      simp [effects] at hsplit
    · rintro _ ⟨⟩
      exact ⟨rfl, rfl, rfl⟩
  | none =>
    have hwalks := ReadProcedure.walks_of_read hrefusal hpath
    obtain ⟨stop, hwalk, hphase⟩ := hwalks.walk
    obtain rfl : last = stop := hwalk.getLast?_eq
    refine ⟨hwalk, hphase, ?_, hwalks.done_iff, by simp, ?_⟩
    · intro earlier later hsplit
      have hgrounded := hwalks.grounded []
      rw [hsplit] at hgrounded
      exact hgrounded.of_split rfl
    · intro _ failure stop
      rw [← mem_stranding_iff, ← hwalks.strandings_eq, strandings, List.mem_filterMap]

end DrinkMixer
