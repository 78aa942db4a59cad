import DrinkMixer.Proofs.Tag.Run

/-!
# What the tag reader asks of the contactless reader

Each call to the contactless reader needs the call directly before it: a tag is singled out after a
request that one answered, selected when it was singled out, its block opened when it is selected,
and read when it is open (`Licensed`).

Main statement: `read_uid_asks`, in a run for a contactless tag every call is licensed, at most one
block is read, and what is returned is what the last five calls showed of one tag.
-/

namespace DrinkMixer

open TagStation

/-! ### Lists linked from element to element -/

/-- Every element of a list goes with the one directly before it, and the first with `previous`. -/
def Linked {α : Type} (R : Option α → α → Prop) : Option α → List α → Prop
  | _, [] => True
  | previous, x :: rest => R previous x ∧ Linked R (some x) rest

section Linked

variable {α : Type} {R : Option α → α → Prop}

theorem linked_append_iff {previous : Option α} {first second : List α} :
    Linked R previous (first ++ second) ↔
      Linked R previous first ∧ Linked R (first.getLast?.or previous) second := by
  induction first generalizing previous with
  | nil => simp [Linked]
  | cons x first ih =>
    rw [List.cons_append, Linked, Linked, ih, and_assoc, List.getLast?_cons]
    cases first.getLast? <;> rfl

/-- Each element of a linked list goes with the last of those before it. -/
theorem Linked.of_split {before after : List α} {x : α}
    (h : Linked R none (before ++ x :: after)) : R before.getLast? x := by
  rw [linked_append_iff, Linked, Option.or_none] at h
  exact h.2.1

end Linked

/-! ### Calls to the contactless reader -/

/-- The calls to the contactless reader. -/
def cardCalls (calls : List (Call TagStation)) : List (Call Card) :=
  calls.filterMap Call.left?

/-- The calls to the payment reader. -/
def paymentCalls (calls : List (Call TagStation)) : List (Call PaymentBus) :=
  calls.filterMap fun call => call.right?.bind Call.left?

/-- What has to come directly before a call to the contactless reader. -/
def Licensed (settings : TagSettings) (previous : Option (Call Card)) (call : Call Card) : Prop :=
  match call.op with
  | .request => True
  | .anticollision => previous = some ⟨.request, .ok .ok⟩
  | .select uid => previous = some ⟨.anticollision, .ok (some uid)⟩
  | .authenticate block key uid =>
    previous = some ⟨.select uid, .ok ()⟩ ∧ block = settings.block ∧ key = settings.key
  | .read block => ∃ key uid, previous = some ⟨.authenticate block key uid, .ok .ok⟩

/-- Whether a call reads a block. -/
def isRead (call : Call Card) : Bool :=
  match call.op with
  | .read _ => true
  | _ => false

/-- The calls by which a tag is found and its data block is read. -/
def reading (settings : TagSettings) (uid : Uid) (block : Block) : List (Call Card) :=
  [⟨.request, .ok .ok⟩, ⟨.anticollision, .ok (some uid)⟩, ⟨.select uid, .ok ()⟩,
    ⟨.authenticate settings.block settings.key uid, .ok .ok⟩, ⟨.read settings.block, .ok block⟩]

section CardCalls

variable {settings : TagSettings}

@[simp] theorem cardCalls_nil : cardCalls [] = [] := rfl

@[simp] theorem cardCalls_append (first second : List (Call TagStation)) :
    cardCalls (first ++ second) = cardCalls first ++ cardCalls second :=
  List.filterMap_append

@[simp] theorem cardCalls_card (call : Call Card) (calls : List (Call TagStation)) :
    cardCalls (card call :: calls) = call :: cardCalls calls := rfl

@[simp] theorem cardCalls_noted (level : LogLevel) (text : String)
    (calls : List (Call TagStation)) :
    cardCalls (noted level text :: calls) = cardCalls calls := rfl

@[simp] theorem cardCalls_told (event : Event) (calls : List (Call TagStation)) :
    cardCalls (told event :: calls) = cardCalls calls := rfl

@[simp] theorem cardCalls_looked (raised : Bool) (calls : List (Call TagStation)) :
    cardCalls (looked raised :: calls) = cardCalls calls := rfl

@[simp] theorem cardCalls_entered (before after : Phase) :
    cardCalls (entered before after) = [] := by
  unfold entered
  split_ifs <;> rfl

@[simp] theorem cardCalls_pause : cardCalls (pause settings) = [] := by
  unfold pause
  split_ifs <;> rfl

@[simp] theorem cardCalls_interrupted (phase : Phase) : cardCalls (interrupted phase) = [] := rfl

@[simp] theorem cardCalls_found (uid : Uid) :
    cardCalls (found uid) = [⟨.request, .ok .ok⟩, ⟨.anticollision, .ok (some uid)⟩] := by
  simp [found]

@[simp] theorem cardCalls_tried (uid : Uid) (answer : Except TagFault TagStatus) :
    cardCalls (tried settings uid answer) =
      [⟨.request, .ok .ok⟩, ⟨.anticollision, .ok (some uid)⟩, ⟨.select uid, .ok ()⟩,
        ⟨.authenticate settings.block settings.key uid, answer⟩] := by
  simp [tried]

@[simp] theorem cardCalls_turnedAway (uid : Uid) (status : TagStatus) (attempts : UInt32) :
    cardCalls (turnedAway settings uid status attempts) = [] := by
  simp [turnedAway]

theorem paymentCalls_append (first second : List (Call TagStation)) :
    paymentCalls (first ++ second) = paymentCalls first ++ paymentCalls second :=
  List.filterMap_append

/-! ### One round -/

variable {before after : Standing} {calls : List (Call TagStation)}

/-- A round asks for a tag first, and then each of its calls has what it needs. -/
theorem TagRound.linked {result : Except Failure (Option Reading)} {previous : Option (Call Card)}
    (h : TagRound settings before calls result after) :
    Linked (Licensed settings) previous (cardCalls calls) := by
  cases h with
  | readFailed | read =>
    simp only [cardCalls_append, cardCalls_tried, cardCalls_entered, cardCalls_card,
      cardCalls_nil, List.append_nil]
    exact ⟨trivial, rfl, rfl, ⟨rfl, rfl, rfl⟩, ⟨_, _, rfl⟩, trivial⟩
  | _ => simp [Linked, Licensed]

/-- A round that reads nothing has not read a block. -/
theorem TagRound.countP_isRead_eq_zero (h : TagRound settings before calls (.ok none) after) :
    (cardCalls calls).countP isRead = 0 := by
  cases h <;> simp [isRead]

theorem TagRound.countP_isRead_le_one {result : Except Failure (Option Reading)}
    (h : TagRound settings before calls result after) :
    (cardCalls calls).countP isRead ≤ 1 := by
  cases h <;> simp [isRead]

/-- A round that reads something is the reading of one tag. -/
theorem TagRound.eq_reading {result : Reading}
    (h : TagRound settings before calls (.ok (some result)) after) :
    ∃ uid block, result = .tag uid block ∧ cardCalls calls = reading settings uid block := by
  cases h with
  | read uid block => exact ⟨uid, block, rfl, by simp [reading]⟩

/-- In no round is anything asked of the payment reader. -/
theorem TagRound.paymentCalls_eq_nil {result : Except Failure (Option Reading)}
    (h : TagRound settings before calls result after) : paymentCalls calls = [] := by
  cases h with
  | missed =>
    show paymentCalls (pause settings) = []
    unfold pause
    split_ifs <;> rfl
  | _ => rfl

/-! ### Whole runs -/

/-- Where every round has what it needs, whatever came before it, a whole run has. -/
theorem Polling.linked_of {Round : Standing → List (Call TagStation) →
      Except Failure (Option Reading) → Standing → Prop} {R : Option (Call Card) → Call Card → Prop}
    (hround : ∀ {before calls result after previous}, Round before calls result after →
      Linked R previous (cardCalls calls))
    {result : Except Failure (Option ReadOutcome)} {previous : Option (Call Card)}
    (h : Polling Round before calls result after) : Linked R previous (cardCalls calls) := by
  induction h generalizing previous with
  | unfinished => trivial
  | stopped => trivial
  | failed round | read round =>
    rw [cardCalls_looked]
    exact hround round
  | again round _ ih =>
    rw [List.cons_append, cardCalls_looked, cardCalls_append, linked_append_iff]
    exact ⟨hround round, ih⟩

/-- A round asks for a tag first, which needs nothing before it. -/
theorem Polling.linked {result : Except Failure (Option ReadOutcome)}
    {previous : Option (Call Card)} (h : Polling (TagRound settings) before calls result after) :
    Linked (Licensed settings) previous (cardCalls calls) :=
  h.linked_of TagRound.linked

/-- At most the last round of a run reads a block. -/
theorem Polling.countP_isRead_le_one {result : Except Failure (Option ReadOutcome)}
    (h : Polling (TagRound settings) before calls result after) :
    (cardCalls calls).countP isRead ≤ 1 := by
  induction h with
  | unfinished | stopped => exact Nat.zero_le 1
  | failed round | read round => exact round.countP_isRead_le_one
  | again round _ ih =>
    rw [cardCalls_append, List.countP_append, cardCalls_looked, round.countP_isRead_eq_zero]
    omega

/-- A run that reads something ends with the reading of one tag. -/
theorem Polling.eq_append_reading {result : Reading}
    (h : Polling (TagRound settings) before calls (.ok (some (.read result))) after) :
    ∃ uid block earlier, result = .tag uid block ∧
      cardCalls calls = earlier ++ reading settings uid block := by
  -- the induction is on runs with any result, so this one is kept beside them as an equation
  generalize hresult : (.ok (some (.read result)) : Except Failure (Option ReadOutcome)) = final
    at h
  induction h with
  | unfinished | stopped | failed => simp at hresult
  | read round =>
    obtain rfl : result = _ := by simpa using hresult
    obtain ⟨uid, block, rfl, hcalls⟩ := round.eq_reading
    exact ⟨uid, block, [], rfl, hcalls⟩
  | @again _ _ _ first _ _ round _ ih =>
    obtain ⟨uid, block, earlier, rfl, hcalls⟩ := ih hresult
    refine ⟨uid, block, cardCalls first ++ earlier, rfl, ?_⟩
    rw [cardCalls_append, hcalls, cardCalls_looked, List.append_assoc]

theorem Polling.paymentCalls_eq_nil {result : Except Failure (Option ReadOutcome)}
    (h : Polling (TagRound settings) before calls result after) : paymentCalls calls = [] := by
  induction h with
  | unfinished | stopped => rfl
  | failed round | read round => exact round.paymentCalls_eq_nil
  | @again _ _ _ first more _ round _ ih =>
    show paymentCalls (first ++ more) = []
    rw [paymentCalls_append, round.paymentCalls_eq_nil, ih, List.append_nil]

end CardCalls

/-- In a run for a contactless tag, on whatever hardware and however many rounds it is given, every
call to the contactless reader is licensed by the one directly before it, at most one block is
read, nothing is asked of the payment reader, and a tag that is returned was found, selected, opened
and read by the last five calls. -/
theorem read_uid_asks {σ : Type} (w : World TagStation σ) (settings : Settings) (fuel : Nat)
    (standing : Standing) (s : σ) :
    let run := (ReadProcedure.read settings .uid fuel).run.run standing
    let asked := cardCalls (run.calls w s)
    (∀ before call after, asked = before ++ call :: after →
      Licensed settings.tag before.getLast? call) ∧
    asked.countP isRead ≤ 1 ∧
    paymentCalls (run.calls w s) = [] ∧
    ∀ result, (run.eval w s).1.1 = .ok (some (.read result)) →
      ∃ uid block earlier, result = .tag uid block ∧
        asked = earlier ++ reading settings.tag uid block := by
  intro run asked
  have hpath : (ReadProcedure.readTag settings.tag fuel).Path standing (run.calls w s)
      (run.eval w s).1.1 (run.eval w s).1.2 := Program.path_calls w run s
  obtain ⟨rest, hrest, hpoll⟩ := ReadProcedure.readTag_path hpath
  -- the start of a run is no call to the reader
  have hasked : asked = cardCalls rest := by
    show cardCalls (run.calls w s) = _
    rw [hrest, cardCalls_append, cardCalls_entered, List.nil_append]
  refine ⟨?_, ?_, ?_, ?_⟩
  · intro before call after hsplit
    have hlinked : Linked (Licensed settings.tag) none (cardCalls rest) := hpoll.linked
    rw [← hasked, hsplit] at hlinked
    exact hlinked.of_split
  · rw [hasked]
    exact hpoll.countP_isRead_le_one
  · rw [hrest, paymentCalls_append, hpoll.paymentCalls_eq_nil]
    rfl
  · intro result hresult
    rw [hresult] at hpoll
    rw [hasked]
    exact hpoll.eq_append_reading

end DrinkMixer
