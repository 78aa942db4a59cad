import DrinkMixer.Console
import DrinkMixer.Proofs.Json.Values
import DrinkMixer.Proofs.Program.Path

/-!
# Lines on the console

Events are followed one after the other, whatever becomes of the lines of those before: the stream
is asked once to take the whole line of each event that prints one, and is asked to show it only if
it took it (`Prints`).

Main statements: `prints_followEach`, what the stream is asked for while events are followed;
`Prints.attempts_eq`, the texts that it is offered are the lines of these events; and
`Event.printed?_eq`, what these lines say.
-/

namespace DrinkMixer

/-! ### Lines -/

namespace Actuator

/-- All actuators: the pour servos and the mixer. -/
def all : List Actuator :=
  PourChannel.all.map pour ++ [mixer]

theorem mem_all (actuator : Actuator) : actuator ∈ all := by
  cases actuator with
  | pour channel =>
    exact List.mem_append_left _ (List.mem_map_of_mem (List.mem_finRange channel))
  | mixer => exact List.mem_append_right _ List.mem_cons_self

/-- The line that a finished cycle puts on the console, with its end. -/
def finished : Actuator → String
  | pour channel => "Servo " ++ toString channel.val ++ " Completed!\n"
  | mixer => "Mixing Completed!\n"

theorem finished_eq (actuator : Actuator) :
    actuator.finished = actuator.completionLine ++ "\n" := by
  have hall : ∀ a ∈ all, a.finished = a.completionLine ++ "\n" := by decide
  exact hall _ actuator.mem_all

/-- The line that a run puts on the console when it begins, with its end. -/
def begun : Actuator → String
  | pour channel =>
    "Moving servo on channel " ++ toString channel.val ++ ", press Ctrl-C to quit...\n"
  | mixer => "Turning mixing motor...\n"

theorem begun_eq (actuator : Actuator) : actuator.begun = actuator.startLine ++ "\n" := by
  have hall : ∀ a ∈ all, a.begun = a.startLine ++ "\n" := by decide
  exact hall _ actuator.mem_all

/-- The actuators have different lines for finished cycles. -/
theorem completionLine_inj {actuator other : Actuator}
    (h : actuator.completionLine = other.completionLine) : actuator = other := by
  have hall : ∀ a ∈ all, ∀ b ∈ all, a.completionLine = b.completionLine → a = b := by decide
  exact hall _ actuator.mem_all _ other.mem_all h

/-- No run begins with the line of a finished cycle. -/
theorem startLine_ne_completionLine (actuator other : Actuator) :
    actuator.startLine ≠ other.completionLine := by
  have hall : ∀ a ∈ all, ∀ b ∈ all, a.startLine ≠ b.completionLine := by decide
  exact hall _ actuator.mem_all _ other.mem_all

end Actuator

namespace Event

/-- Whether a line is printed for an event. -/
def isPrinted : Event → Bool
  | cycleStarted _ _ | cycleCompleted _ _ | authFailed _ | cancelled | pourFinished => true
  | phaseChanged _ _ | frameNotReady _ | pourStarted _ _ => false

theorem isSome_line? (event : Event) : event.line?.isSome = event.isPrinted := by
  cases event <;> rfl

/-- What an event puts on the console: one line with its end, or nothing. -/
def printed? : Event → Option String
  | cycleStarted actuator _ => some actuator.begun
  | cycleCompleted actuator _ => some actuator.finished
  | authFailed uid => some ("Authentication error for tag " ++ uid.text ++ "\n")
  | cancelled => some "Aborted\n"
  | pourFinished => some "Pour Completed!\n"
  | phaseChanged _ _ | frameNotReady _ | pourStarted _ _ => none

theorem printed?_eq (event : Event) : event.printed? = event.line?.map (· ++ "\n") := by
  cases event with
  | cycleStarted actuator _ => exact congrArg some actuator.begun_eq
  | cycleCompleted actuator _ => exact congrArg some actuator.finished_eq
  | authFailed _ | cancelled | pourFinished => rfl
  | phaseChanged _ _ | frameNotReady _ | pourStarted _ _ => rfl

/-- The identifier of a tag is shown on one line. -/
theorem newline_not_mem_text (uid : Uid) : '\n' ∉ uid.text.toList := by
  have hdigit : ∀ n < 16, '\n' ≠ (Nat.digitChar n).toUpper := by decide
  intro h
  rw [Uid.text, String.toList_ofList] at h
  rcases Json.mem_intercalate h with hcolon | ⟨pair, hpair, hmem⟩
  · simp at hcolon
  · obtain ⟨b, _, rfl⟩ := List.mem_map.mp hpair
    have hlow : b.toNat % 16 < 16 := Nat.mod_lt _ (by decide)
    have hhigh : b.toNat / 16 < 16 := Nat.div_lt_of_lt_mul b.toNat_lt
    simp only [Text.Hex.upperPair, Text.Hex.lowerPair, List.map_cons, List.map_nil, List.mem_cons,
      List.not_mem_nil, or_false] at hmem
    rcases hmem with hmem | hmem
    · exact hdigit _ hhigh hmem
    · exact hdigit _ hlow hmem

/-- A line does not go on in a second one. -/
theorem newline_not_mem_line {event : Event} {line : String} (h : event.line? = some line) :
    '\n' ∉ line.toList := by
  have hall : ∀ a ∈ Actuator.all, '\n' ∉ a.startLine.toList ∧ '\n' ∉ a.completionLine.toList := by
    decide
  cases event with
  | cycleStarted actuator _ =>
    cases h
    exact (hall _ actuator.mem_all).1
  | cycleCompleted actuator _ =>
    cases h
    exact (hall _ actuator.mem_all).2
  | authFailed uid =>
    cases h
    show '\n' ∉ ("Authentication error for tag " ++ uid.text).toList
    rw [String.toList_append, List.mem_append, not_or]
    exact ⟨by decide, newline_not_mem_text uid⟩
  | cancelled =>
    cases h
    decide
  | pourFinished =>
    cases h
    decide
  | phaseChanged _ _ => cases h
  | frameNotReady _ => cases h
  | pourStarted _ _ => cases h

/-- The line of a finished cycle stands for nothing else. -/
theorem line?_eq_completionLine_iff {event : Event} {actuator : Actuator} :
    event.line? = some actuator.completionLine ↔
      ∃ remaining, event = .cycleCompleted actuator remaining := by
  have hall : ∀ a ∈ Actuator.all, a.completionLine.toList.head? ≠ some 'A' ∧
      "Pour Completed!" ≠ a.completionLine := by decide
  obtain ⟨hfirst, hpour⟩ := hall _ actuator.mem_all
  refine ⟨fun h => ?_, ?_⟩
  · cases event with
    | cycleStarted other _ =>
      exact absurd (Option.some.inj h) (Actuator.startLine_ne_completionLine other actuator)
    | cycleCompleted other remaining =>
      exact ⟨remaining, by rw [Actuator.completionLine_inj (Option.some.inj h)]⟩
    | authFailed uid =>
      have hline : "Authentication error for tag " ++ uid.text = actuator.completionLine :=
        Option.some.inj h
      rw [← hline, String.toList_append] at hfirst
      exact absurd rfl hfirst
    | cancelled =>
      rw [← Option.some.inj h] at hfirst
      exact absurd rfl hfirst
    | pourFinished => exact absurd (Option.some.inj h) hpour
    | phaseChanged _ _ => cases h
    | frameNotReady _ => cases h
    | pourStarted _ _ => cases h
  · rintro ⟨remaining, rfl⟩
    rfl

end Event

namespace Console

/-- The lines that are printed for some events, each with its end. -/
def lines (events : List Event) : List String :=
  events.filterMap Event.printed?

theorem lines_eq (events : List Event) :
    lines events = (events.filterMap Event.line?).map (· ++ "\n") := by
  rw [lines, List.map_filterMap]
  exact List.filterMap_congr fun event _ => event.printed?_eq

theorem lines_cons_of_none {event : Event} (h : event.line? = none) (events : List Event) :
    lines (event :: events) = lines events := by
  refine List.filterMap_cons_none ?_
  rw [event.printed?_eq, h]
  rfl

theorem lines_cons_of_some {event : Event} {line : String} (h : event.line? = some line)
    (events : List Event) : lines (event :: events) = (line ++ "\n") :: lines events := by
  refine List.filterMap_cons_some ?_
  rw [event.printed?_eq, h]
  rfl

/-- The texts that a stream is offered, each with what becomes of it. -/
def attempts (calls : List (Call Console)) : List (String × Except String Unit) :=
  calls.filterMap fun
    | ⟨.write text, answer⟩ => some (text, answer)
    | ⟨.flush, _⟩ => none

/-- A text that was offered, if it was taken. -/
def kept? : String × Except String Unit → Option String
  | (text, .ok ()) => some text
  | (_, .error _) => none

/-- The texts that a stream took. -/
def taken (calls : List (Call Console)) : List String :=
  (attempts calls).filterMap kept?

/-- What a stream is asked for while some events are followed. -/
inductive Prints : List Event → List (Call Console) → Prop
  | nil : Prints [] []
  /-- An event without a line. -/
  | silent {event : Event} {events : List Event} {calls : List (Call Console)}
    (line : event.line? = none) (more : Prints events calls) : Prints (event :: events) calls
  /-- The line of an event is refused, and not offered again. -/
  | refused {event : Event} {events : List Event} {calls : List (Call Console)} {text : String}
    (line : event.line? = some text) (reason : String) (more : Prints events calls) :
    Prints (event :: events) (⟨.write (text ++ "\n"), .error reason⟩ :: calls)
  /-- The line of an event is taken and is to be shown, which may fail. -/
  | shown {event : Event} {events : List Event} {calls : List (Call Console)} {text : String}
    (line : event.line? = some text) (flushed : Except String Unit) (more : Prints events calls) :
    Prints (event :: events)
      (⟨.write (text ++ "\n"), .ok ()⟩ :: ⟨.flush, flushed⟩ :: calls)

/-- Each line is offered once, whole and in its turn. -/
theorem Prints.attempts_eq {events : List Event} {calls : List (Call Console)}
    (h : Prints events calls) : (attempts calls).map Prod.fst = lines events := by
  induction h with
  | nil => rfl
  | silent line _ ih => rw [ih, lines_cons_of_none line]
  | refused line _ _ ih =>
    rw [lines_cons_of_some line, ← ih]
    rfl
  | shown line _ _ ih =>
    rw [lines_cons_of_some line, ← ih]
    rfl

/-- A stream that takes everything takes all lines. -/
theorem Prints.taken_eq {events : List Event} {calls : List (Call Console)}
    (h : Prints events calls) (hall : ∀ attempt ∈ attempts calls, attempt.2 = .ok ()) :
    taken calls = lines events := by
  rw [← h.attempts_eq, taken, ← List.filterMap_eq_map]
  refine List.filterMap_congr fun attempt hattempt => ?_
  obtain ⟨text, answer⟩ := attempt
  have hok : answer = .ok () := hall _ hattempt
  rw [hok]
  rfl

/-- What is printed for some events is exact, whatever the stream answers. -/
structure Exact (events : List Event) (calls : List (Call Console)) : Prop where
  prints : Prints events calls
  /-- Each line is offered once, whole and in its turn. -/
  offered : (attempts calls).map Prod.fst = lines events
  /-- There is one for each event that prints. -/
  number : (attempts calls).length = events.countP Event.isPrinted
  /-- No line goes on in a second one. -/
  single : ∀ line ∈ events.filterMap Event.line?, '\n' ∉ line.toList
  /-- The text that is taken is made up of the lines that are not refused. -/
  text : String.join (taken calls) =
    String.join (((lines events).zip ((attempts calls).map Prod.snd)).filterMap kept?)

theorem Prints.exact {events : List Event} {calls : List (Call Console)}
    (h : Prints events calls) : Exact events calls where
  prints := h
  offered := h.attempts_eq
  number := by
    have hlength := congrArg List.length h.attempts_eq
    rw [List.length_map, lines_eq, List.length_map, List.length_filterMap_eq_countP] at hlength
    rw [hlength]
    exact List.countP_congr fun event _ => by rw [event.isSome_line?]
  single line hline := by
    obtain ⟨event, _, hevent⟩ := List.mem_filterMap.mp hline
    exact Event.newline_not_mem_line hevent
  text := by rw [← List.zip_of_prod h.attempts_eq rfl, taken]

/-! ### Following events -/

/-- Follows some events one after the other. -/
def followEach : List Event → Program (Console.sum Board) Unit
  | [] => pure ()
  | event :: events => do
    follow event
    followEach events

/-- Nothing but log records. -/
def Noted (calls : List (Call (Console.sum Board))) : Prop :=
  ∀ call ∈ calls, ∃ record, call = ⟨.inr (.note record), ()⟩

/-- A text is offered once, and shown if it was taken. -/
theorem path_deliver {text : String} {calls : List (Call (Console.sum Board))}
    {answer : Except String Unit} (h : Program.Path (deliver text) calls answer) :
    (∃ reason, calls = [⟨.inl (.write text), .error reason⟩]) ∨
      ∃ flushed, calls = [⟨.inl (.write text), .ok ()⟩, ⟨.inl .flush, flushed⟩] := by
  obtain ⟨offered, rest, hrest, rfl⟩ := Program.path_ask_iff.mp h
  rcases offered with reason | ⟨⟩
  · have hdone : Program.Path (.done (.error reason)) rest answer := hrest
    obtain ⟨rfl, _⟩ := Program.path_done_iff.mp hdone
    exact Or.inl ⟨reason, rfl⟩
  · have hflush : Program.Path (Program.request (S := Console) .flush) rest answer := hrest
    obtain ⟨flushed, rfl, _⟩ := Program.path_request_iff.mp hflush
    exact Or.inr ⟨flushed, rfl⟩

/-- Whatever becomes of a line, nothing but log records follow it. -/
theorem path_print {line : String} {calls : List (Call (Console.sum Board))}
    (h : Program.Path (print line) calls ()) :
    ∃ notes, Noted notes ∧
      ((∃ reason, calls = ⟨.inl (.write (line ++ "\n")), .error reason⟩ :: notes) ∨
        ∃ flushed,
          calls = ⟨.inl (.write (line ++ "\n")), .ok ()⟩ :: ⟨.inl .flush, flushed⟩ :: notes) := by
  obtain ⟨answer, first, notes, hfirst, hnotes, rfl⟩ := Program.path_bind_iff.mp h
  refine ⟨notes, ?_, ?_⟩
  · rcases answer with reason | ⟨⟩
    · obtain ⟨_, rfl, _⟩ := Program.path_request_iff.mp hnotes
      exact List.forall_mem_singleton.mpr ⟨_, rfl⟩
    · obtain ⟨rfl, _⟩ := Program.path_done_iff.mp hnotes
      exact List.forall_mem_nil _
  · rcases path_deliver hfirst with ⟨reason, rfl⟩ | ⟨flushed, rfl⟩
    · exact Or.inl ⟨reason, rfl⟩
    · exact Or.inr ⟨flushed, rfl⟩

/-- An event is noted, and then its line is printed if it has one. -/
theorem path_follow {event : Event} {calls : List (Call (Console.sum Board))}
    (h : Program.Path (follow event) calls ()) :
    (event.line? = none ∧ calls = [⟨.inr (.note event.record), ()⟩]) ∨
      ∃ line printed, event.line? = some line ∧ Program.Path (print line) printed () ∧
        calls = ⟨.inr (.note event.record), ()⟩ :: printed := by
  obtain ⟨_, _, printed, hnoted, hprinted, rfl⟩ := Program.path_bind_iff.mp h
  obtain ⟨_, rfl, _⟩ := Program.path_request_iff.mp hnoted
  cases hline : event.line? with
  | none =>
    rw [hline] at hprinted
    obtain ⟨rfl, _⟩ := Program.path_done_iff.mp hprinted
    exact Or.inl ⟨rfl, rfl⟩
  | some line =>
    rw [hline] at hprinted
    exact Or.inr ⟨line, printed, rfl, hprinted, rfl⟩

/-- One event is followed, and then others. -/
theorem prints_follow {event : Event} {events : List Event}
    {calls : List (Call (Console.sum Board))} {rest : List (Call Console)}
    (h : Program.Path (follow event) calls ()) (hrest : Prints events rest) :
    Prints (event :: events) (calls.filterMap Call.left? ++ rest) := by
  rcases path_follow h with ⟨hline, rfl⟩ | ⟨line, printed, hline, hprinted, rfl⟩
  · exact .silent hline hrest
  · obtain ⟨notes, hnotes, hprinted⟩ := path_print hprinted
    -- the stream does not see the log records behind the line
    have hnone : notes.filterMap Call.left? = [] := by
      refine List.filterMap_eq_nil_iff.mpr fun call hcall => ?_
      obtain ⟨_, rfl⟩ := hnotes call hcall
      rfl
    rcases hprinted with ⟨reason, rfl⟩ | ⟨flushed, rfl⟩
    · have hprints := Prints.refused hline reason hrest
      rwa [← List.nil_append rest, ← hnone] at hprints
    · have hprints := Prints.shown hline flushed hrest
      rwa [← List.nil_append rest, ← hnone] at hprints

/-- No time is let pass for an event. -/
theorem ne_wait_of_path_follow {event : Event} {calls : List (Call (Console.sum Board))}
    (h : Program.Path (follow event) calls ()) (ms : UInt32) :
    ∀ call ∈ calls, call.op ≠ .inr (.wait ms) := by
  rcases path_follow h with ⟨_, rfl⟩ | ⟨_, printed, _, hprinted, rfl⟩
  · exact List.forall_mem_singleton.mpr nofun
  · obtain ⟨notes, hnotes, hprinted⟩ := path_print hprinted
    have hnote : ∀ call ∈ notes, call.op ≠ .inr (.wait ms) := by
      intro call hcall
      obtain ⟨_, rfl⟩ := hnotes call hcall
      exact nofun
    refine List.forall_mem_cons.mpr ⟨nofun, ?_⟩
    rcases hprinted with ⟨reason, rfl⟩ | ⟨flushed, rfl⟩
    · exact List.forall_mem_cons.mpr ⟨nofun, hnote⟩
    · exact List.forall_mem_cons.mpr ⟨nofun, List.forall_mem_cons.mpr ⟨nofun, hnote⟩⟩

/-- Whatever the stream answers, each event is followed in its turn. -/
theorem prints_followEach {events : List Event} {calls : List (Call (Console.sum Board))}
    (h : Program.Path (followEach events) calls ()) :
    Prints events (calls.filterMap Call.left?) := by
  induction events generalizing calls with
  | nil =>
    obtain ⟨rfl, _⟩ := Program.path_done_iff.mp h
    exact .nil
  | cons event events ih =>
    obtain ⟨_, first, rest, hfirst, hrest, rfl⟩ := Program.path_bind_iff.mp h
    rw [List.filterMap_append]
    exact prints_follow hfirst (ih hrest)

end Console

end DrinkMixer
