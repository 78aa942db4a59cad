import DrinkMixer.Proofs.Cycle.Plan
import DrinkMixer.Proofs.Pwm.Servos

/-!
# Stopping at the first transaction that fails

The controller chip and the servo procedures above it stop at the first transaction that fails: it
is the last thing that is seen from outside, and what is reported is that a read or a write failed
(`FailStop`). Where no transaction fails, the chip refuses a command only for a value that it
does not have (`refusal?`).

Main statements: `stops_setUp` and `stops_perform` for the chip, and `Pursued.failStop`, a procedure
that follows a plan stops at the first transaction that fails, whatever is answered.
-/

namespace DrinkMixer

namespace Pwm.Controller

/-! ### What is seen from outside -/

/-- Whether a request only puts a record into the log. -/
def isRecord : ServoBus.Op → Bool
  | .inr (.inl (.note _)) => true
  | _ => false

/-- What is seen from outside: transactions, waits and events. -/
def visible (calls : List (Call ServoBus)) : List (Call ServoBus) :=
  calls.filter fun call => !isRecord call.op

/-- The fault that is reported for a transaction that failed. -/
def reported? : Call ServoBus → Option PwmFault
  | ⟨.inl (.write _ _), .error _⟩ => some .writeFailed
  | ⟨.inl (.writeRead _ _ _), .error _⟩ => some .readFailed
  | ⟨.inl (.read _ _), .error _⟩ => some .readFailed
  | _ => none

/-- The ways of a procedure that stops at the first transaction that fails, and that fails for other
reasons in given ways only. -/
inductive FailStop {ε α : Type} (report : PwmFault → ε) (Refused : ε → Prop)
    (calls : List (Call ServoBus)) : Except ε α → Prop
  /-- No transaction failed, and something was returned. -/
  | done {value : α} (unfailing : ∀ call ∈ calls, reported? call = none) :
    FailStop report Refused calls (.ok value)
  /-- No transaction failed, and the procedure was refused. -/
  | refused {failure : ε} (reason : Refused failure)
      (unfailing : ∀ call ∈ calls, reported? call = none) :
    FailStop report Refused calls (.error failure)
  /-- A transaction failed, and nothing is seen after it. -/
  | failed {fault : PwmFault} (earlier : List (Call ServoBus)) (last : Call ServoBus)
      (ends : visible calls = earlier ++ [last])
      (unfailing : ∀ call ∈ earlier, reported? call = none) (fails : reported? last = some fault) :
    FailStop report Refused calls (.error (report fault))

section FailStop

variable {ε δ α β : Type} {report : PwmFault → ε} {Refused : ε → Prop}
  {first second calls : List (Call ServoBus)} {result : Except ε α}

theorem visible_append (first second : List (Call ServoBus)) :
    visible (first ++ second) = visible first ++ visible second :=
  List.filter_append first second

/-- What is not seen is no transaction that failed. -/
theorem reported?_of_visible_eq_nil (h : visible calls = []) :
    ∀ call ∈ calls, reported? call = none := by
  intro call hcall
  have hrecord := List.filter_eq_nil_iff.mp h call hcall
  rcases call with ⟨_ | (_ | _) | _, answer⟩
  · exact absurd rfl hrecord
  · rfl
  · rfl
  · rfl

/-- Where something was returned, no transaction failed. -/
theorem FailStop.unfailing {value : α} (h : FailStop report Refused calls (.ok value)) :
    ∀ call ∈ calls, reported? call = none := by
  cases h with
  | done unfailing => exact unfailing

/-- Transactions before that did not fail do not matter. -/
theorem FailStop.append_left (hfirst : ∀ call ∈ first, reported? call = none)
    (h : FailStop report Refused second result) :
    FailStop report Refused (first ++ second) result := by
  cases h with
  | done unfailing => exact .done (List.forall_mem_append.mpr ⟨hfirst, unfailing⟩)
  | refused reason unfailing =>
    exact .refused reason (List.forall_mem_append.mpr ⟨hfirst, unfailing⟩)
  | failed earlier last ends unfailing fails =>
    refine .failed (visible first ++ earlier) last ?_ ?_ fails
    · rw [visible_append, ends, List.append_assoc]
    · rw [List.forall_mem_append]
      exact ⟨fun call hcall => hfirst call (List.mem_of_mem_filter hcall), unfailing⟩

/-- What is not seen does not matter. -/
theorem FailStop.append_right (h : FailStop report Refused first result)
    (hsecond : visible second = []) : FailStop report Refused (first ++ second) result := by
  have hnone := reported?_of_visible_eq_nil hsecond
  cases h with
  | done unfailing => exact .done (List.forall_mem_append.mpr ⟨unfailing, hnone⟩)
  | refused reason unfailing =>
    exact .refused reason (List.forall_mem_append.mpr ⟨unfailing, hnone⟩)
  | failed earlier last ends unfailing fails =>
    refine .failed earlier last ?_ unfailing fails
    rw [visible_append, hsecond, List.append_nil, ends]

theorem FailStop.mono {Refused' : ε → Prop} (h : FailStop report Refused calls result)
    (hrefused : ∀ failure, Refused failure → Refused' failure) :
    FailStop report Refused' calls result := by
  cases h with
  | done unfailing => exact .done unfailing
  | refused reason unfailing => exact .refused (hrefused _ reason) unfailing
  | failed earlier last ends unfailing fails => exact .failed earlier last ends unfailing fails

/-- A failure is passed on, maybe in other words. -/
theorem FailStop.of_error {wrap : ε → δ} {Refused' : δ → Prop} {failure : ε}
    (h : FailStop report Refused calls (.error failure : Except ε α))
    (hrefused : ∀ failure, Refused failure → Refused' (wrap failure)) :
    FailStop (wrap ∘ report) Refused' calls (.error (wrap failure) : Except δ β) := by
  cases h with
  | refused reason unfailing => exact .refused (hrefused _ reason) unfailing
  | failed earlier last ends unfailing fails => exact .failed earlier last ends unfailing fails

theorem FailStop.mapError {wrap : ε → δ} {Refused' : δ → Prop}
    (h : FailStop report Refused calls result)
    (hrefused : ∀ failure, Refused failure → Refused' (wrap failure)) :
    FailStop (wrap ∘ report) Refused' calls (result.mapError wrap) := by
  cases result with
  | ok value => exact .done h.unfailing
  | error failure => exact h.of_error hrefused

end FailStop

/-! ### Operations of the chip -/

/-- Whatever is answered, an operation stops at the first transaction that fails. -/
structure Stops {α : Type} (Refused : PwmFault → Prop) (p : ControllerProcedure α) : Prop where
  /-- Every path is one of the ways. -/
  failStop : ∀ {calls result}, Program.Path (p.run.lift : Program ServoBus (Except PwmFault α))
    calls result → FailStop id Refused calls result

section Operations

variable {α β : Type} {Refused : PwmFault → Prop} {p : ControllerProcedure α}
  {f : α → ControllerProcedure β} {controller : Controller}

/-- Operations one after the other stop at the first transaction of either that fails. -/
theorem Stops.bind (hp : Stops Refused p) (hf : ∀ value, Stops Refused (f value)) :
    Stops Refused (p >>= f) := by
  refine ⟨fun {calls result} h => ?_⟩
  rw [ExceptT.run_bind, Program.lift_bind, Program.path_bind_iff] at h
  obtain ⟨failure | value, first, second, hfirst, hsecond, rfl⟩ := h
  · -- the first operation failed, and nothing follows it
    have hdone : Program.Path (.done (.error failure)) second result := hsecond
    obtain ⟨rfl, rfl⟩ := Program.path_done_iff.mp hdone
    rw [List.append_nil]
    exact (hp.failStop hfirst).of_error fun _ reason => reason
  · exact ((hf value).failStop hsecond).append_left (hp.failStop hfirst).unfailing

theorem stops_throw {fault : PwmFault} (h : Refused fault) :
    Stops Refused (throw fault : ControllerProcedure α) := by
  refine ⟨fun {calls result} hpath => ?_⟩
  have hdone : Program.Path (.done (.error fault)) calls result := hpath
  obtain ⟨rfl, rfl⟩ := Program.path_done_iff.mp hdone
  exact .refused h (List.forall_mem_nil _)

/-- Waits and records are no transactions. -/
theorem stops_always (request : Board.Request) :
    Stops Refused (Program.always (Program.request (S := Board) request) :
      ControllerProcedure Unit) := by
  refine ⟨fun {calls result} h => ?_⟩
  have hask : Program.Path (.ask (S := ServoBus) (.inr (.inl request)) fun _ => .done (.ok ()))
      calls result := h
  obtain ⟨answer, rest, hrest, rfl⟩ := Program.path_ask_iff.mp hask
  obtain ⟨rfl, rfl⟩ := Program.path_done_iff.mp hrest
  exact .done (List.forall_mem_singleton.mpr rfl)

theorem stops_wait (ms : UInt32) : Stops Refused (wait ms) :=
  stops_always (.wait ms)

theorem stops_note (text : String) : Stops Refused (note text) :=
  stops_always (.note ⟨.debug, text⟩)

/-- A transaction that failed, and the record of it in the log. -/
theorem failStop_single {fault : PwmFault} {op : I2c.Op} {answer : I2c.Answer op}
    {record : LogRecord} (h : reported? ⟨.inl op, answer⟩ = some fault) :
    FailStop (α := α) id Refused [⟨.inl op, answer⟩, ⟨.inr (.inl (.note record)), ()⟩]
      (.error fault) :=
  .failed [] ⟨.inl op, answer⟩ rfl (List.forall_mem_nil _) h

theorem stops_writeRegister (register value : UInt8) :
    Stops Refused (controller.writeRegister register value) := by
  refine ⟨fun {calls result} h => ?_⟩
  obtain ⟨answer, rest, hrest, rfl⟩ := Program.path_ask_iff.mp h
  rcases answer with fault | ⟨⟩
  · obtain ⟨⟨⟩, _, hdone, rfl⟩ := Program.path_ask_iff.mp hrest
    obtain ⟨rfl, rfl⟩ := Program.path_done_iff.mp hdone
    exact failStop_single rfl
  · obtain ⟨rfl, rfl⟩ := Program.path_done_iff.mp hrest
    exact .done (List.forall_mem_singleton.mpr rfl)

theorem stops_readRegister (register : UInt8) :
    Stops Refused (controller.readRegister register) := by
  refine ⟨fun {calls result} h => ?_⟩
  obtain ⟨answer, rest, hrest, rfl⟩ := Program.path_ask_iff.mp h
  rcases answer with fault | bytes
  · obtain ⟨⟨⟩, _, hdone, rfl⟩ := Program.path_ask_iff.mp hrest
    obtain ⟨rfl, rfl⟩ := Program.path_done_iff.mp hdone
    exact failStop_single rfl
  · obtain ⟨rfl, rfl⟩ := Program.path_done_iff.mp hrest
    exact .done (List.forall_mem_singleton.mpr rfl)

theorem stops_writeTicks (base : UInt8) (on off : UInt16) :
    Stops Refused (controller.writeTicks base on off) := by
  refine (stops_writeRegister _ _).bind fun _ => (stops_writeRegister _ _).bind fun _ => ?_
  exact (stops_writeRegister _ _).bind fun _ => stops_writeRegister _ _

/-- Setting the chip up is never refused. -/
theorem stops_setUp : Stops Refused controller.setUp := by
  refine (stops_writeTicks _ _ _).bind fun _ => (stops_writeRegister _ _).bind fun _ => ?_
  refine (stops_writeRegister _ _).bind fun _ => (stops_wait _).bind fun _ => ?_
  refine (stops_readRegister _).bind fun _ => (stops_writeRegister _ _).bind fun _ => ?_
  exact (stops_wait _).bind fun _ => stops_note _

end Operations

/-! ### Commands -/

/-- The fault with which the chip refuses a command, if it does: it has no such frequency or no such
output. -/
def refusal? : Pwm.Request → Option PwmFault
  | .setFrequency hz =>
    match prescale? hz with
    | none => some (.frequencyOutOfRange hz)
    | some _ => none
  | .setPulse channel _ _ => if channel < channelCount then none else some (.invalidChannel channel)

theorem stops_setFrequency (controller : Controller) (hz : UInt16) :
    Stops (fun fault => refusal? (.setFrequency hz) = some fault) (controller.setFrequency hz) := by
  unfold setFrequency
  cases hprescale : prescale? hz with
  | none =>
    refine stops_throw ?_
    rw [refusal?, hprescale]
  | some prescale =>
    refine (stops_readRegister _).bind fun _ => (stops_writeRegister _ _).bind fun _ => ?_
    refine (stops_writeRegister _ _).bind fun _ => (stops_writeRegister _ _).bind fun _ => ?_
    exact (stops_wait _).bind fun _ => (stops_writeRegister _ _).bind fun _ => stops_note _

theorem stops_setPulse (controller : Controller) (channel : UInt8) (on off : UInt16) :
    Stops (fun fault => refusal? (.setPulse channel on off) = some fault)
      (controller.setPulse channel on off) := by
  unfold setPulse
  split_ifs with hchannel
  · exact stops_writeTicks _ _ _
  · refine stops_throw ?_
    rw [refusal?, if_neg hchannel]

/-- A command is carried out up to the first transaction that fails, or refused. -/
theorem stops_perform (controller : Controller) (request : Pwm.Request) :
    Stops (fun fault => refusal? request = some fault) (controller.perform request) := by
  cases request with
  | setFrequency hz => exact stops_setFrequency controller hz
  | setPulse channel on off => exact stops_setPulse controller channel on off

end Pwm.Controller

/-! ### Procedures -/

open Pwm Controller Servos

section Procedures

variable {controller : Controller} {memory final : Unit}
  {above : List (Call Servos)} {below : List (Call ServoBus)}

/-- A command is carried out by the chip. -/
theorem failStop_of_command {request : Pwm.Request} {answer : Except PwmFault Unit}
    (h : Program.Path ((controller.onServos (.inl request)).run memory) below (answer, final)) :
    FailStop id (fun fault => refusal? request = some fault) below answer :=
  (stops_perform controller request).failStop (Program.path_lift_stateless_iff.mp h).1

/-- Waits, events and records are handed on. -/
theorem reported?_of_handedOn {op : (Board.sum Progress).Op}
    {answer : (Board.sum Progress).Answer op}
    (h : Program.Path ((controller.onServos (.inr op)).run memory) below (answer, final)) :
    ∀ call ∈ below, reported? call = none := by
  obtain ⟨_, rfl, _⟩ := Program.path_direct_iff.mp h
  exact List.forall_mem_singleton.mpr rfl

/-- Where no command fails, no transaction does. -/
theorem reported?_of_carries (h : controller.onServos.Carries memory above below final)
    (hnone : ∀ call ∈ above, fault? call = none) : ∀ call ∈ below, reported? call = none := by
  induction h with
  | nil => exact List.forall_mem_nil _
  | @cons _ _ _ op answer _ _ _ head _ ih =>
    rw [List.forall_mem_cons] at hnone
    rw [List.forall_mem_append]
    refine ⟨?_, ih hnone.2⟩
    cases op with
    | inl request =>
      rcases answer with fault | ⟨⟩
      · exact absurd hnone.1 (Option.some_ne_none fault)
      · exact (failStop_of_command head).unfailing
    | inr op => exact reported?_of_handedOn head

/-- Records are not seen below either. -/
theorem visible_of_carries (h : controller.onServos.Carries memory above below final)
    (hrecords : ∀ call ∈ above, isNote call.op = true) : visible below = [] := by
  induction h with
  | nil => rfl
  | @cons _ _ _ op answer _ _ _ head _ ih =>
    rw [List.forall_mem_cons] at hrecords
    rw [visible_append, ih hrecords.2, List.append_nil]
    rcases op with request | (ms | record) | event
    · cases hrecords.1
    · cases hrecords.1
    · obtain ⟨_, rfl, _⟩ := Program.path_direct_iff.mp head
      rfl
    · cases hrecords.1

theorem fault?_of_isNote {call : Call Servos} (h : isNote call.op = true) :
    fault? call = none := by
  rcases call with ⟨request | op, answer⟩
  · cases h
  · rfl

/-- What has no effect is no command that failed. -/
theorem fault?_of_effects (h : ∀ call ∈ effects above, fault? call = none) :
    ∀ call ∈ above, fault? call = none := by
  intro call hcall
  cases hnote : isNote call.op with
  | false => exact h call (List.mem_filter.mpr ⟨hcall, by rw [hnote]; rfl⟩)
  | true => exact fault?_of_isNote hnote

/-- The command that failed stands among calls that have an effect and did not fail, and others that
have none. -/
theorem eq_append_of_effects {done : List (Call Servos)} {last : Call Servos}
    (h : effects above = done ++ [last]) (hdone : ∀ call ∈ done, fault? call = none) :
    ∃ before after, above = before ++ last :: after ∧
      (∀ call ∈ before, fault? call = none) ∧ ∀ call ∈ after, isNote call.op = true := by
  obtain ⟨before, rest, rfl, rfl, hrest⟩ := List.filter_eq_append_iff.mp h
  obtain ⟨records, after, rfl, hrecords, _, hafter⟩ := List.filter_eq_cons_iff.mp hrest
  refine ⟨before ++ records, after, (List.append_assoc _ _ _).symm, ?_, ?_⟩
  · rw [List.forall_mem_append]
    refine ⟨fault?_of_effects hdone, ?_⟩
    intro call hcall
    exact fault?_of_isNote (by simpa using hrecords call hcall)
  · intro call hcall
    simpa using List.filter_eq_nil_iff.mp hafter call hcall

/-- Why a procedure with a plan fails where no transaction does: the chip refuses a command of the
plan. -/
def RefusedIn (plan : List Servos.Op) (failure : Failure) : Prop :=
  ∃ request fault, commanded request ∈ plan ∧ refusal? request = some fault ∧ failure = .pwm fault

/-- A procedure that follows a plan stops at the first transaction that fails. -/
theorem Pursued.failStop {α : Type} {plan : List Servos.Op} {value : α}
    {result : Except Failure α} (h : Pursued plan value above result)
    (hcarries : controller.onServos.Carries memory above below final) :
    FailStop .pwm (RefusedIn plan) below result := by
  have hplan : ∀ call ∈ effects above, call.op ∈ plan := fun _ => h.op_mem
  cases h with
  | whole _ unfailing => exact .done (reported?_of_carries hcarries (fault?_of_effects unfailing))
  | @cut fault done last _ ends unfailing fails =>
    have hlast : last.op ∈ plan := by
      refine hplan last ?_
      rw [ends]
      exact List.mem_append_right done List.mem_cons_self
    -- the bus saw no failure before the last command, and behind it are log records only
    obtain ⟨before, after, rfl, hbefore, hafter⟩ := eq_append_of_effects ends unfailing
    obtain ⟨_, first, rest, hfirst, hrest, rfl⟩ := Realization.carries_append_iff.mp hcarries
    obtain ⟨_, own, others, hown, hothers, rfl⟩ := Realization.carries_cons_iff.mp hrest
    rcases last with ⟨request | op, answer⟩
    swap
    · cases fails
    rcases answer with cause | value
    swap
    · cases fails
    obtain rfl : cause = fault := Option.some.inj fails
    have hcommand : FailStop .pwm (RefusedIn plan) own (.error (.pwm cause) : Except Failure α) :=
      (failStop_of_command hown).of_error fun fault reason => ⟨request, fault, hlast, reason, rfl⟩
    exact (hcommand.append_right (visible_of_carries hothers hafter)).append_left
      (reported?_of_carries hfirst hbefore)

end Procedures

end DrinkMixer
