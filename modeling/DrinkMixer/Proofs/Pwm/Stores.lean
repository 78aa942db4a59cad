import DrinkMixer.Proofs.Program.Throughout
import DrinkMixer.Proofs.Pwm.ChipSteps

/-!
# What is stored in the device

A call stores bytes in the registers of the device if it is a write that did not fail (`stored`),
and nothing else changes a register. What holds of every store of an operation is shown along its
steps (`Storing`).

Main statements: `registers_answer`, the registers after a call are those before it with what it
stores, `storing_iff`, the stores of an operation call by call, and the stores of single steps
(`storing_write_bind_iff` and others).
-/

namespace DrinkMixer.Pwm

open Program

/-! ### Stores of a call -/

/-- Bytes that are written from a register on, each with the register it goes to. -/
def numbered : UInt8 → List UInt8 → List (UInt8 × UInt8)
  | _, [] => []
  | register, value :: more => (register, value) :: numbered (register + 1) more

/-- What a transaction stores, register by register. -/
def Device.stores : (request : I2c.Request) → request.Answer → List (UInt8 × UInt8)
  | .write _ (register :: values), .ok () => numbered register values
  | _, _ => []

/-- What a call stores. -/
def stored : Call ControllerBus → List (UInt8 × UInt8)
  | ⟨.inl request, answer⟩ => Device.stores request answer
  | _ => []

/-- Some values are stored one after another. -/
def Registers.storeAll (registers : Registers) (stores : List (UInt8 × UInt8)) : Registers :=
  stores.foldl (fun registers store => registers.store store.1 store.2) registers

theorem Registers.storeAll_append (registers : Registers) (first second : List (UInt8 × UInt8)) :
    registers.storeAll (first ++ second) = (registers.storeAll first).storeAll second :=
  List.foldl_append

/-- Registers that nothing is stored in keep their contents. -/
theorem Registers.storeAll_read (registers : Registers) {stores : List (UInt8 × UInt8)}
    {register : UInt8} (h : ∀ store ∈ stores, store.1 ≠ register) :
    (registers.storeAll stores).read register = registers.read register := by
  induction stores generalizing registers with
  | nil => rfl
  | cons store stores ih =>
    rw [List.forall_mem_cons] at h
    have hrest := ih (registers.store store.1 store.2) h.2
    rw [read_store, if_neg h.1] at hrest
    exact hrest

theorem Registers.storeFrom_eq_storeAll (registers : Registers) (register : UInt8)
    (values : List UInt8) :
    registers.storeFrom register values = registers.storeAll (numbered register values) := by
  induction values generalizing registers register with
  | nil => rfl
  | cons value more ih => exact ih _ _

namespace Device

/-- A transaction that fails stores nothing. -/
theorem stores_failed (fault : I2c.Fault) (request : I2c.Request) :
    stores request (failed fault request) = [] := by
  rcases request with ⟨address, _ | ⟨register, values⟩⟩ | _ | _ <;> rfl

/-- Of the transactions that do not fail, only writes change registers. -/
theorem perform_registers (registers : Registers) (request : I2c.Request) :
    (perform registers request).2 =
      registers.storeAll (stores request (perform registers request).1) := by
  rcases request with ⟨address, _ | ⟨register, values⟩⟩ | _ | _
  · rfl
  · exact registers.storeFrom_eq_storeAll register values
  · rfl
  · rfl

end Device

namespace Controller

variable {controller : Controller} {fault? : Nat → Option I2c.Fault} {s : Device.State}

/-- The registers after a call are those before it with what the call stores. -/
theorem registers_answer (op : ControllerBus.Op) :
    ((controller.onBus fault?).answer op s).2.registers =
      s.registers.storeAll (stored ⟨op, ((controller.onBus fault?).answer op s).1⟩) := by
  rcases op with request | request
  swap
  · rfl
  simp only [onBus, World.sum, Device.world]
  cases fault? s.transactions with
  | some fault => exact congrArg s.registers.storeAll (Device.stores_failed fault request).symm
  | none =>
    dsimp only
    split_ifs
    · exact Device.perform_registers s.registers request
    · exact congrArg s.registers.storeAll (Device.stores_failed _ request).symm

/-- A run leaves the registers with what its calls store. -/
theorem registers_eval {α : Type} (p : Program ControllerBus α) :
    (p.eval (controller.onBus fault?) s).2.registers =
      s.registers.storeAll ((p.calls (controller.onBus fault?) s).flatMap stored) := by
  induction p generalizing s with
  | done value => rfl
  | ask op next ih =>
    have hfirst : ((controller.onBus fault?).answer op s).2.registers =
        s.registers.storeAll (stored ⟨op, ((controller.onBus fault?).answer op s).1⟩) :=
      registers_answer op
    rw [eval, calls]
    generalize (controller.onBus fault?).answer op s = answered at hfirst ⊢
    obtain ⟨answer, middle⟩ := answered
    rw [List.flatMap_cons, Registers.storeAll_append, ← hfirst]
    exact ih answer

/-- A register of the device is written by a transaction of two bytes. -/
theorem answer_write (register value : UInt8) :
    (controller.onBus fault?).answer (.inl (.write controller.address [register, value])) s =
      match fault? s.transactions with
      | some fault => (.error fault, s.passed)
      | none => (.ok (), s.stored register value) := by
  show (match fault? s.transactions with
    | some fault => _
    | none => if controller.address = controller.address then _ else _ : _ × Device.State) = _
  rw [if_pos rfl]
  rfl

/-! ### Stores of an operation -/

section Storing

variable {α β : Type} {Q : Device.State → UInt8 × UInt8 → Prop}

/-- Everything that an operation stores meets a condition in the state in which it is stored. -/
def Storing (controller : Controller) (fault? : Nat → Option I2c.Fault)
    (Q : Device.State → UInt8 × UInt8 → Prop) (p : ControllerProcedure α) (s : Device.State) :
    Prop :=
  p.run.Throughout (controller.onBus fault?) (fun s call => ∀ store ∈ stored call, Q s store) s

theorem storing_iff {p : ControllerProcedure α} :
    controller.Storing fault? Q p s ↔
      ∀ before call after, p.run.calls (controller.onBus fault?) s = before ++ call :: after →
        ∀ store ∈ stored call,
          Q ((controller.onBus fault?).after (before.map Call.op) s) store :=
  throughout_iff

/-- What every store of an operation keeps holds at every moment of it. -/
theorem Storing.invariant {I : Registers → Prop} {p : ControllerProcedure α}
    (h : controller.Storing fault? (fun _ store => ∀ registers, I registers →
      I (registers.store store.1 store.2)) p s)
    (hs : I s.registers) {before after : List (Call ControllerBus)}
    (hcalls : p.run.calls (controller.onBus fault?) s = before ++ after) :
    I ((controller.onBus fault?).after (before.map Call.op) s).registers := by
  refine Throughout.invariant (I := fun s => I s.registers) h ?_ hs hcalls
  intro s op hI hstores
  rw [registers_answer]
  -- one store of the call after the other
  generalize stored ⟨op, ((controller.onBus fault?).answer op s).1⟩ = stores at hstores
  generalize s.registers = registers at hI
  induction stores generalizing registers with
  | nil => exact hI
  | cons store stores ih =>
    rw [List.forall_mem_cons] at hstores
    exact ih hstores.2 _ (hstores.1 registers hI)

theorem storing_bind_iff {p : ControllerProcedure α} {f : α → ControllerProcedure β} :
    controller.Storing fault? Q (p >>= f) s ↔
      controller.Storing fault? Q p s ∧
        ∀ value middle, Runs (controller.onBus fault?) p s (.ok value) middle →
          controller.Storing fault? Q (f value) middle :=
  throughout_run_bind_iff

/-- A write stores its value unless it fails. -/
theorem storing_write_iff {register value : UInt8} :
    controller.Storing fault? Q (controller.writeRegister register value) s ↔
      (fault? s.transactions = none → Q s (register, value)) := by
  unfold Storing writeRegister
  rw [ExceptT.run_mk, throughout_bind_iff, throughout_request_iff, eval_request]
  simp only [World.offered, Offers.inject, Offers.back, id]
  rw [answer_write]
  cases fault? s.transactions with
  | some fault =>
    -- nothing is stored, and then there is a log record
    refine iff_of_true ⟨List.forall_mem_nil _, List.forall_mem_nil _, trivial⟩ ?_
    simp
  | none => simp [stored, Device.stores, numbered, Throughout]

theorem storing_write_bind_iff {register value : UInt8} {f : Unit → ControllerProcedure α} :
    controller.Storing fault? Q (controller.writeRegister register value >>= f) s ↔
      (fault? s.transactions = none → Q s (register, value) ∧
        controller.Storing fault? Q (f ()) (s.stored register value)) := by
  rw [storing_bind_iff, storing_write_iff]
  simp only [runs_write_iff]
  cases fault? s.transactions <;> simp [Unique.forall_iff]

/-- A read stores nothing. -/
theorem storing_readRegister (register : UInt8) :
    controller.Storing fault? Q (controller.readRegister register) s := by
  unfold Storing readRegister
  rw [ExceptT.run_mk, throughout_bind_iff, throughout_request_iff, eval_request]
  refine ⟨List.forall_mem_nil _, ?_⟩
  generalize ((controller.onBus fault?).offered (S := I2c)).answer _ s = answer
  rcases answer with ⟨fault | bytes, s'⟩
  · exact ⟨List.forall_mem_nil _, trivial⟩
  · trivial

theorem storing_read_bind_iff {register : UInt8} {f : UInt8 → ControllerProcedure α} :
    controller.Storing fault? Q (controller.readRegister register >>= f) s ↔
      (fault? s.transactions = none →
        controller.Storing fault? Q (f (s.registers.read register)) s.passed) := by
  have heval := eval_readRegister controller fault? register s
  rw [storing_bind_iff, and_iff_right (storing_readRegister register)]
  unfold Runs
  rw [heval]
  cases fault? s.transactions <;> simp

theorem storing_wait_bind_iff {ms : UInt32} {f : Unit → ControllerProcedure α} :
    controller.Storing fault? Q (wait ms >>= f) s ↔ controller.Storing fault? Q (f ()) s :=
  and_iff_right (List.forall_mem_nil _)

theorem storing_note (text : String) : controller.Storing fault? Q (note text) s :=
  ⟨List.forall_mem_nil _, trivial⟩

theorem storing_throw (fault : PwmFault) :
    controller.Storing fault? Q (throw fault : ControllerProcedure α) s :=
  trivial

/-- The ticks of a pulse are stored one after the other. -/
theorem storing_writeTicks {base : UInt8} {on off : UInt16}
    (h : ∀ s, ∀ store ∈ ticks base on off, Q s store) :
    controller.Storing fault? Q (controller.writeTicks base on off) s := by
  simp only [ticks, List.forall_mem_cons] at h
  rw [writeTicks, storing_write_bind_iff]
  refine fun _ => ⟨(h _).1, storing_write_bind_iff.mpr fun _ => ⟨(h _).2.1, ?_⟩⟩
  refine storing_write_bind_iff.mpr fun _ => ⟨(h _).2.2.1, storing_write_iff.mpr fun _ => ?_⟩
  exact (h _).2.2.2.1

end Storing

end Controller

end DrinkMixer.Pwm
