import DrinkMixer.Proofs.Program.Runs
import DrinkMixer.Pwm.Controller
import DrinkMixer.Pwm.Device

/-!
# Steps of the PWM controller on its device

The controller with a device at its address on the bus, where any transaction may fail
(`Controller.onBus`). Each step of an operation is a transaction that stores a value, reads one or
fails and changes nothing, or it is a wait or a log record.

Main statements: `runs_write_bind_iff` and `runs_read_bind_iff` for a step and what follows it, and
`writeTicks_runs`, the four registers of a pulse are written up to the transaction that fails.
-/

namespace DrinkMixer.Pwm

open Program

namespace Device.State

/-- After one more transaction that changed no register. -/
def passed (s : State) : State :=
  { s with transactions := s.transactions + 1 }

/-- After a transaction that stored a value. -/
def stored (s : State) (register value : UInt8) : State :=
  ⟨s.registers.store register value, s.transactions + 1⟩

@[simp] theorem passed_registers (s : State) : s.passed.registers = s.registers := rfl

@[simp] theorem passed_transactions (s : State) :
    s.passed.transactions = s.transactions + 1 := rfl

@[simp] theorem stored_registers (s : State) (register value : UInt8) :
    (s.stored register value).registers = s.registers.store register value := rfl

@[simp] theorem stored_transactions (s : State) (register value : UInt8) :
    (s.stored register value).transactions = s.transactions + 1 := rfl

/-- After values were stored one after another. -/
def storedAll (s : State) (stores : List (UInt8 × UInt8)) : State :=
  stores.foldl (fun s store => s.stored store.1 store.2) s

@[simp] theorem storedAll_nil (s : State) : s.storedAll [] = s := rfl

@[simp] theorem storedAll_cons (s : State) (store : UInt8 × UInt8)
    (stores : List (UInt8 × UInt8)) :
    s.storedAll (store :: stores) = (s.stored store.1 store.2).storedAll stores := rfl

@[simp] theorem storedAll_transactions (s : State) (stores : List (UInt8 × UInt8)) :
    (s.storedAll stores).transactions = s.transactions + stores.length := by
  induction stores generalizing s with
  | nil => rfl
  | cons store stores ih =>
    rw [storedAll_cons, ih, stored_transactions, List.length_cons]
    omega

/-- Registers that nothing is stored in keep their contents. -/
theorem storedAll_read (s : State) {stores : List (UInt8 × UInt8)} {register : UInt8}
    (h : ∀ store ∈ stores, store.1 ≠ register) :
    (s.storedAll stores).registers.read register = s.registers.read register := by
  induction stores generalizing s with
  | nil => rfl
  | cons store stores ih =>
    rw [List.forall_mem_cons] at h
    rw [storedAll_cons, ih _ h.2, stored_registers, Registers.read_store, if_neg h.1]

end Device.State

/-- The four registers of a pulse with what is written into them, in the order in which they are
written. -/
def ticks (base : UInt8) (on off : UInt16) : List (UInt8 × UInt8) :=
  [(base, on.toUInt8), (base + 1, (on >>> 8).toUInt8), (base + 2, off.toUInt8),
    (base + 3, (off >>> 8).toUInt8)]

theorem ticks_ne {base register : UInt8} {on off : UInt16} (h : ∀ i < 4, base + i ≠ register) :
    ∀ store ∈ ticks base on off, store.1 ≠ register := by
  have hbase : base ≠ register := by simpa using h 0 (by decide)
  simpa [ticks, hbase] using ⟨h 1 (by decide), h 2 (by decide), h 3 (by decide)⟩

/-- Different channels have different registers. -/
theorem channelRegister_add_ne {channel other i j : UInt8} (hchannel : channel < channelCount)
    (hother : other < channelCount) (hne : channel ≠ other) (hi : i < 4) (hj : j < 4) :
    channelRegister channel + i ≠ channelRegister other + j := by
  have hchannel' : channel.toNat < 16 := hchannel
  have hother' : other.toNat < 16 := hother
  have hi' : i.toNat < 4 := hi
  have hj' : j.toNat < 4 := hj
  -- the last register is 69, so that nothing wraps around
  rw [ne_eq, ← UInt8.toNat_inj] at hne ⊢
  simp only [channelRegister, channelBase, UInt8.toNat_add, UInt8.toNat_mul]
  simp
  omega

/-- The registers of the channels lie together. -/
theorem channelRegister_add_ne_of_outside {channel register i : UInt8}
    (hchannel : channel < channelCount) (hi : i < 4)
    (hregister : register < channelBase ∨ 70 ≤ register) :
    channelRegister channel + i ≠ register := by
  have hchannel' : channel.toNat < 16 := hchannel
  have hi' : i.toNat < 4 := hi
  have hregister' : register.toNat < 6 ∨ 70 ≤ register.toNat := hregister
  rw [ne_eq, ← UInt8.toNat_inj]
  simp only [channelRegister, channelBase, UInt8.toNat_add, UInt8.toNat_mul]
  simp
  omega

namespace Controller

/-- The controller's surroundings: a device at its address whose transactions may fail, waits that
pass and a log. -/
def onBus (controller : Controller) (fault? : Nat → Option I2c.Fault) :
    World ControllerBus Device.State :=
  (Device.world ⟨controller.address, fault?⟩).sum .silent

variable {controller : Controller} {fault? : Nat → Option I2c.Fault} {s s' : Device.State}
  {α β : Type}

/-! ### Single steps -/

theorem eval_writeRegister (controller : Controller) (fault? : Nat → Option I2c.Fault)
    (register value : UInt8) (s : Device.State) :
    (controller.writeRegister register value).run.eval (controller.onBus fault?) s =
      match fault? s.transactions with
      | some _ => (.error .writeFailed, s.passed)
      | none => (.ok (), s.stored register value) := by
  unfold writeRegister
  rw [ExceptT.run_mk, eval_bind, eval_request]
  have hworld : ((controller.onBus fault?).offered (S := I2c)).answer
      (.write controller.address [register, value]) s =
        match fault? s.transactions with
        | some fault => (.error fault, s.passed)
        | none => (.ok (), s.stored register value) := by
    -- the device listens at the controller's address
    show (match fault? s.transactions with
      | some fault => _
      | none => if controller.address = controller.address then _ else _ : _ × Device.State) = _
    rw [if_pos rfl]
    rfl
  rw [hworld]
  cases fault? s.transactions <;> rfl

theorem eval_readRegister (controller : Controller) (fault? : Nat → Option I2c.Fault)
    (register : UInt8) (s : Device.State) :
    (controller.readRegister register).run.eval (controller.onBus fault?) s =
      match fault? s.transactions with
      | some _ => (.error .readFailed, s.passed)
      | none => (.ok (s.registers.read register), s.passed) := by
  unfold readRegister
  rw [ExceptT.run_mk, eval_bind, eval_request]
  have hworld : ((controller.onBus fault?).offered (S := I2c)).answer
      (.writeRead controller.address [register] 1) s =
        match fault? s.transactions with
        | some fault => (.error fault, s.passed)
        | none => (.ok (s.registers.readFrom register 1), s.passed) := by
    show (match fault? s.transactions with
      | some fault => _
      | none => if controller.address = controller.address then _ else _ : _ × Device.State) = _
    rw [if_pos rfl]
    rfl
  rw [hworld]
  have hread : (s.registers.readFrom register 1)[0] = s.registers.read register := by
    simp [Registers.readFrom]
  cases fault? s.transactions with
  | some fault => rfl
  | none =>
    show (Except.ok (s.registers.readFrom register 1)[0], s.passed) = _
    rw [hread]

section Steps

variable {controller : Controller} {fault? : Nat → Option I2c.Fault} {s s' : Device.State}
  {α : Type} {register value : UInt8}

theorem runs_write_iff {result : Except PwmFault Unit} :
    Runs (controller.onBus fault?) (controller.writeRegister register value) s result s' ↔
      (∃ fault, fault? s.transactions = some fault ∧ result = .error .writeFailed ∧
        s' = s.passed) ∨
      fault? s.transactions = none ∧ result = .ok () ∧ s' = s.stored register value := by
  unfold Runs
  rw [eval_writeRegister]
  cases fault? s.transactions with
  | some fault => simp [eq_comm]
  | none => simp [eq_comm]

/-- A register is written, and the operation goes on if that did not fail. -/
theorem runs_write_bind_iff {f : Unit → ControllerProcedure α} {result : Except PwmFault α} :
    Runs (controller.onBus fault?) (controller.writeRegister register value >>= f) s result s' ↔
      (∃ fault, fault? s.transactions = some fault ∧ result = .error .writeFailed ∧
        s' = s.passed) ∨
      fault? s.transactions = none ∧
        Runs (controller.onBus fault?) (f ()) (s.stored register value) result s' := by
  have heval := eval_writeRegister controller fault? register value s
  cases hfault : fault? s.transactions with
  | some fault =>
    rw [hfault] at heval
    rw [runs_bind_of_error heval]
    simp
  | none =>
    rw [hfault] at heval
    rw [runs_bind_of_ok heval]
    simp

/-- A register is read, and the operation goes on with its content if that did not fail. -/
theorem runs_read_bind_iff {f : UInt8 → ControllerProcedure α} {result : Except PwmFault α} :
    Runs (controller.onBus fault?) (controller.readRegister register >>= f) s result s' ↔
      (∃ fault, fault? s.transactions = some fault ∧ result = .error .readFailed ∧
        s' = s.passed) ∨
      fault? s.transactions = none ∧
        Runs (controller.onBus fault?) (f (s.registers.read register)) s.passed result s' := by
  have heval := eval_readRegister controller fault? register s
  cases hfault : fault? s.transactions with
  | some fault =>
    rw [hfault] at heval
    rw [runs_bind_of_error heval]
    simp
  | none =>
    rw [hfault] at heval
    rw [runs_bind_of_ok heval]
    simp

theorem runs_wait_bind_iff {ms : UInt32} {f : Unit → ControllerProcedure α}
    {result : Except PwmFault α} :
    Runs (controller.onBus fault?) (wait ms >>= f) s result s' ↔
      Runs (controller.onBus fault?) (f ()) s result s' :=
  runs_always_bind_iff

theorem runs_note_iff {text : String} {result : Except PwmFault Unit} :
    Runs (controller.onBus fault?) (note text) s result s' ↔ result = .ok () ∧ s' = s := by
  show (Except.ok (), s) = (result, s') ↔ _
  rw [Prod.mk.injEq, eq_comm, @eq_comm _ s]

/-- The registers of a pulse are written in order, up to the transaction that fails. -/
theorem writeTicks_runs {base : UInt8} {on off : UInt16} {result : Except PwmFault Unit}
    (h : Runs (controller.onBus fault?) (controller.writeTicks base on off) s result s') :
    result = .ok () ∧ s' = s.storedAll (ticks base on off) ∨
    ∃ k < 4, result = .error .writeFailed ∧
      s' = (s.storedAll ((ticks base on off).take k)).passed := by
  rw [writeTicks, runs_write_bind_iff, runs_write_bind_iff, runs_write_bind_iff,
    runs_write_iff] at h
  rcases h with ⟨_, _, rfl, rfl⟩ | ⟨_, ⟨_, _, rfl, rfl⟩ | ⟨_, ⟨_, _, rfl, rfl⟩ |
    ⟨_, ⟨_, _, rfl, rfl⟩ | ⟨_, rfl, rfl⟩⟩⟩⟩
  · exact Or.inr ⟨0, by omega, rfl, rfl⟩
  · exact Or.inr ⟨1, by omega, rfl, rfl⟩
  · exact Or.inr ⟨2, by omega, rfl, rfl⟩
  · exact Or.inr ⟨3, by omega, rfl, rfl⟩
  · exact Or.inl ⟨rfl, rfl⟩

/-- Writing a pulse touches no other registers. -/
theorem writeTicks_read {base register : UInt8} {on off : UInt16}
    {result : Except PwmFault Unit}
    (h : Runs (controller.onBus fault?) (controller.writeTicks base on off) s result s')
    (hregister : ∀ store ∈ ticks base on off, store.1 ≠ register) :
    s'.registers.read register = s.registers.read register := by
  rcases writeTicks_runs h with ⟨_, rfl⟩ | ⟨k, _, _, rfl⟩
  · exact s.storedAll_read hregister
  · rw [Device.State.passed_registers]
    refine s.storedAll_read ?_
    intro store hstore
    exact hregister store (List.mem_of_mem_take hstore)

end Steps

end Controller

end DrinkMixer.Pwm
