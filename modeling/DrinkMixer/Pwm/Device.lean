import DrinkMixer.I2c.Requests
import DrinkMixer.Program.World

/-!
# A device with registers

What a chip with 256 one-byte registers does with the transactions on its bus: the first byte of a
write is the register, the others are stored from there on. A transaction for another address is
not acknowledged, and any transaction may be made to fail, in which case nothing happens.

Main statement: `read_store`, a register holds what was stored in it last.
-/

namespace DrinkMixer.Pwm

/-- The contents of 256 registers. -/
abbrev Registers := Vector UInt8 256

namespace Registers

/-- All registers zero. -/
def zero : Registers :=
  Vector.replicate 256 0

/-- The content of a register. -/
def read (registers : Registers) (register : UInt8) : UInt8 :=
  have : register.toNat < 256 := register.toNat_lt
  registers[register.toNat]

/-- Stores a value in a register. -/
def store (registers : Registers) (register value : UInt8) : Registers :=
  registers.set register.toNat value register.toNat_lt

/-- Stores bytes from a register on; the last register is followed by the first. -/
def storeFrom (registers : Registers) : UInt8 → List UInt8 → Registers
  | _, [] => registers
  | register, value :: more => (registers.store register value).storeFrom (register + 1) more

/-- The contents of so many registers from one on. -/
def readFrom (registers : Registers) (register : UInt8) (length : Nat) : Vector UInt8 length :=
  Vector.ofFn fun i => registers.read (register + UInt8.ofNat i.val)

/-- The registers that are not zero, in ascending order, with their contents. -/
def nonzero (registers : Registers) : List (UInt8 × UInt8) :=
  (List.range 256).filterMap fun n =>
    let register := UInt8.ofNat n
    let value := registers.read register
    if value = 0 then none else some (register, value)

/-- A register holds what was stored in it last. -/
theorem read_store (registers : Registers) (register other value : UInt8) :
    (registers.store register value).read other =
      if register = other then value else registers.read other := by
  simp only [read, store, Vector.getElem_set, UInt8.toNat_inj]

end Registers

/-- A device at a bus address, and the fault that each transaction is made to have, if any;
transactions are numbered from zero on. -/
structure Device where
  address : UInt8
  /-- The fault that a transaction is made to have. -/
  fault? : Nat → Option I2c.Fault

/-- What a device keeps: its registers, and how many transactions there were. -/
structure Device.State where
  registers : Registers := .zero
  transactions : Nat := 0

namespace Device

/-- What a transaction that does not fail does to the registers and gives. -/
def perform (registers : Registers) : (request : I2c.Request) → request.Answer × Registers
  | .write _ [] => (.ok (), registers)
  | .write _ (register :: values) => (.ok (), registers.storeFrom register values)
  | .writeRead _ bytes length =>
    (.ok (registers.readFrom (bytes.head?.getD 0) length), registers)
  | .read _ length => (.ok (registers.readFrom 0 length), registers)

/-- The answer of a transaction that fails. -/
def failed (fault : I2c.Fault) : (request : I2c.Request) → request.Answer
  | .write _ _ => .error fault
  | .writeRead _ _ _ => .error fault
  | .read _ _ => .error fault

/-- The address that a transaction is for. -/
def target : I2c.Request → UInt8
  | .write address _ => address
  | .writeRead address _ _ => address
  | .read address _ => address

/-- The device on a bus of its own. -/
def world (device : Device) : World I2c Device.State where
  answer request state :=
    let state' := { state with transactions := state.transactions + 1 }
    match device.fault? state.transactions with
    | some fault => (failed fault request, state')
    | none =>
      if target request = device.address then
        let (answer, registers) := perform state.registers request
        (answer, { state' with registers := registers })
      else (failed (.noAcknowledge .address) request, state')

end Device

end DrinkMixer.Pwm
