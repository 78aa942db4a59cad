import DrinkMixer.Failure

/-!
# Actuators

What can be moved: six pour servos on the outputs `0` to `5` of the PWM controller, and the mixer
on an output named by the settings.

Main statement: `ofText_name`, the name of an actuator is read back as that actuator.
-/

namespace DrinkMixer

/-- One of the six pour servos, by the controller output it is wired to. -/
abbrev PourChannel := Fin 6

namespace PourChannel

/-- The pour channel on an output, if one is wired there. -/
def ofOutput? (output : UInt8) : Option PourChannel :=
  if h : output.toNat < 6 then some ⟨output.toNat, h⟩ else none

/-- The controller output of a pour channel. -/
def output (channel : PourChannel) : UInt8 :=
  UInt8.ofNat channel.val

/-- All pour channels, in ascending order. -/
def all : List PourChannel :=
  List.finRange 6

end PourChannel

/-- A thing that can be moved. -/
inductive Actuator
  /-- A pour servo, which opens and closes a given number of times. -/
  | pour (channel : PourChannel)
  | mixer
  deriving DecidableEq, Repr

namespace Actuator

/-- The actuator with the given name. -/
def ofText (text : String) : Except Failure Actuator :=
  match text with
  | "mix" => .ok mixer
  | "0" => .ok (pour 0)
  | "1" => .ok (pour 1)
  | "2" => .ok (pour 2)
  | "3" => .ok (pour 3)
  | "4" => .ok (pour 4)
  | "5" => .ok (pour 5)
  | _ => .error (.unknownActuator text)

/-- The name of an actuator: the digit of its output, or `mix`. -/
def name : Actuator → String
  | pour channel => toString channel.val
  | mixer => "mix"

/-- The name of an actuator is read back as that actuator. -/
theorem ofText_name (actuator : Actuator) : ofText actuator.name = .ok actuator := by
  cases actuator with
  | mixer => rfl
  | pour channel =>
    match channel with
    | 0 | 1 | 2 | 3 | 4 | 5 => rfl

end Actuator

end DrinkMixer
