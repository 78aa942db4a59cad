import DrinkMixer.Actuator
import DrinkMixer.Text.Blank

/-!
# Cycle requests

The arguments of a cycle run: an actuator and how often it is to move. A count is the decimal text
of a 32-bit number, with blanks around it, one plus sign and leading zeros allowed.
-/

namespace DrinkMixer

namespace RepeatCount

/-- An ASCII digit. -/
def isDigit (c : Char) : Bool :=
  0x30 ≤ c.toNat && c.toNat ≤ 0x39

/-- The number that a list of decimal digits writes. -/
def value (digits : List Char) : Nat :=
  digits.foldl (fun n c => 10 * n + (c.toNat - 0x30)) 0

/-- A text without one leading plus sign. -/
def unsigned : List Char → List Char
  | '+' :: digits => digits
  | digits => digits

/-- The number that a trimmed text writes, if it writes one of 32 bits. -/
def ofTrimmed? (cs : List Char) : Option UInt32 :=
  let digits := unsigned cs
  if digits.isEmpty || !digits.all isDigit || Nat.pow 2 32 ≤ value digits then none
  else some (UInt32.ofNat (value digits))

/-- The repeat count that a text writes; the failure quotes the whole text. -/
def ofText (text : String) : Except Failure UInt32 :=
  match ofTrimmed? (Text.trimmed text.toList) with
  | some count => .ok count
  | none => .error (.invalidCount text)

end RepeatCount

/-- What a cycle run is asked to do. -/
structure CycleRequest where
  actuator : Actuator
  /-- How often; the mixer always moves once. -/
  count : UInt32
  deriving DecidableEq, Repr

namespace CycleRequest

/-- The request that a list of arguments makes: an actuator, and a count unless it is the mixer.
What follows them is ignored. -/
def ofArguments : List String → Except Failure CycleRequest
  | [] => .error (.missingArgument "channel")
  | first :: rest => do
    match ← Actuator.ofText first with
    | .mixer => pure ⟨.mixer, 1⟩
    | .pour channel =>
      match rest with
      | [] => throw (.missingArgument "count")
      | count :: _ => pure ⟨.pour channel, ← RepeatCount.ofText count⟩

end CycleRequest

end DrinkMixer
