import DrinkMixer.Json.Reader

/-!
# Numbers in a document

A `Numeral` is a number as it is written; its `number` is what it means. Whole numbers between
`-2^63` and `2^64 - 1` are integers, but for `-0`; all others are doubles, made of the digits that
fit into 64 bits and one multiplication or division by a power of ten.

Main statement: `fill_eq`, the digits taken up and those left over are the digits given.
-/

namespace DrinkMixer.Json

/-- A number as it is written. -/
structure Numeral where
  negative : Bool
  whole : List UInt8
  /-- The digits behind the point; there is no point if there are none. -/
  fraction : List UInt8
  /-- The exponent, if there is one: whether it is negative, and its digits. -/
  exponent : Option (Bool × List UInt8)

/-- What a numeral means. -/
inductive Number
  | integer (value : Int)
  | float (value : Float)

/-! ### Reading -/

namespace Reader

/-- Takes the next byte if it is the given one. -/
def accept (b : UInt8) : Reader Bool := do
  if (← peek?) = some b then
    advance
    pure true
  else pure false

/-- The digits before the point: a zero stands alone. -/
def wholePart (atEnd : Cause) : Reader (List UInt8) := do
  let first ← byte atEnd
  if isDigit first then
    let more ← peek?
    if first = 0x30 && more.any isDigit then refuseNext .invalidNumber
    else pure (first :: (← digits))
  else refuse .invalidNumber

/-- The point and the digits behind it, if there is a point. -/
def fractionPart (atEnd : Cause) : Reader (List UInt8) := do
  if ← accept 0x2E then
    match ← digits with
    | [] => if (← peek?).isNone then refuseNext atEnd else refuseNext .invalidNumber
    | places => pure places
  else pure []

/-- The letter that begins an exponent, in either case. -/
def acceptExponent : Reader Bool := do
  if ← accept 0x65 then pure true else accept 0x45

/-- The sign of an exponent: whether it is a minus. -/
def exponentSign : Reader Bool := do
  if ← accept 0x2B then pure false else accept minus

/-- The exponent, if there is one. -/
def exponentPart (atEnd : Cause) : Reader (Option (Bool × List UInt8)) := do
  if ← acceptExponent then
    let negative ← exponentSign
    let first ← byte atEnd
    if isDigit first then pure (some (negative, first :: (← digits)))
    else refuse .invalidNumber
  else pure none

/-- Reads a number that begins at the next byte; where a digit is missing at the end of the
document, the refusal has the given cause. -/
def numeral (atEnd : Cause) : Reader Numeral := do
  let negative ← accept minus
  let whole ← wholePart atEnd
  let fraction ← fractionPart atEnd
  let exponent ← exponentPart atEnd
  pure ⟨negative, whole, fraction, exponent⟩

end Reader

/-! ### Meaning -/

/-- The value of a digit. -/
def digitValue (b : UInt8) : Nat :=
  b.toNat - 0x30

/-- Appends digits to a number as long as it stays below a limit; gives the number, and the digits
from the first that did not fit. -/
def fill (limit : Nat) : Nat → List UInt8 → Nat × List UInt8
  | value, [] => (value, [])
  | value, b :: more =>
    if 10 * value + digitValue b < limit then fill limit (10 * value + digitValue b) more
    else (value, b :: more)

/-- The power of ten as a double. -/
def powerOfTen (n : Nat) : Float :=
  Float.ofScientific 1 false n

/-- The double divided by ten to the power `n`, at most 308 places at a time. -/
def scaleDown (x : Float) (n : Nat) : Float :=
  if n ≤ 308 then x / powerOfTen n
  else if x == 0 then x
  else scaleDown (x / powerOfTen 308) (n - 308)
termination_by n

/-- A number of at most 64 bits times a power of ten, unless it is too large for a double. -/
def scaled? (digits : Nat) (exponent : Int) : Option Float :=
  let x := (UInt64.ofNat digits).toFloat
  if exponent < 0 then some (scaleDown x exponent.natAbs)
  else if exponent ≤ 308 then
    let y := x * powerOfTen exponent.toNat
    if y.isInf then none else some y
  else if x == 0 then some x
  else none

namespace Numeral

/-- The double that a numeral writes. If it is too large, what counts as not yet read are the
digits of the exponent from which on that was clear. -/
def float (numeral : Numeral) : Except (List UInt8) Float := do
  let (whole, wholeLeft) := fill (Nat.pow 2 64) 0 numeral.whole
  let (digits, fractionLeft) := fill (Nat.pow 2 64) whole numeral.fraction
  let places : Int := wholeLeft.length - (numeral.fraction.length - fractionLeft.length : Nat)
  let signed (x : Float) : Float := if numeral.negative then -x else x
  let result (exponent : Int) : Except (List UInt8) Float :=
    match scaled? digits exponent with
    | some x => .ok (signed x)
    | none => .error []
  match numeral.exponent with
  | none => result places
  | some (negative, exponentDigits) =>
    match fill (Nat.pow 2 31) 0 exponentDigits with
    | (exponent, []) => result (if negative then places - exponent else places + exponent)
    | (_, _ :: unread) =>
      if digits ≠ 0 && !negative then .error unread else .ok (signed 0)

/-- What a numeral means. -/
def number (numeral : Numeral) : Except (List UInt8) Number :=
  let (whole, left) := fill (Nat.pow 2 64) 0 numeral.whole
  if !numeral.fraction.isEmpty || numeral.exponent.isSome || !left.isEmpty then
    Number.float <$> numeral.float
  else if !numeral.negative then .ok (.integer whole)
  else if whole = 0 || Nat.pow 2 63 < whole then Number.float <$> numeral.float
  else .ok (.integer (-whole))

end Numeral

/-- Reads a number that begins at the next byte. -/
def Reader.number : Reader Number := do
  match (← numeral .endOfValue).number with
  | .ok number => pure number
  | .error unread => fun rest => .error ⟨.numberOutOfRange, unread ++ rest⟩

/-- The digits taken up, in front of those left over, are the digits given. -/
theorem fill_eq (limit value : Nat) (digits : List UInt8) :
    ∃ taken, digits = taken ++ (fill limit value digits).2 ∧
      (fill limit value digits).1 = taken.foldl (fun n b => 10 * n + digitValue b) value := by
  induction digits generalizing value with
  | nil => exact ⟨[], rfl, rfl⟩
  | cons b more ih =>
    unfold fill
    split
    · obtain ⟨taken, hdigits, hvalue⟩ := ih (10 * value + digitValue b)
      exact ⟨b :: taken, by rw [List.cons_append, ← hdigits], hvalue⟩
    · exact ⟨[], rfl, rfl⟩

end DrinkMixer.Json
