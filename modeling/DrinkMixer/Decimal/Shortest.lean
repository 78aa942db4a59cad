/-!
# The shortest decimal that reads back

A finite double stands for every real number that rounds to it. `shortest?` finds, among the
decimals in that interval, one with the fewest digits, and of those the nearest to the double; a
tie goes to the even digit. All arithmetic is exact.
-/

namespace DrinkMixer

/-- A positive decimal: `digits` times ten to the power `exponent`. -/
structure Decimal where
  digits : Nat
  exponent : Int
  deriving DecidableEq, Repr

namespace Decimal

/-- The real numbers around `value / scale`, between `low / scale` and `high / scale`; the ends
belong to the interval if `closed` says so. -/
structure Interval where
  value : Nat
  low : Nat
  high : Nat
  scale : Nat
  closed : Bool

namespace Interval

/-- The interval of reals that round to the double with these bits, for a positive finite one. -/
def ofBits (bits : UInt64) : Interval :=
  let fraction := bits.toNat % Nat.pow 2 52
  let biased := bits.toNat / Nat.pow 2 52 % Nat.pow 2 11
  let mantissa := if biased = 0 then fraction else Nat.pow 2 52 + fraction
  let shift := max biased 1 - 1
  -- The double is `mantissa * 2 ^ (shift - 1074)`; quarters of its last place make all ends whole.
  let unit := Nat.pow 2 (shift - 1076)
  let below := if fraction = 0 && 1 < biased then 1 else 2
  { value := 4 * mantissa * unit
    low := (4 * mantissa - below) * unit
    high := (4 * mantissa + 2) * unit
    scale := Nat.pow 2 (1076 - shift)
    closed := mantissa % 2 == 0 }

/-- Whether `n` times ten to the power `exponent` lies in the interval. -/
def has (interval : Interval) (n : Nat) (exponent : Int) : Bool :=
  let number := n * Nat.pow 10 exponent.toNat * interval.scale
  let unit := Nat.pow 10 (-exponent).toNat
  if interval.closed then interval.low * unit ≤ number && number ≤ interval.high * unit
  else interval.low * unit < number && number < interval.high * unit

/-- The multiple of ten to the power `exponent` next to the value that lies in the interval, the
nearer one if there are two, and of two equally near ones the even. -/
def neighbour? (interval : Interval) (exponent : Int) : Option Nat :=
  let unit := interval.scale * Nat.pow 10 exponent.toNat
  let number := interval.value * Nat.pow 10 (-exponent).toNat
  let floor := number / unit
  let twice := 2 * (number % unit)
  let downFirst := twice < unit || (twice == unit && floor % 2 == 0)
  let candidates := if downFirst then [floor, floor + 1] else [floor + 1, floor]
  candidates.find? fun n => interval.has n exponent

/-- The power of ten of the value's first digit. -/
def magnitude (interval : Interval) : Int :=
  if interval.scale ≤ interval.value then
    ((Nat.toDigits 10 (interval.value / interval.scale)).length : Int) - 1
  else
    match (List.range 400).find? fun n => interval.scale ≤ interval.value * Nat.pow 10 n with
    | some n => -(n : Int)
    | none => 0

/-- The decimal in the interval with the fewest digits, if it has one with at most 17. -/
def shortest? (interval : Interval) : Option Decimal :=
  let magnitude := interval.magnitude
  (List.range 17).findSome? fun (more : Nat) =>
    let exponent := magnitude - (more : Int)
    (interval.neighbour? exponent).map fun digits => ⟨digits, exponent⟩

end Interval

/-- The decimal without zeros at its end. -/
def trimmed (d : Decimal) : Decimal :=
  let zeros := ((Nat.toDigits 10 d.digits).reverse.takeWhile (· == '0')).length
  if d.digits = 0 then d else ⟨d.digits / Nat.pow 10 zeros, d.exponent + zeros⟩

end Decimal

end DrinkMixer
