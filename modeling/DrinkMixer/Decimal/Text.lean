import DrinkMixer.Decimal.Shortest

/-!
# The text of a double

The shortest digits that read back, written positionally from `0.00001` up to sixteen digits before
the point and with a power of ten outside. A number always shows a point or a power.
-/

namespace DrinkMixer.Decimal

/-- Where positional notation begins and ends. -/
structure Layout where
  /-- The least power of ten of a first digit that is written positionally. -/
  lowest : Int
  highest : Int

/-- How numbers are written in messages. -/
def messageLayout : Layout := ⟨-5, 15⟩

/-- Digits with the point behind the first digit of the given power of ten. -/
def positional (digits : List Char) (magnitude : Int) : List Char :=
  if magnitude < 0 then
    '0' :: '.' :: List.replicate ((-magnitude).toNat - 1) '0' ++ digits
  else
    let whole := magnitude.toNat + 1
    if digits.length ≤ whole then
      digits ++ List.replicate (whole - digits.length) '0' ++ ['.', '0']
    else digits.take whole ++ '.' :: digits.drop whole

/-- Digits with the point behind the first, and a power of ten with its sign. -/
def scientific (digits : List Char) (magnitude : Int) : List Char :=
  let mantissa :=
    match digits with
    | [] => []
    | [d] => [d]
    | d :: rest => d :: '.' :: rest
  let sign := if magnitude < 0 then '-' else '+'
  mantissa ++ 'e' :: sign :: Nat.toDigits 10 magnitude.natAbs

/-- A positive decimal. -/
def text (layout : Layout) (d : Decimal) : List Char :=
  let d := d.trimmed
  let digits := Nat.toDigits 10 d.digits
  let magnitude := d.exponent + (digits.length - 1 : Nat)
  if layout.lowest ≤ magnitude && magnitude ≤ layout.highest then positional digits magnitude
  else scientific digits magnitude

/-- The text of a finite double. -/
def ofFloat (x : Float) : String :=
  let bits := x.toBits
  let sign := if bits.toNat / Nat.pow 2 63 = 1 then ['-'] else []
  let magnitude := UInt64.ofNat (bits.toNat % Nat.pow 2 63)
  let digits :=
    if magnitude = 0 then ['0', '.', '0']
    else
      match (Interval.ofBits magnitude).shortest? with
      | some d => d.text messageLayout
      | none => []
  String.ofList (sign ++ digits)

end DrinkMixer.Decimal
