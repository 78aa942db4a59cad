/-!
# Hexadecimal text

Two hexadecimal digits for every byte, in lower or in upper case.

Main statement: `length_lowerPair`, a byte always takes two characters.
-/

namespace DrinkMixer.Text.Hex

/-- The two lower-case digits of a byte. -/
def lowerPair (b : UInt8) : List Char :=
  [Nat.digitChar (b.toNat / 16), Nat.digitChar (b.toNat % 16)]

/-- The two upper-case digits of a byte. -/
def upperPair (b : UInt8) : List Char :=
  (lowerPair b).map Char.toUpper

/-- The two lower-case digits of a byte, as a text. -/
def lower (b : UInt8) : String :=
  String.ofList (lowerPair b)

@[simp] theorem length_lowerPair (b : UInt8) : (lowerPair b).length = 2 := rfl

@[simp] theorem length_upperPair (b : UInt8) : (upperPair b).length = 2 := rfl

end DrinkMixer.Text.Hex
