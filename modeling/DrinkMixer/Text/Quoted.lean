import DrinkMixer.Text.Printable

/-!
# Quoted text

A text between double quotes, with everything that cannot be shown plainly escaped: the usual
two-character escapes, and the code point in hexadecimal for the rest.
-/

namespace DrinkMixer.Text

/-- The double quote. -/
def doubleQuote : Char := Char.ofNat 0x22

/-- The backslash. -/
def backslash : Char := Char.ofNat 0x5C

/-- The braces around a code point. -/
def openBrace : Char := Char.ofNat 0x7B

/-- The braces around a code point. -/
def closeBrace : Char := Char.ofNat 0x7D

/-- The letter that escapes a character after a backslash, if it has one. -/
def shortEscape? (c : Char) : Option Char :=
  if c = Char.ofNat 0x00 then some '0'
  else if c = Char.ofNat 0x09 then some 't'
  else if c = Char.ofNat 0x0A then some 'n'
  else if c = Char.ofNat 0x0D then some 'r'
  else if c = doubleQuote || c = backslash then some c
  else none

/-- How one character stands in a quoted text. -/
def escaped (c : Char) : List Char :=
  match shortEscape? c with
  | some letter => [backslash, letter]
  | none =>
    if isPrintable c then [c]
    else [backslash, 'u', openBrace] ++ Nat.toDigits 16 c.toNat ++ [closeBrace]

/-- The text between double quotes. -/
def quoted (text : String) : String :=
  String.ofList (doubleQuote :: text.toList.flatMap escaped ++ [doubleQuote])

end DrinkMixer.Text
