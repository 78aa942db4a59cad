import DrinkMixer.Json.Reader

/-!
# Texts in a document

The bytes between two quotes, with escapes resolved. The same scan passes over texts nobody asked
for; then surrogates need not pair up, and a control character is blamed without having been read.
-/

namespace DrinkMixer.Json

/-- Where a scan stands within a text. -/
inductive TextState
  /-- Between characters. -/
  | plain
  /-- Behind a backslash. -/
  | escape
  /-- Within the four digits of a code unit: the surrogate it has to complete, how many digits are
  missing, and the value of those before, unless one of them was no digit. -/
  | unit (leading : Option Nat) (missing : Nat) (value : Option Nat)
  /-- Behind a leading surrogate. -/
  | pair (leading : Nat)
  /-- Behind a leading surrogate and a backslash. -/
  | pairEscape (leading : Nat)

namespace TextState

/-- The byte that begins an escape. -/
def backslash : UInt8 := 0x5C

/-- The letter of an escaped code unit. -/
def unitLetter : UInt8 := 0x75

/-- The byte that a letter behind a backslash stands for. -/
def shortEscape? (b : UInt8) : Option UInt8 :=
  if b = 0x22 || b = 0x5C || b = 0x2F then some b
  else if b = 0x62 then some 0x08
  else if b = 0x66 then some 0x0C
  else if b = 0x6E then some 0x0A
  else if b = 0x72 then some 0x0D
  else if b = 0x74 then some 0x09
  else none

/-- The value of a hexadecimal digit. -/
def hexValue? (b : UInt8) : Option Nat :=
  if 0x30 ≤ b && b ≤ 0x39 then some (b.toNat - 0x30)
  else if 0x41 ≤ b && b ≤ 0x46 then some (b.toNat - 0x41 + 10)
  else if 0x61 ≤ b && b ≤ 0x66 then some (b.toNat - 0x61 + 10)
  else none

/-- A code unit that begins a surrogate pair. -/
def isLeading (unit : Nat) : Bool :=
  0xD800 ≤ unit && unit ≤ 0xDBFF

/-- A code unit that ends a surrogate pair. -/
def isTrailing (unit : Nat) : Bool :=
  0xDC00 ≤ unit && unit ≤ 0xDFFF

/-- The bytes of a code point. -/
def encode (point : Nat) : List UInt8 :=
  String.utf8EncodeChar (Char.ofNat point)

/-- The code point of a surrogate pair. -/
def joined (leading trailing : Nat) : Nat :=
  0x10000 + (leading - 0xD800) * 0x400 + (trailing - 0xDC00)

/-- What a complete code unit adds to a text, and how the scan goes on. -/
def afterUnit (leading : Option Nat) (unit : Nat) : Except Cause (List UInt8 × TextState) :=
  match leading with
  | none =>
    if isTrailing unit then .error .loneSurrogate
    else if isLeading unit then .ok ([], pair unit)
    else .ok (encode unit, plain)
  | some leading =>
    if isTrailing unit then .ok (encode (joined leading unit), plain)
    else .error .loneSurrogate

end TextState

open TextState in
/-- Scans a text up to its closing quote and returns its bytes, given those read before in reverse.
A checked scan refuses surrogates without a partner. -/
def scan (checked : Bool) :
    TextState → List UInt8 → List UInt8 → Except Fault (List UInt8 × List UInt8)
  | _, _, [] => .error ⟨.endOfText, []⟩
  | .plain, read, b :: rest =>
    if b = quote then .ok (read.reverse, rest)
    else if b = backslash then scan checked .escape read rest
    else if b < 0x20 then .error ⟨.controlCharacter, if checked then rest else b :: rest⟩
    else scan checked .plain (b :: read) rest
  | .escape, read, b :: rest =>
    if b = unitLetter then scan checked (.unit none 4 (some 0)) read rest
    else
      match shortEscape? b with
      | some c => scan checked .plain (c :: read) rest
      | none => .error ⟨.invalidEscape, rest⟩
  | .unit leading missing value, read, b :: rest =>
    let value := value.bind fun value => (hexValue? b).map fun digit => 16 * value + digit
    if 1 < missing then scan checked (.unit leading (missing - 1) value) read rest
    else
      match value with
      | none => .error ⟨.invalidEscape, rest⟩
      | some code =>
        if checked then
          match afterUnit leading code with
          | .ok (added, state) => scan checked state (added.reverse ++ read) rest
          | .error cause => .error ⟨cause, rest⟩
        else scan checked .plain read rest
  | .pair leading, read, b :: rest =>
    if b = backslash then scan checked (.pairEscape leading) read rest
    else .error ⟨.endOfPair, rest⟩
  | .pairEscape leading, read, b :: rest =>
    if b = unitLetter then scan checked (.unit (some leading) 4 (some 0)) read rest
    else .error ⟨.endOfPair, rest⟩

namespace Reader

/-- Reads a text behind its opening quote. -/
def text : Reader (List UInt8) :=
  scan true .plain []

/-- Passes over a text behind its opening quote. -/
def skipText : Reader Unit := do
  let _ ← (scan false .plain [] : Reader (List UInt8))

/-- Reads the name of a member with its quotes. -/
def name : Reader (List UInt8) := do
  advance
  text

end Reader

end DrinkMixer.Json
