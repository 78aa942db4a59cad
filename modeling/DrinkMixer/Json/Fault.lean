import DrinkMixer.Decimal.Text
import DrinkMixer.Text.Quoted

/-!
# Refused documents

Why a JSON document is refused and where. The place is kept as what is left of the document there;
line and column are worked out only when the refusal is put into words.
-/

namespace DrinkMixer.Json

/-- What stands where something else was expected. -/
inductive Found
  | null
  | boolean (value : Bool)
  | integer (value : Int)
  | float (value : Float)
  | text (bytes : List UInt8)
  | sequence
  | map

/-- The wording for what was found. -/
def Found.wording : Found → String
  | null => "null"
  | boolean value => "boolean \x60" ++ toString value ++ "\x60"
  | integer value => "integer \x60" ++ toString value ++ "\x60"
  | float value => "floating point \x60" ++ Decimal.ofFloat value ++ "\x60"
  | text bytes =>
    "string " ++ Text.quoted ((String.fromUTF8? ⟨bytes.toArray⟩).getD "")
  | sequence => "sequence"
  | map => "map"

/-- Why a document is refused. -/
inductive Cause
  | endOfValue
  | endOfList
  | endOfObject
  | endOfText
  | expectedColon
  | expectedListComma
  | expectedObjectComma
  | expectedValue
  | expectedWord
  | keyNotText
  | invalidEscape
  | invalidNumber
  | numberOutOfRange
  | loneSurrogate
  | endOfPair
  | controlCharacter
  | trailingComma
  | trailingCharacters
  | duplicateField (name : String)
  | wrongType (found : Found) (expected : String)
  | wrongInteger (value : Int) (expected : String)
  | wrongLength (length : Nat) (expected : String)

/-- The wording of a cause. -/
def Cause.message : Cause → String
  | endOfValue => "EOF while parsing a value"
  | endOfList => "EOF while parsing a list"
  | endOfObject => "EOF while parsing an object"
  | endOfText => "EOF while parsing a string"
  | expectedColon => "expected \x60:\x60"
  | expectedListComma => "expected \x60,\x60 or \x60]\x60"
  | expectedObjectComma => "expected \x60,\x60 or \x60\x7d\x60"
  | expectedValue => "expected value"
  | expectedWord => "expected ident"
  | keyNotText => "key must be a string"
  | invalidEscape => "invalid escape"
  | invalidNumber => "invalid number"
  | numberOutOfRange => "number out of range"
  | loneSurrogate => "lone leading surrogate in hex escape"
  | endOfPair => "unexpected end of hex escape"
  | controlCharacter => "control character (\\u0000-\\u001F) found while parsing a string"
  | trailingComma => "trailing comma"
  | trailingCharacters => "trailing characters"
  | duplicateField name => "duplicate field \x60" ++ name ++ "\x60"
  | wrongType found expected => "invalid type: " ++ found.wording ++ ", expected " ++ expected
  | wrongInteger value expected =>
    "invalid value: integer \x60" ++ toString value ++ "\x60, expected " ++ expected
  | wrongLength length expected =>
    "invalid length " ++ toString length ++ ", expected " ++ expected

/-- A refusal: its cause, and what is left of the document at the place it is blamed on. -/
structure Fault where
  cause : Cause
  rest : List UInt8

/-- The byte that ends a line. -/
def newline : UInt8 := 0x0A

/-- The line and the column behind some bytes: one more than the line ends in them, and the bytes
since the last of those. -/
def lineColumn (before : List UInt8) : Nat × Nat :=
  (before.count newline + 1, (before.reverse.takeWhile (· != newline)).length)

/-- The wording of a refusal of a document. -/
def Fault.message (fault : Fault) (document : List UInt8) : String :=
  let (line, column) := lineColumn (document.take (document.length - fault.rest.length))
  s!"{fault.cause.message} at line {line} column {column}"

end DrinkMixer.Json
