import DrinkMixer.Json.Fault

/-!
# Reading a document byte by byte

A `Reader` takes some bytes off the front of a document or refuses it. A refusal is blamed either
on what was read last (`refuse`) or on the byte that comes next (`refuseNext`).
-/

namespace DrinkMixer.Json

/-- Takes some bytes off the front of a document, or refuses it. -/
abbrev Reader := StateT (List UInt8) (Except Fault)

/-- The bytes of a text. -/
def bytes (text : String) : List UInt8 :=
  text.toUTF8.data.toList

/-! ### Bytes with a meaning -/

/-- Space, tab, line feed and carriage return. -/
def isBlank (b : UInt8) : Bool :=
  b == 0x20 || b == 0x09 || b == 0x0A || b == 0x0D

/-- A decimal digit. -/
def isDigit (b : UInt8) : Bool :=
  0x30 ≤ b && b ≤ 0x39

/-- The double quote. -/
def quote : UInt8 := 0x22

/-- The comma. -/
def comma : UInt8 := 0x2C

/-- The colon. -/
def colon : UInt8 := 0x3A

/-- The minus sign. -/
def minus : UInt8 := 0x2D

/-- The bracket that opens a list. -/
def openList : UInt8 := 0x5B

/-- The bracket that closes a list. -/
def closeList : UInt8 := 0x5D

/-- The brace that opens an object. -/
def openObject : UInt8 := 0x7B

/-- The brace that closes an object. -/
def closeObject : UInt8 := 0x7D

namespace Reader

variable {α : Type}

/-- Refuses the document, blaming what was read last. -/
def refuse (cause : Cause) : Reader α :=
  fun rest => .error ⟨cause, rest⟩

/-- Refuses the document, blaming the byte that comes next. -/
def refuseNext (cause : Cause) : Reader α :=
  fun rest => .error ⟨cause, rest.tail⟩

/-- The byte that comes next, left where it is. -/
def peek? : Reader (Option UInt8) :=
  fun rest => .ok (rest.head?, rest)

/-- Takes the byte that comes next. -/
def advance : Reader Unit :=
  fun rest => .ok ((), rest.tail)

/-- Passes over blanks. -/
def skipBlanks : Reader Unit :=
  fun rest => .ok ((), rest.dropWhile isBlank)

/-- Takes the byte that comes next; a document that has none is refused for the given cause. -/
def byte (atEnd : Cause) : Reader UInt8
  | [] => .error ⟨atEnd, []⟩
  | b :: rest => .ok (b, rest)

/-- Takes all the digits that come next. -/
def digits : Reader (List UInt8) :=
  fun rest => .ok (rest.takeWhile isDigit, rest.dropWhile isDigit)

/-- Takes the bytes of a word, each of which has to be there. -/
def word : List UInt8 → Reader Unit
  | [] => pure ()
  | expected :: more => do
    if (← byte .endOfValue) = expected then word more else refuse .expectedWord

/-- Passes over blanks to the byte a value begins with, and leaves it where it is. -/
def valueStart : Reader UInt8 := do
  skipBlanks
  match ← peek? with
  | some b => pure b
  | none => refuseNext .endOfValue

/-! ### Lists and objects -/

/-- Whether a list has another element, which may have to be told from the one before by a
comma. -/
def elementFollows (first : Bool) : Reader Bool := do
  skipBlanks
  match ← peek? with
  | none => refuseNext .endOfList
  | some b =>
    if b = closeList then pure false
    else if first then pure true
    else if b = comma then
      advance
      skipBlanks
      match ← peek? with
      | none => refuseNext .endOfValue
      | some b => if b = closeList then refuseNext .trailingComma else pure true
    else refuseNext .expectedListComma

/-- The end of a list of which nothing more is wanted. -/
def endList : Reader Unit := do
  skipBlanks
  match ← peek? with
  | none => refuseNext .endOfList
  | some b =>
    if b = closeList then advance
    else if b = comma then
      advance
      skipBlanks
      if (← peek?) = some closeList then refuseNext .trailingComma
      else refuseNext .trailingCharacters
    else refuseNext .trailingCharacters

/-- Whether an object has another member, which may have to be told from the one before by a
comma. The quote that opens its name is left where it is. -/
def memberFollows (first : Bool) : Reader Bool := do
  skipBlanks
  match ← peek? with
  | none => refuseNext .endOfObject
  | some b =>
    if b = closeObject then pure false
    else if first then
      if b = quote then pure true else refuseNext .keyNotText
    else if b = comma then
      advance
      skipBlanks
      match ← peek? with
      | none => refuseNext .endOfValue
      | some b =>
        if b = quote then pure true
        else if b = closeObject then refuseNext .trailingComma
        else refuseNext .keyNotText
    else refuseNext .expectedObjectComma

/-- The colon between a name and its value. -/
def nameEnd : Reader Unit := do
  skipBlanks
  match ← peek? with
  | none => refuseNext .endOfObject
  | some b => if b = colon then advance else refuseNext .expectedColon

/-- Nothing but blanks up to the end of the document. -/
def documentEnd : Reader Unit := do
  skipBlanks
  match ← peek? with
  | none => pure ()
  | some _ => refuseNext .trailingCharacters

end Reader

end DrinkMixer.Json
