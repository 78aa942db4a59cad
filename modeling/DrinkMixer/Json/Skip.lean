import DrinkMixer.Json.Numeral
import DrinkMixer.Json.Text

/-!
# Passing over a value

The value of a member that nobody asked for is passed over: its form is checked, its meaning is
not. The brackets that are open are kept in a list, so that values may be nested to any depth.
-/

namespace DrinkMixer.Json

/-- What is open around a value. -/
inductive Enclosure
  | list
  | object
  deriving DecidableEq, Repr

namespace Enclosure

/-- The byte that closes it. -/
def closing : Enclosure → UInt8
  | list => closeList
  | object => closeObject

/-- Why a document that ends within it is refused. -/
def atEnd : Enclosure → Cause
  | list => .endOfList
  | object => .endOfObject

/-- Why a document is refused that has something other than a comma between two entries. -/
def noComma : Enclosure → Cause
  | list => .expectedListComma
  | object => .expectedObjectComma

end Enclosure

namespace Reader

/-- Passes over a name and its colon. -/
def skipName : Reader Unit := do
  skipBlanks
  match ← peek? with
  | none => refuseNext .endOfObject
  | some b =>
    if b = quote then
      advance
      skipText
      nameEnd
    else refuseNext .keyNotText

/-- Passes over what stands before the value of an entry. -/
def skipLabel : Enclosure → Reader Unit
  | .list => pure ()
  | .object => skipName

/-- Passes over a value that is neither a list nor an object and begins with the given byte, which
is left where it is. -/
def skipScalar (b : UInt8) : Reader Unit :=
  if b = quote then do
    advance
    skipText
  else if b = minus || isDigit b then do
    let _ ← numeral .invalidNumber
  else if b = 0x6E then do
    advance
    word (bytes "ull")
  else if b = 0x74 then do
    advance
    word (bytes "rue")
  else if b = 0x66 then do
    advance
    word (bytes "alse")
  else refuseNext .expectedValue

/-- How a value begins. -/
inductive Opening
  | complete
  /-- It is a list or an object whose first entry comes next. -/
  | entered (enclosure : Enclosure)

/-- Passes over the opening of a list or an object, and also over its end if it is empty. -/
def skipOpening (enclosure : Enclosure) : Reader Opening := do
  advance
  skipBlanks
  match ← peek? with
  | none => refuseNext enclosure.atEnd
  | some b =>
    if b = enclosure.closing then
      advance
      pure .complete
    else
      skipLabel enclosure
      pure (.entered enclosure)

/-- Passes over a scalar, an empty list or object, or what stands before the first value of one. -/
def skipStart : Reader Opening := do
  let b ← valueStart
  if b = openList then skipOpening .list
  else if b = openObject then skipOpening .object
  else
    skipScalar b
    pure .complete

/-- Behind a value: passes over a comma and what stands before the next value, or over the closing
byte, and says whether it was the latter. -/
def skipAfter (enclosure : Enclosure) : Reader Bool := do
  skipBlanks
  match ← peek? with
  | none => refuseNext enclosure.atEnd
  | some b =>
    if b = comma then
      advance
      skipLabel enclosure
      pure false
    else if b = enclosure.closing then
      advance
      pure true
    else refuseNext enclosure.noComma

/-- Passes over the rest of a value, given what is open around the place, innermost first, and
whether a value has to begin there or has just ended. No more steps are made than the fuel allows;
each takes a byte off the document. -/
def skipNested : (fuel : Nat) → (starting : Bool) → List Enclosure → Reader Unit
  | 0, _, _ => refuse .endOfValue
  | _ + 1, false, [] => pure ()
  | fuel + 1, true, around => do
    match ← skipStart with
    | .complete => skipNested fuel false around
    | .entered enclosure => skipNested fuel true (enclosure :: around)
  | fuel + 1, false, enclosure :: around => do
    if ← skipAfter enclosure then skipNested fuel false around
    else skipNested fuel true (enclosure :: around)

/-- Passes over a value. -/
def skipValue : Reader Unit :=
  fun rest => skipNested (rest.length + 1) true [] rest

end Reader

end DrinkMixer.Json
