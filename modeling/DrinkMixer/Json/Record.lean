import DrinkMixer.Json.Wire

/-!
# Records as documents

A record is described once, by a `Schema` that lists its fields, and the description serves both
directions: a record is read from an object that names any of the fields in any order, or from a
list that gives the first of them in order, with defaults for the rest, and it is written as an
object with all fields in order.
-/

namespace DrinkMixer.Json

/-- One field of a record. -/
structure RecordField (ρ : Type) where
  name : String
  /-- Reads a value and puts it into the record. -/
  read : ρ → Reader ρ
  /-- The form of the value in the record. -/
  write : ρ → List UInt8

/-- The field that a pair of functions gets and sets. -/
def RecordField.of {ρ α : Type} [Wire α] (name : String) (get : ρ → α) (set : ρ → α → ρ) :
    RecordField ρ where
  name := name
  read record := set record <$> Wire.read
  write record := Wire.write (get record)

/-- What a record looks like in documents. -/
structure Schema (ρ : Type) where
  /-- What is said to be expected where something else stands. -/
  expected : String
  fields : List (RecordField ρ)
  /-- The record of which a document changes some fields. -/
  default : ρ

namespace Schema

variable {ρ : Type}

/-! ### Writing -/

/-- The form of a member of an object. -/
def member (record : ρ) (field : RecordField ρ) : List UInt8 :=
  quote :: bytes field.name ++ quote :: colon :: field.write record

/-- The object with all fields of a record. -/
def write (schema : Schema ρ) (record : ρ) : List UInt8 :=
  openObject :: [comma].intercalate (schema.fields.map (member record)) ++ [closeObject]

/-- The document with all fields of a record, as a text. -/
def toText (schema : Schema ρ) (record : ρ) : String :=
  String.ofList ((schema.write record).map Char.ofUInt8)

/-! ### Reading -/

/-- The field with the given name. -/
def field? (schema : Schema ρ) (name : List UInt8) : Option (RecordField ρ) :=
  schema.fields.find? fun field => bytes field.name == name

/-- Refuses the second member of a name. The blame falls behind the blanks that follow, and behind
the end of the object if it follows them. -/
def refuseDuplicate {α : Type} (name : String) : Reader α := do
  Reader.skipBlanks
  let _ ← Reader.accept closeObject
  Reader.refuse (.duplicateField name)

/-- Reads the members of an object into a record, given the names seen so far. There are no more
of them than the fuel allows; each takes a byte off the document. -/
def readMembers (schema : Schema ρ) :
    (fuel : Nat) → (first : Bool) → (seen : List String) → ρ → Reader ρ
  | 0, _, _, _ => Reader.refuse .endOfObject
  | fuel + 1, first, seen, record => do
    if ← Reader.memberFollows first then
      match schema.field? (← Reader.name) with
      | some field =>
        if field.name ∈ seen then refuseDuplicate field.name
        else
          Reader.nameEnd
          schema.readMembers fuel false (field.name :: seen) (← field.read record)
      | none =>
        Reader.nameEnd
        Reader.skipValue
        schema.readMembers fuel false seen record
    else
      Reader.advance
      pure record

/-- Reads the elements of a list into the fields of a record. -/
def readElements : (first : Bool) → List (RecordField ρ) → ρ → Reader ρ
  | _, [], record => pure record
  | first, field :: fields, record => do
    if ← Reader.elementFollows first then readElements false fields (← field.read record)
    else pure record

/-- Reads a record. -/
def read (schema : Schema ρ) : Reader ρ := do
  let b ← Reader.valueStart
  if b = openObject then
    Reader.advance
    fun rest => schema.readMembers (rest.length + 1) true [] schema.default rest
  else if b = openList then
    Reader.advance
    let record ← readElements true schema.fields schema.default
    Reader.endList
    pure record
  else Reader.mismatch schema.expected

/-- Reads a document that holds a record and nothing else. -/
def ofBytes (schema : Schema ρ) (document : List UInt8) : Except Fault ρ :=
  (do
    let record ← schema.read
    Reader.documentEnd
    pure record : Reader ρ).run' document

/-- Reads a text that holds a record and nothing else. -/
def ofText (schema : Schema ρ) (text : String) : Except Fault ρ :=
  schema.ofBytes (bytes text)

end Schema

/-- Records within records have the form their schema gives them. -/
abbrev Wire.ofSchema {ρ : Type} (schema : Schema ρ) : Wire ρ where
  read := schema.read
  write := schema.write

end DrinkMixer.Json
