import DrinkMixer.Text.Hex

/-!
# Tags

What a contactless tag shows: its identifier of at most ten bytes, and blocks of sixteen bytes
opened by a key of six.
-/

namespace DrinkMixer

/-- A key that opens blocks of a tag. -/
abbrev AuthKey := Vector UInt8 6

/-- One block of data on a tag. -/
abbrev Block := Vector UInt8 16

/-- The identifier of a tag. -/
structure Uid where
  bytes : List UInt8
  /-- There are at most ten of them. -/
  length_le : bytes.length ≤ 10
  deriving DecidableEq, Repr

namespace Uid

/-- The identifier with the given bytes, unless there are too many. -/
def ofBytes? (bytes : List UInt8) : Option Uid :=
  if h : bytes.length ≤ 10 then some ⟨bytes, h⟩ else none

/-- The bytes in upper-case hexadecimal, joined by colons. -/
def text (uid : Uid) : String :=
  String.ofList ([':'].intercalate (uid.bytes.map Text.Hex.upperPair))

/-- An identifier is read back from its bytes. -/
theorem ofBytes?_bytes (uid : Uid) : ofBytes? uid.bytes = some uid := by
  simp [ofBytes?, uid.length_le]

end Uid

end DrinkMixer
