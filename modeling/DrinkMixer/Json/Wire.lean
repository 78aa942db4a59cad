import DrinkMixer.Json.Skip

/-!
# Values as documents

A `Wire` type has one way to be read from a document and one to be written to it: numbers of fixed
width, truth values and lists of fixed length. A value of another type is read as far as it takes to
say what it is, and refused.

Main statement: `foldl_decimal`, a number is read back from its digits.
-/

namespace DrinkMixer.Json

/-- Types with a form in documents. -/
class Wire (α : Type) where
  read : Reader α
  /-- The form in which a value is written. -/
  write : α → List UInt8

/-! ### Scalars -/

namespace Reader

variable {α : Type}

/-- Reads whatever value comes next as far as it takes to say what it is. -/
def found : Reader Found := do
  let b ← valueStart
  if b = openList then pure .sequence
  else if b = openObject then pure .map
  else if b = quote then
    advance
    Found.text <$> text
  else if b = minus || isDigit b then
    match ← number with
    | .integer value => pure (.integer value)
    | .float value => pure (.float value)
  else if b = 0x6E then
    advance
    word (bytes "ull")
    pure .null
  else if b = 0x74 then
    advance
    word (bytes "rue")
    pure (.boolean true)
  else if b = 0x66 then
    advance
    word (bytes "alse")
    pure (.boolean false)
  else refuseNext .expectedValue

/-- Refuses the value that comes next because it is of the wrong type. -/
def mismatch (expected : String) : Reader α := do
  refuse (.wrongType (← found) expected)

/-- Reads a natural number below a limit. -/
def natural (expected : String) (limit : Nat) : Reader Nat := do
  let b ← valueStart
  if b = minus || isDigit b then
    match ← number with
    | .integer value =>
      if 0 ≤ value ∧ value < limit then pure value.toNat
      else refuse (.wrongInteger value expected)
    | .float value => refuse (.wrongType (.float value) expected)
  else mismatch expected

/-- Reads `true` or `false`. -/
def boolean : Reader Bool := do
  let b ← valueStart
  if b = 0x74 || b = 0x66 then
    match ← found with
    | .boolean value => pure value
    | other => refuse (.wrongType other "a boolean")
  else mismatch "a boolean"

end Reader

/-- The decimal digits of a number. -/
def decimal (n : Nat) : List UInt8 :=
  if n < 10 then [0x30 + UInt8.ofNat n]
  else decimal (n / 10) ++ [0x30 + UInt8.ofNat (n % 10)]
termination_by n

/-- The digit of a number below ten has that number as its value. -/
theorem digitValue_ofNat {n : Nat} (h : n < 10) : digitValue (0x30 + UInt8.ofNat n) = n := by
  simp only [digitValue, UInt8.toNat_add, UInt8.toNat_ofNat, UInt8.toNat_ofNat']
  omega

/-- A number is read back from its digits. -/
theorem foldl_decimal (n : Nat) :
    (decimal n).foldl (fun value b => 10 * value + digitValue b) 0 = n := by
  fun_induction decimal n with
  | case1 n h => simp [digitValue_ofNat h]
  | case2 n h ih =>
    rw [List.foldl_append, ih, List.foldl_cons, List.foldl_nil,
      digitValue_ofNat (Nat.mod_lt n (by decide)), Nat.div_add_mod]

instance : Wire UInt8 where
  read := UInt8.ofNat <$> Reader.natural "u8" (Nat.pow 2 8)
  write n := decimal n.toNat

instance : Wire UInt16 where
  read := UInt16.ofNat <$> Reader.natural "u16" (Nat.pow 2 16)
  write n := decimal n.toNat

instance : Wire UInt32 where
  read := UInt32.ofNat <$> Reader.natural "u32" (Nat.pow 2 32)
  write n := decimal n.toNat

instance : Wire UInt64 where
  read := UInt64.ofNat <$> Reader.natural "usize" (Nat.pow 2 64)
  write n := decimal n.toNat

instance : Wire Bool where
  read := Reader.boolean
  write
    | true => bytes "true"
    | false => bytes "false"

/-! ### Lists of fixed length -/

/-- The form of a list. -/
def listOf (elements : List (List UInt8)) : List UInt8 :=
  openList :: [comma].intercalate elements ++ [closeList]

/-- Reads the elements of a list that has to have `n` of them; `total` is what the whole list has
to have. -/
def Reader.elements {α : Type} [Wire α] (total : Nat) : (n : Nat) → Reader (Vector α n)
  | 0 => pure #v[]
  | n + 1 => do
    let before ← Reader.elements total n
    if ← Reader.elementFollows (n == 0) then
      pure (before.push (← Wire.read))
    else
      Reader.advance
      Reader.refuse (.wrongLength n s!"an array of length {total}")

instance {α : Type} {n : Nat} [Wire α] : Wire (Vector α n) where
  read := do
    if (← Reader.valueStart) = openList then
      Reader.advance
      let vector ← Reader.elements n n
      Reader.endList
      pure vector
    else Reader.mismatch s!"an array of length {n}"
  write v := listOf (v.toList.map Wire.write)

end DrinkMixer.Json
