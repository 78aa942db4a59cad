import DrinkMixer.Proofs.Json.Grammar

/-!
# Literals

A type with a form in documents has some values as they are written that are literals of it
(`Literal`). Such a literal stands for a value of the type, or for none if it is out of range:
numbers are neither cut off nor wrapped around. Types whose literals are read as what they stand
for, and refused if they stand for nothing, are `LawfulLiteral`.

Main statements: `yields_natural`, a number is read if it is below the limit and else refused, and
`yields_elements`, the literals of a list are read one after the other.
-/

namespace DrinkMixer.Json

open Reader Value

/-- Types that have literals. -/
class Literal (α : Type) where
  /-- The values that are literals, as they are written. -/
  Fits : Value → Prop
  /-- What a literal stands for, unless it is out of range. -/
  value? : Value → Option α

/-- Types whose literals are read as what they stand for. -/
class LawfulLiteral (α : Type) [Wire α] [Literal α] : Prop where
  yields_read {value : Value} {text : List UInt8} {more : List Token}
    (hfits : Literal.Fits α value) (htext : Spaced (value.tokens ++ more) text)
    (hmore : Ends more) : Yields (Wire.read : Reader α) text (Literal.value? value) more

variable {text rest : List UInt8} {more : List Token}

theorem exists_valueStart {b : UInt8} {token : Token} (h : Spaced ((b :: token) :: more) text)
    (hb : isBlank b = false) :
    ∃ rest, valueStart text = .ok (b, b :: (token ++ rest)) ∧ Spaced more rest := by
  obtain ⟨rest, hblanks, hrest⟩ := h.exists_skipBlanks hb
  exact ⟨rest, bind_of_ok hblanks, hrest⟩

/-! ### Numbers -/

section Numbers

variable {n limit : Nat}

/-- The number that a natural number without point and exponent writes. -/
def Value.natural? : Value → Option Nat
  | number ⟨false, n, [], none⟩ => some n
  | _ => none

/-- The value for a number below a limit. -/
def ofNatural? {α : Type} (limit : Nat) (make : Nat → α) (value : Value) : Option α :=
  value.natural?.bind fun n => if n < limit then some (make n) else none

theorem fill_lt {value : Nat} (h : value < limit) (digits : List UInt8) :
    (fill limit value digits).1 < limit := by
  induction digits generalizing value with
  | nil => exact h
  | cons b digits ih =>
    rw [fill]
    split
    · next hfits => exact ih hfits
    · exact h

/-- Not all digits of a number fit below a limit that it reaches. -/
theorem fill_decimal_ne_nil (hlimit : 0 < limit) (hn : limit ≤ n) :
    (fill limit 0 (decimal n)).2 ≠ [] := by
  intro hnil
  obtain ⟨taken, hdigits, hvalue⟩ := fill_eq limit 0 (decimal n)
  have hlt := fill_lt hlimit (decimal n)
  rw [hnil, List.append_nil] at hdigits
  rw [hvalue, ← hdigits, foldl_decimal] at hlt
  omega

/-- A number that does not fit into 64 bits is a double, unless it is refused as too large. -/
theorem readNumber_of_le (hn : Nat.pow 2 64 ≤ n) (h : Delimited rest) :
    (∃ fault, Reader.number (decimal n ++ rest) = .error fault) ∨
      ∃ x, Reader.number (decimal n ++ rest) = .ok (.float x, rest) := by
  have hleft := fill_decimal_ne_nil (by decide) hn
  have hnumber : (Numeral.mk false (decimal n) [] none).number =
      Number.float <$> (Numeral.mk false (decimal n) [] none).float := by
    simp [Numeral.number, hleft]
  rw [Reader.number, bind_of_ok (numeral_decimal .endOfValue n h), hnumber]
  cases (Numeral.mk false (decimal n) [] none).float with
  | error unread => exact Or.inl ⟨_, rfl⟩
  | ok x => exact Or.inr ⟨x, rfl⟩

/-- A number is read if it is below the limit, and else refused. -/
theorem yields_natural (expected : String) (hlimit : limit ≤ Nat.pow 2 64)
    (htext : Spaced (decimal n :: more) text) (hmore : Ends more) :
    Yields (natural expected limit) text (if n < limit then some n else none) more := by
  obtain ⟨first, digits, hdigits, hfirst, _⟩ := exists_decimal_eq n
  rw [hdigits] at htext
  obtain ⟨rest, hstart, hrest⟩ :=
    exists_valueStart htext (isBlank_of_isStart (isStart_of_isDigit hfirst))
  have hdelimited := hrest.delimited hmore
  rw [← List.cons_append, ← hdigits] at hstart
  rw [natural]
  refine .of_ok hstart ?_
  rw [if_pos (by simp [hfirst])]
  by_cases h64 : n < Nat.pow 2 64
  · refine .of_ok (readNumber_decimal h64 hdelimited) ?_
    by_cases hn : n < limit
    · have hrange : (0 : Int) ≤ n ∧ (n : Int) < limit :=
        ⟨Int.natCast_nonneg n, by exact_mod_cast hn⟩
      simp only [if_pos hn, if_pos hrange, Int.toNat_natCast]
      exact ⟨rest, rfl, hrest⟩
    · have hrange : ¬((0 : Int) ≤ n ∧ (n : Int) < limit) := by
        intro h
        exact hn (by exact_mod_cast h.2)
      simp only [if_neg hn, if_neg hrange]
      exact ⟨_, rfl⟩
  · have hn : ¬n < limit := fun hn => h64 (Nat.lt_of_lt_of_le hn hlimit)
    rw [if_neg hn]
    rcases readNumber_of_le (Nat.le_of_not_lt h64) hdelimited with ⟨fault, hfault⟩ | ⟨x, hx⟩
    · exact .of_refuse (bind_of_error hfault)
    · exact .of_ok hx ⟨_, rfl⟩

/-- The literals of a number type are the natural numbers, of any size. -/
abbrev Literal.ofNatural {α : Type} (limit : Nat) (make : Nat → α) : Literal α where
  Fits value := ∃ n, value = plain n
  value? := ofNatural? limit make

theorem yields_ofNatural {α : Type} {make : Nat → α} {value : Value} (expected : String)
    (hlimit : limit ≤ Nat.pow 2 64) (hfits : ∃ n, value = plain n)
    (htext : Spaced (value.tokens ++ more) text) (hmore : Ends more) :
    Yields (make <$> natural expected limit) text (ofNatural? limit make value) more := by
  obtain ⟨n, rfl⟩ := hfits
  have htoken : (plain n).tokens = [decimal n] := by
    simp [plain, tokens, Figure.token, Figure.fractionBytes]
  have hvalue :
      ofNatural? limit make (plain n) = (if n < limit then some n else none).map make := by
    show (if n < limit then some (make n) else none) = _
    split <;> rfl
  rw [htoken] at htext
  rw [hvalue]
  exact (yields_natural expected hlimit htext hmore).map make

end Numbers

instance : Literal UInt8 := .ofNatural (Nat.pow 2 8) UInt8.ofNat

instance : Literal UInt16 := .ofNatural (Nat.pow 2 16) UInt16.ofNat

instance : Literal UInt32 := .ofNatural (Nat.pow 2 32) UInt32.ofNat

instance : Literal UInt64 := .ofNatural (Nat.pow 2 64) UInt64.ofNat

instance : LawfulLiteral UInt8 where
  yields_read := yields_ofNatural "u8" (by decide)

instance : LawfulLiteral UInt16 where
  yields_read := yields_ofNatural "u16" (by decide)

instance : LawfulLiteral UInt32 where
  yields_read := yields_ofNatural "u32" (by decide)

instance : LawfulLiteral UInt64 where
  yields_read := yields_ofNatural "usize" (by decide)

/-! ### Truth values -/

instance : Literal Bool where
  Fits value := ∃ b, value = Value.boolean b
  value?
    | Value.boolean b => some b
    | _ => none

instance : LawfulLiteral Bool where
  yields_read {value text more} hfits htext hmore := by
    obtain ⟨b, rfl⟩ := hfits
    show Yields Reader.boolean text (some b) more
    cases b with
    | true =>
      obtain ⟨rest, hstart, hrest⟩ := exists_valueStart htext rfl
      exact .of_ok hstart ⟨rest, rfl, hrest⟩
    | false =>
      obtain ⟨rest, hstart, hrest⟩ := exists_valueStart htext rfl
      exact .of_ok hstart ⟨rest, rfl, hrest⟩

/-! ### Lists -/

section Lists

/-- An element of a list is told from its end. -/
theorem yields_elementFollows {first : Bool} {b : UInt8} {token : Token}
    (htext : Spaced (separator first ++ (b :: token) :: more) text) (hb : isStart b = true) :
    Yields (elementFollows first) text (some true) ((b :: token) :: more) := by
  have hblank := isBlank_of_isStart hb
  have hne := ne_closeList_of_isStart hb
  cases first with
  | true =>
    refine .of_peek htext hblank fun rest hrest => ?_
    simp only [if_neg hne, if_true]
    exact ⟨_, rfl, hrest.tight⟩
  | false =>
    have hother : comma ≠ closeList := by decide
    refine .of_peek htext rfl fun inner hinner => ?_
    simp only [if_neg hother, Bool.false_eq_true, if_false, if_true]
    refine .of_advance (.of_peek hinner hblank fun rest hrest => ?_)
    simp only [if_neg hne]
    exact ⟨_, rfl, hrest.tight⟩

theorem yields_endList (htext : Spaced ([closeList] :: more) text) :
    Yields endList text (some ()) more :=
  .of_peek htext rfl fun rest hrest => ⟨rest, rfl, hrest⟩

theorem elementTokens_concat (first : Bool) (values : List Value) (value : Value) :
    elementTokens first (values ++ [value]) =
      elementTokens first values ++ (separator (first && values.isEmpty) ++ value.tokens) := by
  induction values generalizing first with
  | nil => simp [elementTokens]
  | cons head values ih =>
    rw [List.cons_append, elementTokens, elementTokens, ih]
    simp

variable {α : Type} [Literal α] {n : Nat}

/-- The list of fixed length that literals stand for. -/
def vector? (n : Nat) (values : List Value) : Option (Vector α n) :=
  (values.mapM (Literal.value? (α := α))).bind fun xs =>
    if h : xs.length = n then some ⟨xs.toArray, h⟩ else none

theorem vector?_concat (values : List Value) (value : Value) :
    (vector? (n + 1) (values ++ [value]) : Option (Vector α (n + 1))) =
      (vector? n values).bind fun before => (Literal.value? value).map before.push := by
  rw [vector?, vector?]
  simp only [List.mapM_append, List.mapM_cons, List.mapM_nil]
  cases values.mapM (Literal.value? (α := α)) with
  | none => simp
  | some xs =>
    cases Literal.value? (α := α) value with
    | none => simp
    | some x =>
      by_cases hn : xs.length = n
      · simp [hn]
      · simp [hn]

variable [Wire α] [LawfulLiteral α]

/-- Literals are read one after the other, up to the first that is out of range. -/
theorem yields_elements (total : Nat) {values : List Value} (hlength : values.length = n)
    (hfits : ∀ value ∈ values, Literal.Fits α value)
    (htext : Spaced (elementTokens true values ++ more) text) (hmore : n ≠ 0 → Ends more) :
    Yields (Reader.elements total n : Reader (Vector α n)) text (vector? n values) more := by
  -- the reader comes to the last element when it has read those before it
  induction n generalizing values more with
  | zero =>
    obtain rfl := List.eq_nil_of_length_eq_zero hlength
    exact ⟨text, rfl, htext⟩
  | succ n ih =>
    obtain ⟨before, value, rfl⟩ : ∃ before value, values = before ++ [value] := by
      rcases List.eq_nil_or_concat values with rfl | ⟨before, value, rfl⟩
      · cases hlength
      · exact ⟨before, value, List.concat_eq_append⟩
    have hbefore : before.length = n := by simpa using hlength
    have hempty : before.isEmpty = (n == 0) := by
      cases before with
      | nil => simp [← hbefore]
      | cons head before => simp [← hbefore]
    rw [List.forall_mem_append, List.forall_mem_singleton] at hfits
    rw [elementTokens_concat, Bool.true_and, hempty, List.append_assoc, List.append_assoc] at htext
    obtain ⟨b, token, tokens, htokens, hb⟩ := start_tokens value
    have hends : n ≠ 0 → Ends (separator (n == 0) ++ (value.tokens ++ more)) := by
      intro hn
      simp [Ends, separator, hn]
    have hread := ih hbefore hfits.1 htext hends
    rw [vector?_concat, Reader.elements]
    refine hread.bind fun u hu rest hrest => ?_
    rw [htokens] at hrest
    obtain ⟨left, hfollows, hleft⟩ := yields_elementFollows hrest hb
    have hvalue : Spaced (value.tokens ++ more) left := by
      rw [htokens]
      exact hleft
    refine .of_ok hfollows ?_
    rw [if_pos rfl]
    exact (LawfulLiteral.yields_read hfits.2 hvalue (hmore (Nat.succ_ne_zero n))).map u.push

end Lists

instance {α : Type} {n : Nat} [Literal α] : Literal (Vector α n) where
  Fits value := ∃ values, value = list values ∧ values.length = n ∧
    ∀ element ∈ values, Literal.Fits α element
  value?
    | list values => vector? n values
    | _ => none

instance {α : Type} {n : Nat} [Wire α] [Literal α] [LawfulLiteral α] :
    LawfulLiteral (Vector α n) where
  yields_read {value text more} hfits htext hmore := by
    obtain ⟨values, rfl, hlength, hvalues⟩ := hfits
    rw [tokens_list_append] at htext
    obtain ⟨rest, hstart, hrest⟩ := exists_valueStart htext rfl
    have hends : n ≠ 0 → Ends ([closeList] :: more) := fun _ => ends_elementTokens more []
    have helements : Yields (Reader.elements n n : Reader (Vector α n)) rest (vector? n values)
        ([closeList] :: more) := yields_elements n hlength hvalues hrest hends
    refine .of_ok hstart ?_
    rw [if_pos rfl]
    exact .of_advance (helements.followed fun left hleft => yields_endList hleft)

end DrinkMixer.Json
