import DrinkMixer.Json.Wire

/-!
# Values read back

What is written of a value is read back as that value wherever it stands in a document, that is, up
to a blank, to a comma, to a bracket that closes or to the end (`Delimited`). Types of which this
holds are `LawfulWire`: the numbers of fixed width, the truth values, and lists of such values.

Main statements: `natural_decimal`, a number is read back from its digits, and `elements_append`, a
list from its elements.
-/

namespace DrinkMixer.Json

/-- What can follow a value: a blank, a comma or a bracket that closes, or nothing. -/
def Delimited (rest : List UInt8) : Prop :=
  ∀ b ∈ rest.head?, isBlank b = true ∨ b = comma ∨ b = closeList ∨ b = closeObject

theorem delimited_nil : Delimited [] := by
  simp [Delimited]

theorem delimited_comma (rest : List UInt8) : Delimited (comma :: rest) := by
  simp [Delimited]

theorem delimited_closeList (rest : List UInt8) : Delimited (closeList :: rest) := by
  simp [Delimited]

theorem delimited_closeObject (rest : List UInt8) : Delimited (closeObject :: rest) := by
  simp [Delimited]

/-- A byte of another kind does not follow a value. -/
theorem Delimited.head?_ne {rest : List UInt8} {b : UInt8} (h : Delimited rest)
    (hb : isBlank b = false ∧ b ≠ comma ∧ b ≠ closeList ∧ b ≠ closeObject) :
    rest.head? ≠ some b := by
  intro hhead
  rcases h b hhead with hblank | rfl | rfl | rfl
  · rw [hb.1] at hblank
    cases hblank
  · exact hb.2.1 rfl
  · exact hb.2.2.1 rfl
  · exact hb.2.2.2 rfl

/-- Whether a value can begin with a byte, also as the first element of a list. -/
def isStart (b : UInt8) : Bool :=
  !isBlank b && b != closeList

/-- Types whose values are read back from what is written of them. -/
class LawfulWire (α : Type) [Wire α] : Prop where
  read_write (value : α) {rest : List UInt8} (h : Delimited rest) :
    (Wire.read : Reader α) (Wire.write value ++ rest) = .ok (value, rest)
  /-- Something is written, and it cannot be taken for the end of a list. -/
  start (value : α) : ∃ b more, Wire.write value = b :: more ∧ isStart b = true
  /-- Nothing but ASCII is written. -/
  ascii (value : α) : ∀ b ∈ Wire.write value, b < 0x80

/-! ### Steps of readers -/

namespace Reader

section Steps

variable {α β : Type} {p : Reader α} {f : α → Reader β} {document rest : List UInt8} {value : α}
  {b : UInt8}

/-- What follows a step that succeeds goes on with what that step left. -/
theorem bind_of_ok (h : p document = .ok (value, rest)) : (p >>= f) document = f value rest := by
  show (p document >>= fun (value, rest) => f value rest) = _
  rw [h]
  rfl

theorem map_of_ok {g : α → β} (h : p document = .ok (value, rest)) :
    (g <$> p) document = .ok (g value, rest) := by
  show (p document >>= fun (value, rest) => .ok (g value, rest)) = _
  rw [h]
  rfl

theorem skipBlanks_cons (h : isBlank b = false) :
    skipBlanks (b :: rest) = .ok ((), b :: rest) := by
  rw [skipBlanks, List.dropWhile_cons_of_neg (by simp [h])]

theorem valueStart_cons (h : isBlank b = false) :
    valueStart (b :: rest) = .ok (b, b :: rest) :=
  bind_of_ok (skipBlanks_cons h)

/-- A byte that does not come next is not taken. -/
theorem accept_of_ne (h : rest.head? ≠ some b) : accept b rest = .ok (false, rest) := by
  have hpeek : peek? rest = .ok (rest.head?, rest) := rfl
  rw [accept, bind_of_ok hpeek, if_neg h]
  rfl

end Steps

end Reader

open Reader

/-! ### Numbers -/

section Numbers

variable {n limit : Nat} {rest : List UInt8} {b : UInt8}

theorem isDigit_iff : isDigit b = true ↔ 0x30 ≤ b.toNat ∧ b.toNat ≤ 0x39 := by
  simp [isDigit, UInt8.le_iff_toNat_le]

theorem isDigit_ofNat (h : n < 10) : isDigit (0x30 + UInt8.ofNat n) = true := by
  rw [isDigit_iff, UInt8.toNat_add, UInt8.toNat_ofNat']
  simp
  omega

/-- A value can begin with a digit. -/
theorem isStart_of_isDigit (h : isDigit b = true) : isStart b = true := by
  have hne : ∀ c, isDigit c = false → b ≠ c := by
    rintro c hc rfl
    rw [h] at hc
    cases hc
  simp [isStart, isBlank, hne 0x20 rfl, hne 0x09 rfl, hne 0x0A rfl, hne 0x0D rfl,
    hne closeList rfl]

theorem isBlank_of_isStart (h : isStart b = true) : isBlank b = false := by
  simp only [isStart, Bool.and_eq_true, Bool.not_eq_true'] at h
  exact h.1

theorem ne_closeList_of_isStart (h : isStart b = true) : b ≠ closeList := by
  rintro rfl
  cases h

theorem isDigit_of_mem_decimal (h : b ∈ decimal n) : isDigit b = true := by
  fun_induction decimal n with
  | case1 n hn =>
    rw [List.mem_singleton.mp h]
    exact isDigit_ofNat hn
  | case2 n hn ih =>
    rcases List.mem_append.mp h with hmore | hlast
    · exact ih hmore
    · rw [List.mem_singleton.mp hlast]
      exact isDigit_ofNat (Nat.mod_lt n (by decide))

/-- A number begins with a digit, and a zero in front of others is none of its digits. -/
theorem exists_decimal_eq (n : Nat) :
    ∃ first more, decimal n = first :: more ∧ isDigit first = true ∧
      (first = 0x30 → more = []) := by
  fun_induction decimal n with
  | case1 n hn => exact ⟨_, [], rfl, isDigit_ofNat hn, fun _ => rfl⟩
  | case2 n hn ih =>
    obtain ⟨first, more, hdigits, hdigit, hzero⟩ := ih
    have hsplit : decimal (n / 10) ++ [0x30 + UInt8.ofNat (n % 10)] =
        first :: (more ++ [0x30 + UInt8.ofNat (n % 10)]) := by
      rw [hdigits, List.cons_append]
    refine ⟨first, _, hsplit, hdigit, ?_⟩
    intro hfirst
    -- a leading zero would be all of the tenth part, which is not zero
    have hvalue := foldl_decimal (n / 10)
    rw [hdigits, hzero hfirst, hfirst] at hvalue
    have htenth : n / 10 = 0 := hvalue.symm
    omega

theorem isDigit_eq_false_of_isBlank (h : isBlank b = true) : isDigit b = false := by
  simp only [isBlank, Bool.or_eq_true, beq_iff_eq] at h
  rcases h with ((rfl | rfl) | rfl) | rfl <;> rfl

theorem Delimited.isDigit_eq_false (h : Delimited rest) : rest.head?.any isDigit = false := by
  cases rest with
  | nil => rfl
  | cons b rest =>
    rcases h b rfl with hblank | rfl | rfl | rfl
    · exact isDigit_eq_false_of_isBlank hblank
    · rfl
    · rfl
    · rfl

/-- All the digits are taken up to a byte that is none. -/
theorem digits_append {ds : List UInt8} (hds : ∀ b ∈ ds, isDigit b = true)
    (h : rest.head?.any isDigit = false) : digits (ds ++ rest) = .ok (ds, rest) := by
  have hstop : rest.takeWhile isDigit = [] ∧ rest.dropWhile isDigit = rest := by
    cases rest with
    | nil => exact ⟨rfl, rfl⟩
    | cons b rest =>
      have hb : isDigit b = false := by simpa using h
      simp [hb]
  rw [digits, List.takeWhile_append_of_pos hds, List.dropWhile_append_of_pos hds, hstop.1,
    hstop.2, List.append_nil]

/-- The digits of a number make up the part before the point. -/
theorem wholePart_decimal (cause : Cause) (n : Nat) (h : rest.head?.any isDigit = false) :
    wholePart cause (decimal n ++ rest) = .ok (decimal n, rest) := by
  obtain ⟨first, more, hdigits, _, hzero⟩ := exists_decimal_eq n
  have hall : ∀ b ∈ first :: more, isDigit b = true := by
    rw [← hdigits]
    exact fun b => isDigit_of_mem_decimal
  rw [List.forall_mem_cons] at hall
  have hfirst : byte cause (first :: (more ++ rest)) = .ok (first, more ++ rest) := rfl
  have hpeek : peek? (more ++ rest) = .ok ((more ++ rest).head?, more ++ rest) := rfl
  have hlone : (first = 0x30 && (more ++ rest).head?.any isDigit) = false := by
    by_cases hf : first = 0x30
    · rw [hzero hf, List.nil_append, h, Bool.and_false]
    · simp [hf]
  rw [hdigits, List.cons_append, wholePart, bind_of_ok hfirst, if_pos hall.1, bind_of_ok hpeek,
    if_neg (by rw [hlone]; exact Bool.false_ne_true), bind_of_ok (digits_append hall.2 h)]
  rfl

theorem fractionPart_of_delimited (cause : Cause) (h : Delimited rest) :
    fractionPart cause rest = .ok ([], rest) := by
  have hpoint : accept 0x2E rest = .ok (false, rest) := accept_of_ne (h.head?_ne (by decide))
  rw [fractionPart, bind_of_ok hpoint]
  rfl

theorem exponentPart_of_delimited (cause : Cause) (h : Delimited rest) :
    exponentPart cause rest = .ok (none, rest) := by
  have hlower : accept 0x65 rest = .ok (false, rest) := accept_of_ne (h.head?_ne (by decide))
  have hupper : accept 0x45 rest = .ok (false, rest) := accept_of_ne (h.head?_ne (by decide))
  have hletter : acceptExponent rest = .ok (false, rest) := by
    rw [acceptExponent, bind_of_ok hlower]
    exact hupper
  rw [exponentPart, bind_of_ok hletter]
  rfl

/-- The digits of a number are read as a numeral without sign, point and exponent. -/
theorem numeral_decimal (cause : Cause) (n : Nat) (h : Delimited rest) :
    numeral cause (decimal n ++ rest) = .ok (⟨false, decimal n, [], none⟩, rest) := by
  have hsign : accept minus (decimal n ++ rest) = .ok (false, decimal n ++ rest) := by
    obtain ⟨first, more, hdigits, hfirst, _⟩ := exists_decimal_eq n
    apply accept_of_ne
    rw [hdigits]
    rintro ⟨⟩
    exact absurd hfirst (by decide)
  rw [numeral, bind_of_ok hsign, bind_of_ok (wholePart_decimal cause n h.isDigit_eq_false),
    bind_of_ok (fractionPart_of_delimited cause h), bind_of_ok (exponentPart_of_delimited cause h)]
  rfl

/-- Appending digits does not make a number smaller. -/
theorem le_foldl_digits (value : Nat) (ds : List UInt8) :
    value ≤ ds.foldl (fun value b => 10 * value + digitValue b) value := by
  induction ds generalizing value with
  | nil => exact Nat.le_refl value
  | cons b ds ih =>
    have hmore := ih (10 * value + digitValue b)
    rw [List.foldl_cons]
    omega

/-- All digits of a number below the limit fit. -/
theorem fill_of_lt {value : Nat} {ds : List UInt8}
    (h : ds.foldl (fun value b => 10 * value + digitValue b) value < limit) :
    fill limit value ds = (ds.foldl (fun value b => 10 * value + digitValue b) value, []) := by
  induction ds generalizing value with
  | nil => rfl
  | cons b ds ih =>
    rw [List.foldl_cons] at h
    have hfits := Nat.lt_of_le_of_lt (le_foldl_digits _ ds) h
    rw [fill, if_pos hfits, ih h, List.foldl_cons]

/-- The digits of a number of 64 bits mean that number. -/
theorem number_decimal (h : n < Nat.pow 2 64) :
    (Numeral.mk false (decimal n) [] none).number = .ok (.integer n) := by
  have hvalue := foldl_decimal n
  have hfill : fill (Nat.pow 2 64) 0 (decimal n) = (n, []) := by
    rw [fill_of_lt (by rw [hvalue]; exact h), hvalue]
  simp [Numeral.number, hfill]

theorem readNumber_decimal (hn : n < Nat.pow 2 64) (h : Delimited rest) :
    Reader.number (decimal n ++ rest) = .ok (.integer n, rest) := by
  rw [Reader.number, bind_of_ok (numeral_decimal .endOfValue n h), number_decimal hn]
  rfl

/-- A number is read back from its digits. -/
theorem natural_decimal (expected : String) (hlimit : limit ≤ Nat.pow 2 64) (hn : n < limit)
    (h : Delimited rest) : natural expected limit (decimal n ++ rest) = .ok (n, rest) := by
  obtain ⟨first, more, hdigits, hfirst, _⟩ := exists_decimal_eq n
  have hblank : isBlank first = false := isBlank_of_isStart (isStart_of_isDigit hfirst)
  have hnumber := readNumber_decimal (Nat.lt_of_lt_of_le hn hlimit) h
  have hstart : valueStart (decimal n ++ rest) = .ok (first, decimal n ++ rest) := by
    rw [hdigits]
    exact valueStart_cons hblank
  have hrange : (0 : Int) ≤ n ∧ (n : Int) < limit := ⟨Int.natCast_nonneg n, by exact_mod_cast hn⟩
  rw [natural, bind_of_ok hstart, if_pos (by simp [hfirst]), bind_of_ok hnumber]
  simp only [if_pos hrange, Int.toNat_natCast]
  rfl

/-- A value that is made from a number is read back from the digits of that number. -/
theorem map_natural_decimal {α : Type} {f : Nat → α} {value : α} (expected : String)
    (hlimit : limit ≤ Nat.pow 2 64) (hn : n < limit) (hvalue : f n = value) (h : Delimited rest) :
    (f <$> natural expected limit) (decimal n ++ rest) = .ok (value, rest) := by
  rw [map_of_ok (natural_decimal expected hlimit hn h), hvalue]

theorem start_decimal (n : Nat) :
    ∃ b more, decimal n = b :: more ∧ isStart b = true := by
  obtain ⟨first, more, hdigits, hfirst, _⟩ := exists_decimal_eq n
  exact ⟨first, more, hdigits, isStart_of_isDigit hfirst⟩

theorem ascii_decimal (n : Nat) : ∀ b ∈ decimal n, b < 0x80 := by
  intro b hb
  have hdigit := isDigit_iff.mp (isDigit_of_mem_decimal hb)
  rw [UInt8.lt_iff_toNat_lt]
  exact Nat.lt_of_le_of_lt hdigit.2 (by decide)

end Numbers

instance : LawfulWire UInt8 where
  read_write n _ h := map_natural_decimal "u8" (by decide) n.toNat_lt UInt8.ofNat_toNat h
  start n := start_decimal n.toNat
  ascii n := ascii_decimal n.toNat

instance : LawfulWire UInt16 where
  read_write n _ h := map_natural_decimal "u16" (by decide) n.toNat_lt UInt16.ofNat_toNat h
  start n := start_decimal n.toNat
  ascii n := ascii_decimal n.toNat

instance : LawfulWire UInt32 where
  read_write n _ h := map_natural_decimal "u32" (by decide) n.toNat_lt UInt32.ofNat_toNat h
  start n := start_decimal n.toNat
  ascii n := ascii_decimal n.toNat

instance : LawfulWire UInt64 where
  read_write n _ h := map_natural_decimal "usize" (Nat.le_refl _) n.toNat_lt UInt64.ofNat_toNat h
  start n := start_decimal n.toNat
  ascii n := ascii_decimal n.toNat

/-! ### Truth values -/

theorem ascii_of_all {text : List UInt8} (h : text.all (· < 0x80) = true) :
    ∀ b ∈ text, b < 0x80 := by
  intro b hb
  exact of_decide_eq_true (List.all_eq_true.mp h b hb)

instance : LawfulWire Bool where
  read_write value rest _ := by
    cases value with
    | true => rfl
    | false => rfl
  start value := by
    cases value with
    | true => exact ⟨0x74, bytes "rue", rfl, rfl⟩
    | false => exact ⟨0x66, bytes "alse", rfl, rfl⟩
  ascii value := by
    cases value with
    | true => exact ascii_of_all rfl
    | false => exact ascii_of_all rfl

/-! ### Lists -/

section Lists

variable {α : Type} {rest : List UInt8}

/-- One more part comes behind a separator, unless it is the only one. -/
theorem intercalate_concat {sep x : List α} {parts : List (List α)} (h : parts ≠ []) :
    sep.intercalate (parts ++ [x]) = sep.intercalate parts ++ (sep ++ x) := by
  induction parts with
  | nil => exact absurd rfl h
  | cons part parts ih =>
    by_cases hparts : parts = []
    · subst hparts
      simp
    · rw [List.cons_append, List.intercalate_cons_of_ne_nil (by simp), ih hparts,
        List.intercalate_cons_of_ne_nil hparts]
      simp only [List.append_assoc]

/-- The first element of a list is told from its end. -/
theorem elementFollows_first {b : UInt8} (h : isStart b = true) :
    elementFollows true (b :: rest) = .ok (true, b :: rest) := by
  have hne := ne_closeList_of_isStart h
  have hpeek : peek? (b :: rest) = .ok (some b, b :: rest) := rfl
  rw [elementFollows, bind_of_ok (skipBlanks_cons (isBlank_of_isStart h)), bind_of_ok hpeek]
  simp only [if_neg hne, if_true]
  rfl

/-- Every further element of a list is told from its end. -/
theorem elementFollows_comma {b : UInt8} (h : isStart b = true) :
    elementFollows false (comma :: b :: rest) = .ok (true, b :: rest) := by
  have hne := ne_closeList_of_isStart h
  have hcomma : skipBlanks (comma :: b :: rest) = .ok ((), comma :: b :: rest) :=
    skipBlanks_cons rfl
  have hpeek : ∀ first rest, peek? (first :: rest) = .ok (some first, first :: rest) :=
    fun _ _ => rfl
  have hadvance : advance (comma :: b :: rest) = .ok ((), b :: rest) := rfl
  have hother : comma ≠ closeList := by decide
  rw [elementFollows, bind_of_ok hcomma, bind_of_ok (hpeek comma (b :: rest))]
  simp only [if_neg hother, Bool.false_eq_true, if_false, if_true]
  rw [bind_of_ok hadvance, bind_of_ok (skipBlanks_cons (isBlank_of_isStart h)),
    bind_of_ok (hpeek b rest)]
  simp only [if_neg hne]
  rfl

variable [Wire α] [LawfulWire α] {n : Nat}

/-- One more element is read behind those before it. -/
theorem elements_push (total : Nat) (lead : List UInt8) {u : Vector α n} {x : α}
    {document : List UInt8}
    (hbefore : Reader.elements total n document = .ok (u, lead ++ (Wire.write x ++ rest)))
    (hfollows : elementFollows (n == 0) (lead ++ (Wire.write x ++ rest)) =
      .ok (true, Wire.write x ++ rest)) (h : Delimited rest) :
    Reader.elements total (n + 1) document = .ok (u.push x, rest) := by
  rw [Reader.elements, bind_of_ok hbefore, bind_of_ok hfollows, if_pos rfl,
    bind_of_ok (LawfulWire.read_write x h)]
  rfl

/-- The elements of a list of fixed length are read back. -/
theorem elements_append (total : Nat) (v : Vector α n) (h : n ≠ 0 → Delimited rest) :
    Reader.elements total n ([comma].intercalate (v.toList.map Wire.write) ++ rest) =
      .ok (v, rest) := by
  induction n generalizing rest with
  | zero =>
    obtain rfl : v = #v[] := Vector.eq_empty
    rfl
  | succ n ih =>
    obtain ⟨u, x, rfl⟩ := (Vector.exists_push : ∃ (u : Vector α n) (x : α), v = u.push x)
    obtain ⟨b, more, hwrite, hstart⟩ := LawfulWire.start x
    have hrest : Delimited rest := h (Nat.succ_ne_zero n)
    rw [Vector.toList_push, List.map_append, List.map_singleton]
    -- only the first element has no comma before it
    by_cases hn : n = 0
    · subst hn
      obtain rfl : u = #v[] := Vector.eq_empty
      have hsingle : [comma].intercalate ([].map (Wire.write (α := α)) ++ [Wire.write x]) =
          Wire.write x := by simp
      refine elements_push total [] ?_ ?_ hrest
      · show _ = Except.ok (#v[], _)
        rw [Vector.toList_empty, hsingle]
        rfl
      · rw [List.nil_append, hwrite]
        exact elementFollows_first hstart
    · have hne : u.toList.map (Wire.write (α := α)) ≠ [] := by
        simpa using hn
      refine elements_push total [comma] ?_ ?_ hrest
      · rw [intercalate_concat hne, List.append_assoc, List.append_assoc]
        exact ih u fun _ => delimited_comma _
      · rw [hwrite, beq_eq_false_iff_ne.mpr hn]
        exact elementFollows_comma hstart

end Lists

/-- What is put together with separators comes from the separator or from one of the parts. -/
theorem mem_intercalate {α : Type} {sep : List α} {parts : List (List α)} {x : α}
    (h : x ∈ sep.intercalate parts) : x ∈ sep ∨ ∃ part ∈ parts, x ∈ part := by
  induction parts with
  | nil => simp at h
  | cons part parts ih =>
    by_cases hparts : parts = []
    · subst hparts
      exact Or.inr ⟨part, List.mem_cons_self, by simpa using h⟩
    · rw [List.intercalate_cons_of_ne_nil hparts, List.mem_append, List.mem_append] at h
      rcases h with (hpart | hsep) | hmore
      · exact Or.inr ⟨part, List.mem_cons_self, hpart⟩
      · exact Or.inl hsep
      · rcases ih hmore with hsep | ⟨other, hother, hx⟩
        · exact Or.inl hsep
        · exact Or.inr ⟨other, List.mem_cons_of_mem part hother, hx⟩

/-- A list of ASCII parts is ASCII. -/
theorem ascii_intercalate {parts : List (List UInt8)} (h : ∀ part ∈ parts, ∀ b ∈ part, b < 0x80) :
    ∀ b ∈ [comma].intercalate parts, b < 0x80 := by
  intro b hb
  rcases mem_intercalate hb with hsep | ⟨part, hpart, hmem⟩
  · rw [List.mem_singleton.mp hsep]
    decide
  · exact h part hpart b hmem

instance {α : Type} {n : Nat} [Wire α] [LawfulWire α] : LawfulWire (Vector α n) where
  read_write v rest h := by
    have hdocument : Wire.write v ++ rest =
        openList :: ([comma].intercalate (v.toList.map Wire.write) ++ closeList :: rest) := by
      show listOf _ ++ rest = _
      rw [listOf, List.append_assoc]
      rfl
    have hstart : valueStart (Wire.write v ++ rest) = .ok (openList, Wire.write v ++ rest) := by
      rw [hdocument]
      exact valueStart_cons rfl
    have hadvance : advance (Wire.write v ++ rest) =
        .ok ((), [comma].intercalate (v.toList.map Wire.write) ++ closeList :: rest) := by
      rw [hdocument]
      rfl
    have helements := elements_append n v fun _ => delimited_closeList rest
    have hend : endList (closeList :: rest) = .ok ((), rest) := rfl
    show (valueStart >>= fun b => _ : Reader (Vector α n)) _ = _
    rw [bind_of_ok hstart, if_pos rfl, bind_of_ok hadvance, bind_of_ok helements, bind_of_ok hend]
    rfl
  start v := ⟨openList, _, rfl, rfl⟩
  ascii v := by
    have hparts : ∀ part ∈ v.toList.map Wire.write, ∀ b ∈ part, b < 0x80 := by
      intro part hpart
      obtain ⟨x, _, rfl⟩ := List.mem_map.mp hpart
      exact LawfulWire.ascii x
    show ∀ b ∈ openList :: _ ++ [closeList], b < 0x80
    rw [List.forall_mem_append, List.forall_mem_cons, List.forall_mem_singleton]
    exact ⟨⟨by decide, ascii_intercalate hparts⟩, by decide⟩

end DrinkMixer.Json
