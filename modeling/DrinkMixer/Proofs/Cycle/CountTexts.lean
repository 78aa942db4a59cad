import DrinkMixer.Proofs.Cycle.Count
import Mathlib.Data.Nat.Digits.Defs

/-!
# The texts of repeat counts

A text is a repeat count if what is left of it without the blanks around it writes a number of 32
bits: decimal digits, with zeros in front of them or not, and in front of those at most one plus
sign. Here the blanks are listed one by one and digits are read by their places, so that neither
follows how a text is scanned.

Main statements: `trims_iff`, there is one way to leave out the blanks around a text, and
`ofText_writes`, which texts are repeat counts and of which number, and what is reported for the
others.
-/

namespace DrinkMixer

/-! ### Texts without the blanks around them -/

namespace Text

/-- The code points with the Unicode property `White_Space`. -/
def whiteSpace : List Nat :=
  [0x0009, 0x000A, 0x000B, 0x000C, 0x000D, 0x0020, 0x0085, 0x00A0, 0x1680, 0x2000, 0x2001, 0x2002,
    0x2003, 0x2004, 0x2005, 0x2006, 0x2007, 0x2008, 0x2009, 0x200A, 0x2028, 0x2029, 0x202F, 0x205F,
    0x3000]

theorem isBlank_iff {c : Char} : isBlank c = true ↔ c.toNat ∈ whiteSpace := by
  simp only [isBlank, whiteSpace, Bool.or_eq_true, Bool.and_eq_true, decide_eq_true_eq,
    beq_iff_eq, List.mem_cons, List.not_mem_nil, or_false]
  omega

/-- A text consists of a core and blanks around it, and no blank is left at either end of the
core. -/
structure Trims (text core : List Char) : Prop where
  around : ∃ before after, text = before ++ (core ++ after) ∧
    ∀ c ∈ before ++ after, c.toNat ∈ whiteSpace
  first : ∀ c ∈ core.head?, c.toNat ∉ whiteSpace
  last : ∀ c ∈ core.getLast?, c.toNat ∉ whiteSpace

/-- What is left behind the blanks in front of a text does not begin with one. -/
theorem not_isBlank_of_mem_head? {cs : List Char} {c : Char}
    (h : c ∈ (cs.dropWhile isBlank).head?) : ¬isBlank c = true := by
  have hfirst := List.head?_dropWhile_not isBlank cs
  rw [Option.mem_def] at h
  rw [h] at hfirst
  simpa using hfirst

theorem trims_trimmed (cs : List Char) : Trims cs (trimmed cs) := by
  let behind := ((cs.dropWhile isBlank).reverse.takeWhile isBlank).reverse
  have hfront : cs.dropWhile isBlank = trimmed cs ++ behind := by
    rw [trimmed, ← List.reverse_append, List.takeWhile_append_dropWhile, List.reverse_reverse]
  refine ⟨⟨cs.takeWhile isBlank, behind, ?_, ?_⟩, ?_, ?_⟩
  · rw [← hfront, List.takeWhile_append_dropWhile]
  · simp only [← isBlank_iff]
    rw [List.forall_mem_append]
    exact ⟨fun c hc => List.mem_takeWhile_imp hc, fun c hc =>
      List.mem_takeWhile_imp (List.mem_reverse.mp hc)⟩
  · intro c hc
    have hfirst : c ∈ (cs.dropWhile isBlank).head? := by
      rw [hfront, List.head?_append, Option.mem_def.mp hc]
      rfl
    rw [← isBlank_iff]
    exact not_isBlank_of_mem_head? hfirst
  · intro c hc
    have hlast : c ∈ ((cs.dropWhile isBlank).reverse.dropWhile isBlank).head? := by
      rwa [trimmed, List.getLast?_reverse] at hc
    rw [← isBlank_iff]
    exact not_isBlank_of_mem_head? hlast

/-- Blanks in front are dropped up to the first character that is none. -/
theorem dropWhile_isBlank_append {blanks cs : List Char} (hblanks : ∀ c ∈ blanks, isBlank c = true)
    (hfirst : ∀ c ∈ cs.head?, ¬isBlank c = true) : (blanks ++ cs).dropWhile isBlank = cs := by
  rw [List.dropWhile_append_of_pos hblanks]
  cases cs with
  | nil => rfl
  | cons c rest => exact List.dropWhile_cons_of_neg (hfirst c rfl)

/-- There is one way to leave out the blanks around a text. -/
theorem trims_iff {text core : List Char} : Trims text core ↔ core = trimmed text := by
  refine ⟨fun h => ?_, fun h => h ▸ trims_trimmed text⟩
  obtain ⟨⟨before, after, rfl, haround⟩, hfirst, hlast⟩ := h
  simp only [← isBlank_iff] at haround hfirst hlast
  rw [List.forall_mem_append] at haround
  obtain ⟨hbefore, hafter⟩ := haround
  -- an empty core leaves nothing but blanks, which are all dropped from the front
  cases core with
  | nil =>
    have hdrop : (before ++ ([] ++ after)).dropWhile isBlank = [] := by
      rw [List.nil_append, List.dropWhile_append_of_pos hbefore]
      exact List.dropWhile_eq_nil_iff.mpr hafter
    rw [trimmed, hdrop]
    rfl
  | cons c rest =>
    have hdrop : (before ++ (c :: rest ++ after)).dropWhile isBlank = c :: rest ++ after :=
      dropWhile_isBlank_append hbefore hfirst
    have hreverse : (after.reverse ++ (c :: rest).reverse).dropWhile isBlank =
        (c :: rest).reverse := by
      refine dropWhile_isBlank_append (fun d hd => hafter d (List.mem_reverse.mp hd)) ?_
      rwa [List.head?_reverse]
    rw [trimmed, hdrop, List.reverse_append, hreverse, List.reverse_reverse]

end Text

/-! ### Numbers that are written -/

namespace RepeatCount

/-- One or more decimal digits, the first of which counts most, write a number. -/
inductive Decimal : List Char → Nat → Prop
  | digits (places : List Nat) (nonempty : places ≠ []) (decimal : ∀ place ∈ places, place < 10) :
    Decimal (places.reverse.map Nat.digitChar) (Nat.ofDigits 10 places)

/-- A number is written by its digits, with one plus sign in front or none. -/
inductive Writes : List Char → Nat → Prop
  | plain {cs : List Char} {n : Nat} (decimal : Decimal cs n) : Writes cs n
  | signed {cs : List Char} {n : Nat} (decimal : Decimal cs n) : Writes ('+' :: cs) n

theorem digitChar_of_isDigit {c : Char} (h : isDigit c = true) :
    c.toNat - 0x30 < 10 ∧ Nat.digitChar (c.toNat - 0x30) = c := by
  simp only [isDigit, Bool.and_eq_true, decide_eq_true_eq] at h
  refine ⟨by omega, ?_⟩
  rw [← Char.toNat_inj, Nat.toNat_digitChar_of_lt_ten (by omega)]
  omega

/-- Reading digits from the first one on gives the number that their places make. -/
theorem value_map_digitChar {places : List Nat} (h : ∀ place ∈ places, place < 10) :
    value (places.reverse.map Nat.digitChar) = Nat.ofDigits 10 places := by
  induction places with
  | nil => rfl
  | cons place rest ih =>
    obtain ⟨hplace, hrest⟩ := List.forall_mem_cons.mp h
    have hvalue := ih hrest
    rw [value] at hvalue ⊢
    rw [List.reverse_cons, List.map_append, List.foldl_append, hvalue, Nat.ofDigits_cons]
    simp [Nat.toNat_digitChar_of_lt_ten hplace]
    omega

theorem decimal_iff {cs : List Char} {n : Nat} :
    Decimal cs n ↔ cs ≠ [] ∧ (∀ c ∈ cs, isDigit c = true) ∧ value cs = n := by
  constructor
  · rintro ⟨places, nonempty, decimal⟩
    refine ⟨by simpa using nonempty, ?_, value_map_digitChar decimal⟩
    intro c hc
    obtain ⟨place, hplace, rfl⟩ := List.mem_map.mp hc
    have hlt := decimal place (List.mem_reverse.mp hplace)
    simp only [isDigit, Bool.and_eq_true, decide_eq_true_eq, Nat.toNat_digitChar_of_lt_ten hlt]
    omega
  · rintro ⟨hne, hdigits, rfl⟩
    let places := (cs.map fun c => c.toNat - 0x30).reverse
    have hplaces : ∀ place ∈ places, place < 10 := by
      intro place hplace
      obtain ⟨c, hc, rfl⟩ := List.mem_map.mp (List.mem_reverse.mp hplace)
      exact (digitChar_of_isDigit (hdigits c hc)).1
    have hcs : places.reverse.map Nat.digitChar = cs := by
      rw [List.reverse_reverse, List.map_map]
      exact (List.map_congr_left fun c hc => (digitChar_of_isDigit (hdigits c hc)).2).trans
        (List.map_id cs)
    have hwritten := Decimal.digits places (by simpa [places] using hne) hplaces
    rwa [← value_map_digitChar hplaces, hcs] at hwritten

/-- A plus sign is no digit, so there is one way to tell it from them. -/
theorem writes_iff {core : List Char} {n : Nat} : Writes core n ↔ Decimal (unsigned core) n := by
  constructor
  · rintro (decimal | decimal)
    · rwa [unsigned_of_forall (decimal_iff.mp decimal).2.1]
    · exact decimal
  · intro h
    unfold unsigned at h
    split at h
    · exact .signed h
    · exact .plain h

/-- A trimmed text is a count if it writes a number of 32 bits. -/
theorem ofTrimmed?_eq_some_iff {core : List Char} {count : UInt32} :
    ofTrimmed? core = some count ↔ Writes core count.toNat := by
  rw [writes_iff, decimal_iff, ofTrimmed?]
  have hcount : value (unsigned core) = count.toNat ↔
      value (unsigned core) < 2 ^ 32 ∧ UInt32.ofNat (value (unsigned core)) = count := by
    constructor
    · intro hvalue
      rw [hvalue, UInt32.ofNat_toNat]
      exact ⟨count.toNat_lt, rfl⟩
    · rintro ⟨hlt, rfl⟩
      exact (UInt32.toNat_ofNat_of_lt' hlt).symm
  rw [hcount]
  simp [and_assoc]

theorem ofTrimmed?_eq_none_iff {core : List Char} :
    ofTrimmed? core = none ↔ ∀ n, Writes core n → 2 ^ 32 ≤ n := by
  rw [Option.eq_none_iff_forall_ne_some]
  simp only [ne_eq, ofTrimmed?_eq_some_iff]
  constructor
  · intro hnone n hwrites
    by_contra hlt
    refine hnone (UInt32.ofNat n) ?_
    rwa [UInt32.toNat_ofNat_of_lt' (Nat.lt_of_not_le hlt)]
  · intro hlarge count hwrites
    exact absurd (hlarge _ hwrites) (Nat.not_le_of_lt count.toNat_lt)

/-- A text is a repeat count exactly if its core writes a number of 32 bits, and it is that number.
Every other text is reported as it stands, with the blanks around it. -/
theorem ofText_writes (text : String) :
    ∃ core, (∀ other, Text.Trims text.toList other ↔ other = core) ∧
      (∀ count, ofText text = .ok count ↔ Writes core count.toNat) ∧
      ∀ failure, ofText text = .error failure ↔
        failure = .invalidCount text ∧ ∀ n, Writes core n → 2 ^ 32 ≤ n := by
  refine ⟨Text.trimmed text.toList, fun _ => Text.trims_iff, ?_, ?_⟩
  · intro count
    rw [← ofTrimmed?_eq_some_iff, ofText]
    cases ofTrimmed? (Text.trimmed text.toList) <;> simp
  · intro failure
    rw [← ofTrimmed?_eq_none_iff, ofText]
    cases ofTrimmed? (Text.trimmed text.toList) <;> simp [eq_comm]

example : ofText "\u3000+007\n" = .ok 7 := rfl

end RepeatCount

end DrinkMixer
