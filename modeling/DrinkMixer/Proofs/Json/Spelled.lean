import DrinkMixer.Proofs.Json.Taken
import Mathlib.Data.List.Induction
import Mathlib.Data.Set.List

/-!
# What readers of numbers and texts take off a document

A number that is accepted is written as a `Figure`, and a text as a `Spelling`, whose escapes stand
for the bytes that were read (`Spelling.meaning?`). So nothing is taken for a number or a text that
is not written as one.

Main statements: `exists_figure`, `exists_spelling`, and what is taken for a natural number
(`taken_natural`), a truth value (`taken_boolean`) and the name of a member (`taken_name`).
-/

namespace DrinkMixer.Json

open Reader TextState Value

variable {text rest : List UInt8} {b : UInt8} {cause : Cause}

/-! ### Digits -/

section Digits

theorem exists_digit (h : isDigit b = true) : ∃ d, digit d = b := by
  obtain ⟨hlow, hhigh⟩ := isDigit_iff.mp h
  refine ⟨⟨b.toNat - 0x30, by omega⟩, ?_⟩
  rw [← UInt8.toNat_inj, digit, UInt8.toNat_add, UInt8.toNat_ofNat']
  simp
  omega

theorem exists_digits {ds : List UInt8} (h : ∀ b ∈ ds, isDigit b = true) :
    ∃ places : List (Fin 10), places.map digit = ds := by
  have hrange : ds ∈ Set.range (List.map digit) := by
    rw [Set.range_list_map]
    exact fun b hb => exists_digit (h b hb)
  exact hrange

/-- One more digit makes a number ten times as large. -/
theorem decimal_concat {n : Nat} (hn : n ≠ 0) (d : Fin 10) :
    decimal (10 * n + d) = decimal n ++ [digit d] := by
  have hd := d.isLt
  have hten : ¬10 * n + d < 10 := by omega
  have hdiv : (10 * n + d) / 10 = n := by omega
  have hmod : (10 * n + d) % 10 = d := by omega
  rw [decimal, if_neg hten, hdiv, hmod]
  rfl

/-- Digits are those of a number if there is no zero in front of others. -/
theorem exists_decimal {first : UInt8} {more : List UInt8}
    (h : ∀ b ∈ first :: more, isDigit b = true) (hzero : first = 0x30 → more = []) :
    ∃ n, first :: more = decimal n := by
  induction more using List.reverseRecOn with
  | nil =>
    obtain ⟨d, rfl⟩ := exists_digit (h first List.mem_cons_self)
    refine ⟨d, ?_⟩
    rw [decimal, if_pos d.isLt]
    rfl
  | append_singleton more b ih =>
    have hfirst : first ≠ 0x30 := by
      intro hfirst
      have hnil := hzero hfirst
      simp at hnil
    rw [← List.cons_append, List.forall_mem_append, List.forall_mem_singleton] at h
    obtain ⟨n, hn⟩ := ih h.1 fun hfirst' => absurd hfirst' hfirst
    obtain ⟨d, rfl⟩ := exists_digit h.2
    have hne : n ≠ 0 := by
      rintro rfl
      rw [decimal] at hn
      exact hfirst (List.cons.inj hn).1
    exact ⟨10 * n + d, by rw [decimal_concat hne, ← hn, List.cons_append]⟩

/-- All the digits that come next are taken. -/
theorem eq_of_digits {ds : List UInt8} (h : digits text = .ok (ds, rest)) :
    text = ds ++ rest ∧ (∀ b ∈ ds, isDigit b = true) ∧
      (text.head?.any isDigit = false → ds = []) := by
  cases h
  refine ⟨List.takeWhile_append_dropWhile.symm, List.all_eq_true.mp List.all_takeWhile, ?_⟩
  intro hnone
  cases text with
  | nil => rfl
  | cons b text =>
    have hb : isDigit b = false := by simpa using hnone
    simp [hb]

theorem eq_of_accept {taken : Bool} (h : accept b text = .ok (taken, rest)) :
    text = (if taken then [b] else []) ++ rest := by
  cases text with
  | nil =>
    cases h
    rfl
  | cons c text =>
    obtain ⟨_, _, hpeek, hnext⟩ := exists_of_bind h
    cases hpeek
    split_ifs at hnext with hb
    · cases hnext
      rw [Option.some.inj hb]
      rfl
    · cases hnext
      rfl

theorem eq_of_byte (h : byte cause text = .ok (b, rest)) : text = b :: rest := by
  cases text with
  | nil => cases h
  | cons c text =>
    cases h
    rfl

end Digits

/-! ### Numbers -/

section Numbers

/-- The digits before the point are those of a number. -/
theorem exists_wholePart {whole : List UInt8} (h : wholePart cause text = .ok (whole, rest)) :
    ∃ n, whole = decimal n ∧ text = decimal n ++ rest := by
  obtain ⟨first, middle, hbyte, hnext⟩ := exists_of_bind h
  split_ifs at hnext with hdigit
  · obtain ⟨_, _, hpeek, hnext⟩ := exists_of_bind hnext
    cases hpeek
    split_ifs at hnext with hzero
    · cases hnext
    · obtain ⟨more, left, hdigits, hpure⟩ := exists_of_bind hnext
      cases hpure
      obtain ⟨hmiddle, hmore, hnone⟩ := eq_of_digits hdigits
      have hall : ∀ b ∈ first :: more, isDigit b = true :=
        List.forall_mem_cons.mpr ⟨hdigit, hmore⟩
      obtain ⟨n, hn⟩ := exists_decimal hall fun hfirst => hnone (by simpa [hfirst] using hzero)
      refine ⟨n, hn, ?_⟩
      rw [eq_of_byte hbyte, hmiddle, ← hn, List.cons_append]
  · cases hnext

theorem exists_fractionPart {fraction : List UInt8}
    (h : fractionPart cause text = .ok (fraction, rest)) :
    ∃ places, fraction = places.map digit ∧ text = Figure.fractionBytes places ++ rest := by
  obtain ⟨point, middle, haccept, hnext⟩ := exists_of_bind h
  have htext := eq_of_accept haccept
  cases point with
  | false =>
    cases hnext
    exact ⟨[], rfl, htext⟩
  | true =>
    obtain ⟨ds, left, hdigits, hnext⟩ := exists_of_bind hnext
    obtain ⟨hmiddle, hall, _⟩ := eq_of_digits hdigits
    obtain ⟨places, rfl⟩ := exists_digits hall
    cases places with
    | nil =>
      -- a point without digits is refused
      obtain ⟨_, _, hpeek, hnext⟩ := exists_of_bind hnext
      split_ifs at hnext
      · cases hnext
      · cases hnext
    | cons d places =>
      cases hnext
      refine ⟨d :: places, rfl, ?_⟩
      rw [htext, hmiddle]
      rfl

theorem exists_acceptExponent {letter : Bool} (h : acceptExponent text = .ok (letter, rest)) :
    if letter then ∃ capital : Bool, text = (if capital then 0x45 else 0x65) :: rest
    else text = rest := by
  obtain ⟨small, middle, haccept, hnext⟩ := exists_of_bind h
  have htext := eq_of_accept haccept
  cases small with
  | true =>
    cases hnext
    exact ⟨false, htext⟩
  | false =>
    have hmiddle := eq_of_accept hnext
    cases letter with
    | true => exact ⟨true, htext.trans hmiddle⟩
    | false => exact htext.trans hmiddle

theorem exists_exponentSign {negative : Bool} (h : exponentSign text = .ok (negative, rest)) :
    ∃ sign : Option Bool, negative = sign.getD false ∧
      text = (sign.map signByte).toList ++ rest := by
  obtain ⟨plus, middle, haccept, hnext⟩ := exists_of_bind h
  have htext := eq_of_accept haccept
  cases plus with
  | true =>
    cases hnext
    exact ⟨some false, rfl, htext⟩
  | false =>
    have hmiddle := eq_of_accept hnext
    cases negative with
    | true => exact ⟨some true, rfl, htext.trans hmiddle⟩
    | false => exact ⟨none, rfl, htext.trans hmiddle⟩

theorem exists_exponentPart {exponent? : Option (Bool × List UInt8)}
    (h : exponentPart cause text = .ok (exponent?, rest)) :
    ∃ exponent : Option Exponent, exponent? = exponent.map Exponent.digits ∧
      text = (exponent.map Exponent.bytes).getD [] ++ rest := by
  obtain ⟨letter, middle, hletter, hnext⟩ := exists_of_bind h
  have htext := exists_acceptExponent hletter
  cases letter with
  | false =>
    cases hnext
    exact ⟨none, rfl, htext⟩
  | true =>
    obtain ⟨capital, rfl⟩ := htext
    obtain ⟨negative, behind, hsign, hfollowed⟩ := exists_of_bind hnext
    obtain ⟨sign, rfl, rfl⟩ := exists_exponentSign hsign
    obtain ⟨first, left, hbyte, hlast⟩ := exists_of_bind hfollowed
    obtain rfl := eq_of_byte hbyte
    split_ifs at hlast with hfirst
    · obtain ⟨more, last, hdigits, hpure⟩ := exists_of_bind hlast
      cases hpure
      obtain ⟨rfl, hmore, _⟩ := eq_of_digits hdigits
      obtain ⟨d, rfl⟩ := exists_digit hfirst
      obtain ⟨places, rfl⟩ := exists_digits hmore
      refine ⟨some ⟨capital, sign, d, places⟩, rfl, ?_⟩
      simp [Exponent.bytes]
    · cases hlast

/-- A number that is accepted is written as one. -/
theorem exists_figure {written : Numeral} (h : numeral cause text = .ok (written, rest)) :
    ∃ figure : Figure, written = figure.numeral ∧ text = figure.token ++ rest := by
  obtain ⟨negative, afterSign, hsign, hnext⟩ := exists_of_bind h
  obtain ⟨whole, afterWhole, hwhole, hnext⟩ := exists_of_bind hnext
  obtain ⟨fraction, afterFraction, hfraction, hnext⟩ := exists_of_bind hnext
  obtain ⟨exponent?, afterExponent, hexponent, hpure⟩ := exists_of_bind hnext
  cases hpure
  obtain ⟨n, rfl, hwholeText⟩ := exists_wholePart hwhole
  obtain ⟨places, rfl, hfractionText⟩ := exists_fractionPart hfraction
  obtain ⟨exponent, rfl, hexponentText⟩ := exists_exponentPart hexponent
  refine ⟨⟨negative, n, places, exponent⟩, rfl, ?_⟩
  rw [eq_of_accept hsign, hwholeText, hfractionText, hexponentText, Figure.token]
  simp only [List.append_assoc]

/-- A number all of whose digits were taken up is that number. -/
theorem fill_decimal {limit n : Nat} (h : (fill limit 0 (decimal n)).2 = []) :
    (fill limit 0 (decimal n)).1 = n := by
  obtain ⟨taken, hdigits, hvalue⟩ := fill_eq limit 0 (decimal n)
  rw [h, List.append_nil] at hdigits
  rw [hvalue, ← hdigits, foldl_decimal]

/-- A natural number has neither sign nor point nor exponent. -/
theorem eq_plain_of_number {figure : Figure} {value : Int}
    (h : figure.numeral.number = .ok (.integer value)) (hvalue : 0 ≤ value) :
    Value.number figure = plain value.toNat := by
  obtain ⟨negative, whole, fraction, exponent⟩ := figure
  have hfloat : ∀ numeral : Numeral, Number.float <$> numeral.float ≠ .ok (.integer value) := by
    intro numeral
    cases numeral.float with
    | error unread => rintro ⟨⟩
    | ok x => rintro ⟨⟩
  -- a point or an exponent makes it a float, which is no integer
  match fraction, exponent with
  | d :: places, _ => exact absurd h (hfloat _)
  | [], some exponent => exact absurd h (hfloat _)
  | [], none =>
    -- digits that are left over do not fit into 64 bits, and make it a float too
    by_cases hleft : (fill (Nat.pow 2 64) 0 (decimal whole)).2 = []
    · have hwhole := fill_decimal hleft
      cases negative with
      | false =>
        have hinteger : (whole : Int) = value := by
          simpa [Numeral.number, Figure.numeral, hleft, hwhole] using h
        rw [← hinteger, Int.toNat_natCast, Value.plain]
      | true =>
        simp only [Numeral.number, Figure.numeral, hleft, hwhole, List.map_nil, List.isEmpty_nil,
          Option.map_none, Option.isSome_none, Bool.not_true, Bool.or_false, Bool.false_eq_true,
          if_false] at h
        split_ifs at h with hzero
        · exact absurd h (hfloat _)
        · -- behind a minus there is no integer but the negative ones
          cases h
          simp only [Bool.or_eq_true, decide_eq_true_eq, not_or] at hzero
          omega
    · have hdouble : Number.float <$> (Numeral.mk negative (decimal whole) [] none).float =
          .ok (.integer value) := by
        simpa [Numeral.number, Figure.numeral, hleft] using h
      exact absurd hdouble (hfloat _)

/-- What is read as a number is what the number that stands there means. -/
theorem exists_of_number {number : Number} (h : Reader.number text = .ok (number, rest)) :
    ∃ figure : Figure, figure.numeral.number = .ok number ∧ text = figure.token ++ rest := by
  obtain ⟨written, left, hwritten, hmeaning⟩ := exists_of_bind h
  obtain ⟨figure, rfl, htext⟩ := exists_figure hwritten
  cases hnumber : figure.numeral.number with
  | error unread =>
    rw [hnumber] at hmeaning
    cases hmeaning
  | ok meaning =>
    rw [hnumber] at hmeaning
    cases hmeaning
    exact ⟨figure, hnumber, htext⟩

/-- What is read as a natural number is written as one, and is below the limit. -/
theorem taken_natural {expected : String} {limit n : Nat}
    (h : natural expected limit text = .ok (n, rest)) :
    n < limit ∧ Taken (plain n).tokens text rest := by
  obtain ⟨b, middle, hstart, hnext⟩ := exists_of_bind h
  obtain ⟨htaken, -⟩ := taken_valueStart hstart
  split_ifs at hnext with hb
  · obtain ⟨number, behind, hread, hrange⟩ := exists_of_bind hnext
    obtain ⟨figure, hnumber, rfl⟩ := exists_of_number hread
    cases number with
    | float x => cases hrange
    | integer value =>
      simp only at hrange
      split_ifs at hrange with hlimit
      · cases hrange
        have hplain : [figure.token] = (plain value.toNat).tokens := by
          rw [← eq_plain_of_number hnumber hlimit.1, tokens]
        have hfigure := taken_token figure.token rest
        rw [hplain] at hfigure
        exact ⟨by omega, htaken.append hfigure⟩
      · cases hrange
  · exact absurd hnext mismatch_ne_ok

end Numbers

/-! ### Truth values -/

/-- The letter that a word begins with is followed by the others. -/
theorem taken_word {letters : String} (h : word (bytes letters) text = .ok ((), rest)) :
    Taken [b :: bytes letters] (b :: text) rest := by
  rw [eq_of_word h]
  exact taken_token (b :: bytes letters) rest

theorem taken_found (letters : String) (value : Found) {found : Found}
    (h : (do
      advance
      word (bytes letters)
      pure value : Reader Found) (b :: text) = .ok (found, rest)) :
    found = value ∧ Taken [b :: bytes letters] (b :: text) rest := by
  obtain ⟨_, _, hadvance, hnext⟩ := exists_of_bind h
  cases hadvance
  obtain ⟨_, _, hword, hpure⟩ := exists_of_bind hnext
  cases hpure
  exact ⟨rfl, taken_word hword⟩

/-- What is read as a truth value is written as one. -/
theorem taken_boolean {value : Bool} (h : boolean text = .ok (value, rest)) :
    Taken (Value.boolean value).tokens text rest := by
  obtain ⟨b, middle, hstart, hnext⟩ := exists_of_bind h
  obtain ⟨htaken, more, rfl⟩ := taken_valueStart hstart
  split_ifs at hnext with hb
  · obtain ⟨what, left, hfound, hvalue⟩ := exists_of_bind hnext
    have hletter : b = 0x74 ∨ b = 0x66 := by simpa using hb
    rcases hletter with rfl | rfl
    · obtain ⟨rfl, hword⟩ := taken_found "rue" (.boolean true) hfound
      cases hvalue
      exact htaken.append hword
    · obtain ⟨rfl, hword⟩ := taken_found "alse" (.boolean false) hfound
      cases hvalue
      exact htaken.append hword
  · exact absurd hnext mismatch_ne_ok

/-! ### Texts -/

/-- The value of a hexadecimal digit. -/
def HexDigit.value (d : HexDigit) : Nat :=
  (hexValue? d.val).get d.property

/-- The code unit that four digits write. -/
def codeUnit (first second third fourth : HexDigit) : Nat :=
  16 * (16 * (16 * first.value + second.value) + third.value) + fourth.value

namespace Spelling

/-- The bytes that a text stands for behind a leading surrogate, if it begins behind one; none if
some surrogate has no partner. -/
def resolved? : (leading : Option Nat) → Spelling → Option (List UInt8)
  | none, [] => some []
  | none, .verbatim b _ :: more => (resolved? none more).map (b :: ·)
  | none, .escape letter h :: more =>
    (resolved? none more).map ((shortEscape? letter).get h :: ·)
  | none, .unit first second third fourth :: more =>
    let unit := codeUnit first second third fourth
    if isTrailing unit then none
    else if isLeading unit then resolved? (some unit) more
    else (resolved? none more).map (encode unit ++ ·)
  | some leading, .unit first second third fourth :: more =>
    let unit := codeUnit first second third fourth
    if isTrailing unit then (resolved? none more).map (encode (joined leading unit) ++ ·)
    else none
  | some _, _ => none

/-- The bytes that a text stands for, if every surrogate has a partner. -/
def meaning? (spelling : Spelling) : Option (List UInt8) :=
  spelling.resolved? none

/-- Two surrogates make up one code point. -/
example : meaning? [
    .unit ⟨0x64, rfl⟩ ⟨0x38, rfl⟩ ⟨0x33, rfl⟩ ⟨0x64, rfl⟩,
    .unit ⟨0x64, rfl⟩ ⟨0x65, rfl⟩ ⟨0x30, rfl⟩ ⟨0x30, rfl⟩] = some [0xF0, 0x9F, 0x98, 0x80] := by
  decide

end Spelling

section Texts

variable {checked : Bool} {leading : Option Nat} {read document : List UInt8}

/-- Where a scan stands between characters, behind a leading surrogate if there is one. -/
def TextState.behind : (leading : Option Nat) → TextState
  | none => .plain
  | some leading => .pair leading

/-- A code unit in which something else stood for a digit is refused at its end. -/
theorem scan_unit_none_ne_ok {missing : Nat} :
    scan checked (.unit leading missing none) read document ≠ .ok (text, rest) := by
  induction document generalizing missing with
  | nil => rintro ⟨⟩
  | cons b more ih =>
    rw [scan]
    simp only [Option.bind_none]
    split_ifs
    · exact ih
    · rintro ⟨⟩

theorem exists_hexDigit {value : Nat} (h : hexValue? b = some value) :
    ∃ d : HexDigit, d.val = b ∧ d.value = value := by
  have hsome : (hexValue? b).isSome = true := Option.isSome_of_mem h
  refine ⟨⟨b, hsome⟩, rfl, ?_⟩
  simp only [HexDigit.value, h, Option.get_some]

/-- A digit that is not the last one of a code unit. -/
theorem exists_scan_digit {missing value : Nat} (hmissing : 1 < missing)
    (h : scan checked (.unit leading missing (some value)) read document = .ok (text, rest)) :
    ∃ (d : HexDigit) (more : List UInt8), document = d.val :: more ∧
      scan checked (.unit leading (missing - 1) (some (16 * value + d.value))) read more =
        .ok (text, rest) := by
  cases document with
  | nil => cases h
  | cons b more =>
    rw [scan, if_pos hmissing, Option.bind_some] at h
    cases hb : hexValue? b with
    | none =>
      rw [hb] at h
      exact absurd h scan_unit_none_ne_ok
    | some digit =>
      rw [hb] at h
      obtain ⟨d, rfl, rfl⟩ := exists_hexDigit hb
      exact ⟨d, more, rfl, h⟩

/-- Behind the last digit, a checked scan goes on as the code unit says. -/
theorem exists_scan_lastDigit {value : Nat}
    (h : scan checked (.unit leading 1 (some value)) read document = .ok (text, rest)) :
    ∃ (d : HexDigit) (more : List UInt8), document = d.val :: more ∧
      if checked then
        ∃ added state, afterUnit leading (16 * value + d.value) = .ok (added, state) ∧
          scan true state (added.reverse ++ read) more = .ok (text, rest)
      else scan false .plain read more = .ok (text, rest) := by
  cases document with
  | nil => cases h
  | cons b more =>
    rw [scan, if_neg (by decide), Option.bind_some] at h
    cases hb : hexValue? b with
    | none =>
      rw [hb] at h
      cases h
    | some digit =>
      obtain ⟨d, rfl, rfl⟩ := exists_hexDigit hb
      rw [hb] at h
      refine ⟨d, more, rfl, ?_⟩
      cases checked with
      | false => exact h
      | true =>
        simp only [Option.map_some, if_true] at h ⊢
        cases hunit : afterUnit leading (16 * value + d.value) with
        | error cause =>
          rw [hunit] at h
          cases h
        | ok after =>
          rw [hunit] at h
          exact ⟨after.1, after.2, rfl, h⟩

/-- A code unit that is accepted has four digits. -/
theorem exists_scan_unit (h : scan checked (.unit leading 4 (some 0)) read document =
      .ok (text, rest)) :
    ∃ (first second third fourth : HexDigit) (more : List UInt8),
      document = first.val :: second.val :: third.val :: fourth.val :: more ∧
        if checked then
          ∃ added state, afterUnit leading (codeUnit first second third fourth) =
            .ok (added, state) ∧ scan true state (added.reverse ++ read) more = .ok (text, rest)
        else scan false .plain read more = .ok (text, rest) := by
  obtain ⟨first, afterFirst, rfl, hfirst⟩ := exists_scan_digit (by decide) h
  obtain ⟨second, afterSecond, rfl, hsecond⟩ := exists_scan_digit (by decide) hfirst
  obtain ⟨third, afterThird, rfl, hthird⟩ := exists_scan_digit (by decide) hsecond
  obtain ⟨fourth, more, rfl, hfourth⟩ := exists_scan_lastDigit hthird
  rw [Nat.mul_zero, Nat.zero_add] at hfourth
  exact ⟨first, second, third, fourth, more, rfl, hfourth⟩

/-- Behind a leading surrogate if there is one, part of a text adds some bytes, and leaves what
follows behind a leading surrogate if it is one. -/
def Glyph.Adds (glyph : Glyph) (leading : Option Nat) (added : List UInt8) (next : Option Nat) :
    Prop :=
  ∀ more bytes, Spelling.resolved? next more = some bytes →
    Spelling.resolved? leading (glyph :: more) = some (added ++ bytes)

/-- A code unit that is accepted adds what it stands for. -/
theorem adds_unit {first second third fourth : HexDigit} {added : List UInt8} {state : TextState}
    (h : afterUnit leading (codeUnit first second third fourth) = .ok (added, state)) :
    ∃ next, state = .behind next ∧
      (Glyph.unit first second third fourth).Adds leading added next := by
  cases leading with
  | none =>
    simp only [afterUnit] at h
    split_ifs at h with htrailing hleading
    · cases h
      refine ⟨some _, rfl, fun more bytes hbytes => ?_⟩
      simp [Spelling.resolved?, htrailing, hleading, hbytes]
    · cases h
      refine ⟨none, rfl, fun more bytes hbytes => ?_⟩
      simp [Spelling.resolved?, htrailing, hleading, hbytes]
  | some leading =>
    simp only [afterUnit] at h
    split_ifs at h with htrailing
    obtain ⟨hadded, hstate⟩ := Prod.mk.inj (Except.ok.inj h)
    refine ⟨none, hstate.symm, fun more bytes hbytes => ?_⟩
    simp [Spelling.resolved?, htrailing, hbytes, hadded]

/-- A scan takes a part of a text and goes on behind it. -/
def TakesGlyph (checked : Bool) (leading : Option Nat) (read document text rest : List UInt8) :
    Prop :=
  ∃ (glyph : Glyph) (more : List UInt8) (next : Option Nat) (added : List UInt8),
    document = glyph.bytes ++ more ∧
    scan checked (.behind next) (added.reverse ++ read) more = .ok (text, rest) ∧
    (checked = true → glyph.Adds leading added next)

theorem takesGlyph_unit
    (h : scan checked (.unit leading 4 (some 0)) read document = .ok (text, rest)) :
    TakesGlyph checked leading read (backslash :: unitLetter :: document) text rest := by
  obtain ⟨first, second, third, fourth, more, rfl, hmore⟩ := exists_scan_unit h
  cases checked with
  | false => exact ⟨.unit first second third fourth, more, none, [], rfl, hmore, nofun⟩
  | true =>
    obtain ⟨added, state, hunit, hscan⟩ := hmore
    obtain ⟨next, rfl, hadds⟩ := adds_unit hunit
    exact ⟨.unit first second third fourth, more, next, added, rfl, hscan, fun _ => hadds⟩

/-- A scan that accepts is at the closing quote, or it takes a part of the text. -/
theorem takesGlyph_of_scan
    (h : scan checked (.behind leading) read document = .ok (text, rest)) :
    leading = none ∧ document = quote :: rest ∧ text = read.reverse ∨
      TakesGlyph checked leading read document text rest := by
  -- first without the first half of a pair before the place, and then with one
  match leading, document with
  | _, [] => cases leading <;> cases h
  | none, b :: more =>
    rw [TextState.behind, scan] at h
    split_ifs at h with hquote hbackslash hcontrol
    · cases h
      exact Or.inl ⟨rfl, by rw [hquote], rfl⟩
    · right
      subst hbackslash
      cases more with
      | nil => cases h
      | cons letter more =>
        rw [scan] at h
        split_ifs at h with hletter
        · rw [hletter]
          exact takesGlyph_unit h
        · cases hescape : shortEscape? letter with
          | none =>
            rw [hescape] at h
            cases h
          | some c =>
            rw [hescape] at h
            have hsome : (shortEscape? letter).isSome = true := Option.isSome_of_mem hescape
            refine ⟨.escape letter hsome, more, none, [c], rfl, h, fun _ => ?_⟩
            intro more bytes hbytes
            simp [Spelling.resolved?, hescape, hbytes]
    · right
      -- neither a quote nor a backslash nor a control character stands for itself
      have hverbatim : isVerbatim b = true := by
        simp [isVerbatim, hquote, hbackslash, UInt8.not_lt.mp hcontrol]
      refine ⟨.verbatim b hverbatim, more, none, [b], rfl, h, fun _ => ?_⟩
      intro more bytes hbytes
      simp [Spelling.resolved?, hbytes]
  | some leading, b :: more =>
    right
    rw [TextState.behind, scan] at h
    -- only the escape of the second half may follow the first
    split_ifs at h with hbackslash
    subst hbackslash
    cases more with
    | nil => cases h
    | cons letter more =>
      rw [scan] at h
      split_ifs at h with hletter
      rw [hletter]
      exact takesGlyph_unit h

/-- A text that is accepted is written as one, up to its closing quote. A checked scan adds the
bytes that it stands for to those read before. -/
theorem exists_spelling (h : scan checked (.behind leading) read document = .ok (text, rest)) :
    ∃ spelling : Spelling, document = spelling.bytes ++ quote :: rest ∧
      (checked = true → ∃ added, spelling.resolved? leading = some added ∧
        text = read.reverse ++ added) := by
  -- each part of the text takes bytes off what is left of the document
  induction hlength : document.length using Nat.strong_induction_on
    generalizing leading read document with
  | _ length ih =>
    rcases takesGlyph_of_scan h with ⟨rfl, rfl, rfl⟩ |
      ⟨glyph, more, next, added, rfl, hmore, hadds⟩
    · exact ⟨[], rfl, fun _ => ⟨[], rfl, (List.append_nil _).symm⟩⟩
    · have hshorter : more.length < length := by
        cases glyph <;> simp [Glyph.bytes] at hlength <;> omega
      obtain ⟨spelling, rfl, hmeaning⟩ := ih _ hshorter hmore rfl
      refine ⟨glyph :: spelling, by simp [Spelling.bytes], fun hchecked => ?_⟩
      obtain ⟨behind, hbehind, rfl⟩ := hmeaning hchecked
      refine ⟨added ++ behind, hadds hchecked _ _ hbehind, by simp⟩

theorem taken_spelling (spelling : Spelling) (rest : List UInt8) :
    Taken [spelling.token] (quote :: (spelling.bytes ++ quote :: rest)) rest := by
  have htoken := taken_token spelling.token rest
  rw [Spelling.token, List.cons_append, List.append_assoc, List.singleton_append] at htoken
  exact htoken

/-- What is passed over as a text is written as one. -/
theorem taken_skipText (h : skipText document = .ok ((), rest)) :
    ∃ spelling : Spelling, Taken [spelling.token] (quote :: document) rest := by
  obtain ⟨read, _, hscan, hpure⟩ := exists_of_bind h
  cases hpure
  have hplain : scan false (.behind none) [] document = .ok (read, rest) := hscan
  obtain ⟨spelling, rfl, _⟩ := exists_spelling hplain
  exact ⟨spelling, taken_spelling spelling rest⟩

/-- What is read as a name is written as a text that stands for it. -/
theorem taken_name (h : Reader.name (quote :: document) = .ok (text, rest)) :
    ∃ spelling : Spelling, spelling.meaning? = some text ∧
      Taken [spelling.token] (quote :: document) rest := by
  obtain ⟨_, _, hadvance, hscan⟩ := exists_of_bind h
  cases hadvance
  have hplain : scan true (.behind none) [] document = .ok (text, rest) := hscan
  obtain ⟨spelling, rfl, hmeaning⟩ := exists_spelling hplain
  obtain ⟨added, hadded, rfl⟩ := hmeaning rfl
  exact ⟨spelling, hadded, taken_spelling spelling rest⟩

end Texts

end DrinkMixer.Json
