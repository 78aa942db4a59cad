import DrinkMixer.Proofs.Json.Grammar

/-!
# Values passed over

A value that nobody asked for is passed over as a whole, whatever it is made of and however deep it
is nested, and nothing behind it is touched. The brackets that are open make up a stack: passing
over a value leaves the stack as it was (`Passed`), with no more steps than the value has tokens.

Main statements: `passed_tokens`, the steps that pass over a value, and `yields_skipValue`, a value
is passed over.
-/

namespace DrinkMixer.Json

open Reader TextState

variable {rest text : List UInt8} {more : List Token}

/-! ### Texts -/

/-- A part of a text is passed over. -/
theorem exists_scan_glyph (glyph : Glyph) (read : List UInt8) :
    ∃ taken, ∀ rest, scan false .plain read (glyph.bytes ++ rest) =
      scan false .plain taken rest := by
  cases glyph with
  | verbatim b h => exact ⟨b :: read, fun rest => scan_verbatim h⟩
  | escape letter h =>
    obtain ⟨c, hc⟩ := Option.isSome_iff_exists.mp h
    have hletter : letter ≠ unitLetter := by
      rintro rfl
      cases h
    refine ⟨c :: read, fun rest => ?_⟩
    show scan false .plain read (backslash :: letter :: rest) = _
    rw [scan, if_neg (by decide), if_pos rfl, scan, if_neg hletter, hc]
  | unit first second third fourth =>
    obtain ⟨w, hw⟩ := Option.isSome_iff_exists.mp first.property
    obtain ⟨x, hx⟩ := Option.isSome_iff_exists.mp second.property
    obtain ⟨y, hy⟩ := Option.isSome_iff_exists.mp third.property
    obtain ⟨z, hz⟩ := Option.isSome_iff_exists.mp fourth.property
    refine ⟨read, fun rest => ?_⟩
    show scan false .plain read (backslash :: unitLetter :: first.val :: second.val :: third.val ::
      fourth.val :: rest) = _
    rw [scan, if_neg (by decide), if_pos rfl, scan, if_pos rfl]
    simp [scan, hw, hx, hy, hz]

/-- A text is passed over with its closing quote. -/
theorem skipText_append (spelling : Spelling) :
    skipText (spelling.bytes ++ quote :: rest) = .ok ((), rest) := by
  have hscan : ∀ read, ∃ taken, scan false .plain read (spelling.bytes ++ quote :: rest) =
      .ok (taken, rest) := by
    induction spelling with
    | nil => exact fun read => ⟨read.reverse, by simp [Spelling.bytes, scan]⟩
    | cons glyph spelling ih =>
      intro read
      obtain ⟨taken, htaken⟩ := exists_scan_glyph glyph read
      obtain ⟨all, hall⟩ := ih taken
      refine ⟨all, ?_⟩
      rw [Spelling.bytes, List.flatMap_cons, List.append_assoc, htaken]
      exact hall
  obtain ⟨taken, htaken⟩ := hscan []
  rw [skipText, bind_of_ok htaken]
  rfl

/-! ### Numbers -/

theorem isDigit_of_mem_digits {places : List (Fin 10)} :
    ∀ b ∈ places.map digit, isDigit b = true := by
  intro b hb
  obtain ⟨d, _, rfl⟩ := List.mem_map.mp hb
  exact isDigit_digit d

/-- The point is taken with the digits behind it. -/
theorem fractionPart_append (cause : Cause) (places : List (Fin 10))
    (hdigit : rest.head?.any isDigit = false) (hpoint : rest.head? ≠ some 0x2E) :
    fractionPart cause (Figure.fractionBytes places ++ rest) =
      .ok (places.map digit, rest) := by
  cases places with
  | nil =>
    have haccept : accept 0x2E rest = .ok (false, rest) := accept_of_ne hpoint
    show fractionPart cause rest = _
    rw [fractionPart, bind_of_ok haccept]
    rfl
  | cons d places =>
    have haccept : accept 0x2E (0x2E :: ((d :: places).map digit ++ rest)) =
        .ok (true, (d :: places).map digit ++ rest) := rfl
    show fractionPart cause (0x2E :: ((d :: places).map digit ++ rest)) = _
    rw [fractionPart, bind_of_ok haccept, if_pos rfl,
      bind_of_ok (digits_append isDigit_of_mem_digits hdigit)]
    rfl

/-- The sign of an exponent is taken if there is one. -/
theorem exponentSign_append (sign : Option Bool) (d : Fin 10) :
    exponentSign ((sign.map signByte).toList ++ digit d :: rest) =
      .ok (sign.getD false, digit d :: rest) := by
  match sign with
  | some true => rfl
  | some false => rfl
  | none =>
    have hne : ∀ b, isDigit b = false → (digit d :: rest).head? ≠ some b := by
      rintro b hb ⟨⟩
      rw [isDigit_digit] at hb
      cases hb
    have hplus : accept 0x2B (digit d :: rest) = .ok (false, digit d :: rest) :=
      accept_of_ne (hne _ rfl)
    have hminus : accept minus (digit d :: rest) = .ok (false, digit d :: rest) :=
      accept_of_ne (hne _ rfl)
    show exponentSign (digit d :: rest) = _
    rw [exponentSign, bind_of_ok hplus]
    exact hminus

theorem exponentPart_append (cause : Cause) (exponent : Exponent)
    (h : rest.head?.any isDigit = false) :
    exponentPart cause (exponent.bytes ++ rest) =
      .ok (some exponent.digits, rest) := by
  have hletter : ∀ rest, acceptExponent ((if exponent.capital then 0x45 else 0x65) :: rest) =
      .ok (true, rest) := by
    intro rest
    cases exponent.capital <;> rfl
  have hsign : ∀ rest, exponentSign ((exponent.sign.map signByte).toList ++
      digit exponent.first :: rest) =
        .ok (exponent.sign.getD false, digit exponent.first :: rest) :=
    fun _ => exponentSign_append exponent.sign exponent.first
  have hfirst : byte cause (digit exponent.first :: (exponent.more.map digit ++ rest)) =
      .ok (digit exponent.first, exponent.more.map digit ++ rest) := rfl
  rw [Exponent.bytes, List.cons_append, List.append_assoc, List.cons_append, exponentPart,
    bind_of_ok (hletter _), if_pos rfl, bind_of_ok (hsign _), bind_of_ok hfirst,
    if_pos (isDigit_digit _), bind_of_ok (digits_append isDigit_of_mem_digits h)]
  rfl

/-- What follows the whole part of a number is no digit, and what follows its fraction is no point
either. -/
theorem head?_exponent (exponent : Option Exponent) (h : Delimited rest) :
    (((exponent.map Exponent.bytes).getD [] ++ rest).head?.any isDigit = false) ∧
      ((exponent.map Exponent.bytes).getD [] ++ rest).head? ≠ some 0x2E := by
  cases exponent with
  | none => exact ⟨h.isDigit_eq_false, h.head?_ne (by decide)⟩
  | some exponent =>
    obtain ⟨capital, sign, first, more⟩ := exponent
    cases capital with
    | true => exact ⟨rfl, by rintro ⟨⟩⟩
    | false => exact ⟨rfl, by rintro ⟨⟩⟩

/-- A number is read as far as it is written. -/
theorem numeral_token (cause : Cause) (figure : Figure) (h : Delimited rest) :
    numeral cause (figure.token ++ rest) = .ok (figure.numeral, rest) := by
  obtain ⟨negative, whole, fraction, exponent⟩ := figure
  obtain ⟨hdigit, hpoint⟩ := head?_exponent exponent h
  generalize htail : (exponent.map Exponent.bytes).getD [] ++ rest = tail at hdigit hpoint
  have hfraction : (Figure.fractionBytes fraction ++ tail).head?.any isDigit = false := by
    cases fraction with
    | nil => exact hdigit
    | cons d places => rfl
  have hsign : accept minus ((if negative then [minus] else []) ++
      (decimal whole ++ (Figure.fractionBytes fraction ++ tail))) =
        .ok (negative, decimal whole ++ (Figure.fractionBytes fraction ++ tail)) := by
    cases negative with
    | true => rfl
    | false =>
      obtain ⟨first, more, hdigits, hfirst, _⟩ := exists_decimal_eq whole
      apply accept_of_ne
      rw [if_neg Bool.false_ne_true, List.nil_append, hdigits]
      rintro ⟨⟩
      exact absurd hfirst (by decide)
  have hexponent : exponentPart cause tail = .ok (exponent.map Exponent.digits, rest) := by
    cases exponent with
    | none =>
      obtain rfl : rest = tail := htail
      exact exponentPart_of_delimited cause h
    | some exponent =>
      rw [← htail]
      exact exponentPart_append cause exponent h.isDigit_eq_false
  rw [Figure.token, List.append_assoc, List.append_assoc, List.append_assoc, htail, numeral,
    bind_of_ok hsign, bind_of_ok (wholePart_decimal cause whole hfraction),
    bind_of_ok (fractionPart_append cause fraction hdigit hpoint), bind_of_ok hexponent]
  rfl

/-! ### Scalars -/

/-- A token that is passed over as a scalar begins a value that is complete. -/
theorem yields_skipStart_scalar {b : UInt8} {token : Token}
    (htext : Spaced ((b :: token) :: more) text) (hblank : isBlank b = false)
    (hopen : b ≠ openList ∧ b ≠ openObject)
    (hskip : ∀ rest, Spaced more rest → skipScalar b (b :: (token ++ rest)) = .ok ((), rest)) :
    Yields skipStart text (some .complete) more := by
  obtain ⟨rest, hblanks, hrest⟩ := htext.exists_skipBlanks hblank
  have hstart : valueStart text = .ok (b, b :: (token ++ rest)) := bind_of_ok hblanks
  refine ⟨rest, ?_, hrest⟩
  rw [skipStart, bind_of_ok hstart, if_neg hopen.1, if_neg hopen.2,
    bind_of_ok (hskip rest hrest)]
  rfl

/-- A digit or a minus begins nothing but a number. -/
theorem skipScalar_figure (figure : Figure) {b : UInt8} {token : Token}
    (htoken : figure.token = b :: token) (hb : b = minus ∨ isDigit b = true) (h : Delimited rest) :
    skipScalar b (b :: (token ++ rest)) = .ok ((), rest) := by
  have hquote : b ≠ quote := by
    rintro rfl
    rcases hb with hminus | hdigit
    · exact absurd hminus (by decide)
    · exact absurd hdigit (by decide)
  have hnumber : (b = minus || isDigit b) = true := by simpa using hb
  have hwritten := numeral_token .invalidNumber figure h
  rw [htoken, List.cons_append] at hwritten
  rw [skipScalar, if_neg hquote, if_pos hnumber, bind_of_ok hwritten]
  rfl

/-- A value that is neither a list nor an object is passed over at once. -/
theorem yields_skipStart (value : Value) (hlist : ∀ elements, value ≠ .list elements)
    (hobject : ∀ members, value ≠ .object members) (htext : Spaced (value.tokens ++ more) text)
    (hmore : Ends more) : Yields skipStart text (some .complete) more := by
  cases value with
  | null => exact yields_skipStart_scalar htext rfl (by decide) fun _ _ => rfl
  | boolean value =>
    cases value with
    | true => exact yields_skipStart_scalar htext rfl (by decide) fun _ _ => rfl
    | false => exact yields_skipStart_scalar htext rfl (by decide) fun _ _ => rfl
  | number figure =>
    obtain ⟨b, token, htoken, hb⟩ := Value.start_figure figure
    -- a number begins with a minus or a digit, which opens nothing else
    have hne : ∀ c, c ≠ minus → isDigit c = false → b ≠ c := by
      rintro c hminus hdigit rfl
      rcases hb with rfl | hb
      · exact hminus rfl
      · rw [hdigit] at hb
        cases hb
    have hblank : isBlank b = false := by
      rcases hb with rfl | hb
      · rfl
      · exact isBlank_of_isStart (isStart_of_isDigit hb)
    rw [Value.tokens, htoken] at htext
    exact yields_skipStart_scalar htext hblank
      ⟨hne openList (by decide) rfl, hne openObject (by decide) rfl⟩
      fun rest hrest => skipScalar_figure figure htoken hb (hrest.delimited hmore)
  | text spelling =>
    refine yields_skipStart_scalar htext rfl (by decide) fun rest _ => ?_
    have hadvance : advance (quote :: (spelling.bytes ++ [quote] ++ rest)) =
        .ok ((), spelling.bytes ++ quote :: rest) := by simp [advance]
    rw [skipScalar, if_pos rfl, bind_of_ok hadvance]
    exact skipText_append spelling
  | list elements => exact absurd rfl (hlist elements)
  | object members => exact absurd rfl (hobject members)

/-! ### Lists and objects -/

/-- The byte that opens a list or an object. -/
def Enclosure.opening : Enclosure → UInt8
  | list => openList
  | object => openObject

/-- What can stand before the value of an entry. -/
inductive IsLabel : Enclosure → List Token → Prop
  /-- An element has no name. -/
  | element : IsLabel .list []
  /-- The name of a member and the colon behind it. -/
  | member (name : Spelling) : IsLabel .object [name.token, [colon]]

variable {enclosure : Enclosure} {label : List Token}

theorem yields_nameEnd (htext : Spaced ([colon] :: more) text) :
    Yields nameEnd text (some ()) more :=
  .of_peek htext rfl fun rest hrest => ⟨rest, rfl, hrest⟩

/-- What stands before the value of an entry is passed over. -/
theorem yields_skipLabel (hlabel : IsLabel enclosure label)
    (htext : Spaced (label ++ more) text) : Yields (skipLabel enclosure) text (some ()) more := by
  cases hlabel with
  | element => exact ⟨text, rfl, htext⟩
  | member name =>
    refine .of_peek htext rfl fun behind hbehind => ?_
    have hname : name.bytes ++ [quote] ++ behind = name.bytes ++ quote :: behind := by simp
    simp only [if_true]
    rw [hname]
    exact .of_advance (.of_ok (skipText_append name) (yields_nameEnd hbehind))

theorem yields_skipStart_of_opening {inner : List UInt8} {opening? : Option Reader.Opening}
    (hblanks : skipBlanks text = .ok ((), enclosure.opening :: inner))
    (h : Yields (skipOpening enclosure) (enclosure.opening :: inner) opening? more) :
    Yields skipStart text opening? more := by
  have hstart : valueStart text = .ok (enclosure.opening, enclosure.opening :: inner) :=
    bind_of_ok hblanks
  rw [skipStart]
  refine .of_ok hstart ?_
  cases enclosure with
  | list => exact h
  | object => exact h

/-- A list or an object with nothing in it is passed over at once. -/
theorem yields_skipStart_empty
    (htext : Spaced ([enclosure.opening] :: [enclosure.closing] :: more) text) :
    Yields skipStart text (some .complete) more := by
  obtain ⟨inner, hopen, hinner⟩ := htext.exists_skipBlanks (by cases enclosure <;> rfl)
  refine yields_skipStart_of_opening hopen (.of_advance ?_)
  refine .of_peek hinner (by cases enclosure <;> rfl) fun rest hrest => ⟨rest, ?_, hrest⟩
  cases enclosure <;> rfl

/-- A list or an object is entered if something other than its end comes first. -/
theorem yields_skipStart_entered {b : UInt8} {token : Token} {tokens : List Token}
    (hlabel : IsLabel enclosure label)
    (htext : Spaced ([enclosure.opening] :: (label ++ more)) text)
    (hfirst : label ++ more = (b :: token) :: tokens) (hblank : isBlank b = false)
    (hother : b ≠ enclosure.closing) :
    Yields skipStart text (some (.entered enclosure)) more := by
  obtain ⟨inner, hopen, hinner⟩ := htext.exists_skipBlanks (by cases enclosure <;> rfl)
  rw [hfirst] at hinner
  refine yields_skipStart_of_opening hopen (.of_advance ?_)
  refine .of_peek hinner hblank fun rest hrest => ?_
  have htight : Spaced (label ++ more) (b :: (token ++ rest)) := by
    rw [hfirst]
    exact hrest.tight
  simp only [if_neg hother]
  obtain ⟨left, hskipped, hleft⟩ := yields_skipLabel hlabel htight
  exact .of_ok hskipped ⟨left, rfl, hleft⟩

/-- Behind a value, a comma leads to the next one. -/
theorem yields_skipAfter_comma (hlabel : IsLabel enclosure label)
    (htext : Spaced ([comma] :: (label ++ more)) text) :
    Yields (skipAfter enclosure) text (some false) more := by
  refine .of_peek htext rfl fun inner hinner => ?_
  obtain ⟨left, hskipped, hleft⟩ := yields_skipLabel hlabel hinner
  simp only [if_true]
  exact .of_advance (.of_ok hskipped ⟨left, rfl, hleft⟩)

/-- Behind the last value comes the end of what it is in. -/
theorem yields_skipAfter_closing (htext : Spaced ([enclosure.closing] :: more) text) :
    Yields (skipAfter enclosure) text (some true) more := by
  refine .of_peek htext (by cases enclosure <;> rfl) fun rest hrest => ⟨rest, ?_, hrest⟩
  cases enclosure <;> rfl

/-! ### Nested values -/

/-- After some steps, no more than so many, a value has ended, these brackets are open, and these
tokens are left. -/
def Passed (steps fuel : Nat) (starting : Bool) (around : List Enclosure) (text : List UInt8)
    (outer : List Enclosure) (more : List Token) : Prop :=
  ∃ left rest, fuel ≤ left + steps ∧ Spaced more rest ∧
    skipNested fuel starting around text = skipNested left false outer rest

section Passed

variable {steps fuel : Nat} {starting : Bool} {around inner outer : List Enclosure}
  {between : List Token}

/-- One step, and then the others. -/
theorem Passed.step {next : Bool}
    (h : skipNested (fuel + 1) starting around text = skipNested fuel next inner rest)
    (hpassed : Passed steps fuel next inner rest outer more) :
    Passed (steps + 1) (fuel + 1) starting around text outer more := by
  obtain ⟨left, behind, hleft, hbehind, hskip⟩ := hpassed
  exact ⟨left, behind, by omega, hbehind, h.trans hskip⟩

/-- The steps of one value after those of another. -/
theorem Passed.trans {further : Nat} (hfirst : Passed steps fuel starting around text inner between)
    (hsecond : ∀ left rest, fuel ≤ left + steps → Spaced between rest →
      Passed further left false inner rest outer more) :
    Passed (steps + further) fuel starting around text outer more := by
  obtain ⟨middle, rest, hmiddle, hrest, hskip⟩ := hfirst
  obtain ⟨left, behind, hleft, hbehind, hmore⟩ := hsecond middle rest hmiddle hrest
  exact ⟨left, behind, by omega, hbehind, hskip.trans hmore⟩

theorem Passed.mono {limit : Nat} (h : Passed steps fuel starting around text outer more)
    (hlimit : steps ≤ limit) : Passed limit fuel starting around text outer more := by
  obtain ⟨left, behind, hleft, hrest⟩ := h
  exact ⟨left, behind, by omega, hrest⟩

/-- No step is made where a value has just ended. -/
theorem Passed.refl (h : Spaced more text) : Passed 0 fuel false outer text outer more :=
  ⟨fuel, text, Nat.le_refl _, h, rfl⟩

/-- A value that is complete at once takes one step. -/
theorem Passed.of_complete (h : Yields skipStart text (some .complete) more) :
    Passed 1 (fuel + 1) true around text around more := by
  obtain ⟨rest, hstart, hrest⟩ := h
  refine .step ?_ (.refl hrest)
  rw [skipNested, bind_of_ok hstart]

theorem Passed.of_entered (h : Yields skipStart text (some (.entered enclosure)) between)
    (hpassed : ∀ rest, Spaced between rest →
      Passed steps fuel true (enclosure :: around) rest outer more) :
    Passed (steps + 1) (fuel + 1) true around text outer more := by
  obtain ⟨rest, hstart, hrest⟩ := h
  refine .step ?_ (hpassed rest hrest)
  rw [skipNested, bind_of_ok hstart]

/-- The end of a list or an object takes one step. -/
theorem Passed.of_closing (h : Spaced ([enclosure.closing] :: more) text) :
    Passed 1 (fuel + 1) false (enclosure :: around) text around more := by
  obtain ⟨rest, hafter, hrest⟩ := yields_skipAfter_closing h
  refine .step ?_ (.refl hrest)
  rw [skipNested, bind_of_ok hafter, if_pos rfl]

theorem Passed.of_comma (hlabel : IsLabel enclosure label)
    (h : Spaced ([comma] :: (label ++ between)) text)
    (hpassed : ∀ rest, Spaced between rest →
      Passed steps fuel true (enclosure :: around) rest outer more) :
    Passed (steps + 1) (fuel + 1) false (enclosure :: around) text outer more := by
  obtain ⟨rest, hafter, hrest⟩ := yields_skipAfter_comma hlabel h
  refine .step ?_ (hpassed rest hrest)
  rw [skipNested, bind_of_ok hafter, if_neg Bool.false_ne_true]

end Passed

open Value

mutual

/-- A value is passed over, and what is open around it stays open. -/
theorem passed_tokens (value : Value) {fuel : Nat} {around : List Enclosure} {text : List UInt8}
    {more : List Token} (htext : Spaced (value.tokens ++ more) text) (hmore : Ends more)
    (hfuel : value.tokens.length ≤ fuel) :
    Passed value.tokens.length fuel true around text around more := by
  obtain ⟨b, token, others, htokens, _⟩ := start_tokens value
  have hlength : 1 ≤ value.tokens.length := by simp [htokens]
  obtain ⟨fuel, rfl⟩ : ∃ left, fuel = left + 1 := ⟨fuel - 1, by omega⟩
  -- all but lists and objects are passed over in one step
  have hscalar (hlist : ∀ elements, value ≠ list elements)
      (hobject : ∀ members, value ≠ object members) :
      Passed value.tokens.length (fuel + 1) true around text around more :=
    (Passed.of_complete (yields_skipStart value hlist hobject htext hmore)).mono hlength
  cases value with
  | null => exact hscalar (by simp) (by simp)
  | boolean value => exact hscalar (by simp) (by simp)
  | number figure => exact hscalar (by simp) (by simp)
  | text spelling => exact hscalar (by simp) (by simp)
  | list elements =>
    rw [tokens_list_append] at htext
    match elements with
    | [] =>
      have hempty : Spaced ([Enclosure.list.opening] :: [Enclosure.list.closing] :: more) text :=
        htext
      exact (Passed.of_complete (yields_skipStart_empty hempty)).mono hlength
    | value :: values =>
      have hsteps : (list (value :: values)).tokens.length =
          value.tokens.length + ((elementTokens false values).length + 1) + 1 := by
        simp [tokens, elementTokens, separator]
      rw [hsteps] at hfuel ⊢
      -- behind the opening comes the first element, and behind that the rest with the closing
      have hentry : Spaced ([openList] :: ([] ++ (value.tokens ++
          (elementTokens false values ++ [closeList] :: more)))) text := by
        simpa [elementTokens, separator] using htext
      obtain ⟨b, token, others, htokens, hb⟩ := start_tokens value
      have hstart := yields_skipStart_entered .element hentry (by rw [htokens]; rfl)
        (isBlank_of_isStart hb) (ne_closeList_of_isStart hb)
      refine .of_entered hstart fun rest hrest => ?_
      refine .trans (passed_tokens value hrest (ends_elementTokens more values) (by omega)) ?_
      exact fun left behind hleft hbehind => passed_elementTokens values hbehind (by omega)
  | object members =>
    rw [tokens_object_append] at htext
    match members with
    | [] =>
      have hempty :
          Spaced ([Enclosure.object.opening] :: [Enclosure.object.closing] :: more) text := htext
      exact (Passed.of_complete (yields_skipStart_empty hempty)).mono hlength
    | (name, value) :: members =>
      -- a name and its colon are passed over together, so there are more tokens than steps
      have hsteps : value.tokens.length + ((memberTokens false members).length + 1) + 1 ≤
          (object ((name, value) :: members)).tokens.length := by
        simp only [tokens, memberTokens, separator, List.length_append, List.length_cons]
        simp
        omega
      have hentry : Spaced ([openObject] :: ([name.token, [colon]] ++ (value.tokens ++
          (memberTokens false members ++ [closeObject] :: more)))) text := by
        simpa [memberTokens, separator] using htext
      have hstart := yields_skipStart_entered (.member name) hentry rfl rfl (by decide)
      refine Passed.mono (.of_entered hstart fun rest hrest => ?_) hsteps
      refine .trans (passed_tokens value hrest (ends_memberTokens more members) (by omega)) ?_
      exact fun left behind hleft hbehind => passed_memberTokens members hbehind (by omega)

/-- The elements of a list that are left are passed over with its end. -/
theorem passed_elementTokens (values : List Value) {fuel : Nat} {around : List Enclosure}
    {text : List UInt8} {more : List Token}
    (htext : Spaced (elementTokens false values ++ [closeList] :: more) text)
    (hfuel : (elementTokens false values).length + 1 ≤ fuel) :
    Passed ((elementTokens false values).length + 1) fuel false (.list :: around) text around
      more := by
  obtain ⟨fuel, rfl⟩ : ∃ left, fuel = left + 1 := ⟨fuel - 1, by omega⟩
  match values with
  | [] =>
    have hclosing : Spaced ([Enclosure.list.closing] :: more) text := htext
    exact .of_closing hclosing
  | value :: values =>
    have hsteps : (elementTokens false (value :: values)).length + 1 =
        value.tokens.length + ((elementTokens false values).length + 1) + 1 := by
      simp [elementTokens, separator]
      omega
    rw [hsteps] at hfuel ⊢
    have hentry : Spaced ([comma] :: ([] ++ (value.tokens ++
        (elementTokens false values ++ [closeList] :: more)))) text := by
      simpa [elementTokens, separator] using htext
    refine .of_comma .element hentry fun rest hrest => ?_
    refine .trans (passed_tokens value hrest (ends_elementTokens more values) (by omega)) ?_
    exact fun left behind hleft hbehind => passed_elementTokens values hbehind (by omega)

/-- The members of an object that are left are passed over with its end. -/
theorem passed_memberTokens (members : List (Spelling × Value)) {fuel : Nat}
    {around : List Enclosure} {text : List UInt8} {more : List Token}
    (htext : Spaced (memberTokens false members ++ [closeObject] :: more) text)
    (hfuel : (memberTokens false members).length + 1 ≤ fuel) :
    Passed ((memberTokens false members).length + 1) fuel false (.object :: around) text around
      more := by
  obtain ⟨fuel, rfl⟩ : ∃ left, fuel = left + 1 := ⟨fuel - 1, by omega⟩
  match members with
  | [] =>
    have hclosing : Spaced ([Enclosure.object.closing] :: more) text := htext
    exact .of_closing hclosing
  | (name, value) :: members =>
    have hsteps : value.tokens.length + ((memberTokens false members).length + 1) + 1 ≤
        (memberTokens false ((name, value) :: members)).length + 1 := by
      simp [memberTokens, separator]
      omega
    have hentry : Spaced ([comma] :: ([name.token, [colon]] ++ (value.tokens ++
        (memberTokens false members ++ [closeObject] :: more)))) text := by
      simpa [memberTokens, separator] using htext
    refine Passed.mono (.of_comma (.member name) hentry fun rest hrest => ?_) hsteps
    refine .trans (passed_tokens value hrest (ends_memberTokens more members) (by omega)) ?_
    exact fun left behind hleft hbehind => passed_memberTokens members hbehind (by omega)

end

/-- A value is passed over, and nothing behind it is touched. -/
theorem yields_skipValue (value : Value) (htext : Spaced (value.tokens ++ more) text)
    (hmore : Ends more) : Yields skipValue text (some ()) more := by
  have hlength := htext.length_le value.isToken_tokens
  have hpassed : Passed value.tokens.length (text.length + 1) true [] text [] more :=
    passed_tokens value htext hmore (by omega)
  obtain ⟨left, rest, hleft, hrest, hskip⟩ := hpassed
  obtain ⟨left, rfl⟩ : ∃ fewer, left = fewer + 1 := ⟨left - 1, by omega⟩
  exact ⟨rest, hskip, hrest⟩

end DrinkMixer.Json
