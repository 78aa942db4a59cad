import DrinkMixer.Proofs.Json.Records

/-!
# Documents as they are written

A `Value` is a JSON value with everything that its author can choose: the digits and exponents of
its numbers, the escapes in its texts, the order and the names of its members. It is written as a
list of tokens, and blanks can stand around all of them (`Spaced`).

Main statements: `Spaced.exists_skipBlanks`, behind the blanks of a document comes its first token,
and `Spaced.delimited`, what stands behind a value is told from its end.
-/

namespace DrinkMixer.Json

open Reader TextState

/-! ### Tokens -/

/-- A part of a document in which no blanks can be added. -/
abbrev Token := List UInt8

/-- A text is made of some tokens in order, with any blanks before, between and behind them. -/
inductive Spaced : List Token → List UInt8 → Prop
  | blanks {blanks : List UInt8} (h : ∀ b ∈ blanks, isBlank b = true) : Spaced [] blanks
  /-- Blanks, a token, and a text made of the others. -/
  | token {token : Token} {tokens : List Token} {blanks rest : List UInt8}
    (h : ∀ b ∈ blanks, isBlank b = true) (more : Spaced tokens rest) :
    Spaced (token :: tokens) (blanks ++ (token ++ rest))

/-- A token has a byte, and does not begin with a blank. -/
def IsToken (token : Token) : Prop :=
  ∃ b more, token = b :: more ∧ isBlank b = false

/-- Tokens with which something can stand behind a value: a comma or a bracket that closes, unless
nothing is left. -/
def Ends (tokens : List Token) : Prop :=
  ∀ token ∈ tokens.head?, token = [comma] ∨ token = [closeList] ∨ token = [closeObject]

section Spaced

variable {tokens : List Token} {token : Token} {text : List UInt8} {b : UInt8}

/-- No blanks have to be added. -/
theorem Spaced.tight (h : Spaced tokens text) : Spaced (token :: tokens) (token ++ text) := by
  have hspaced : Spaced (token :: tokens) ([] ++ (token ++ text)) :=
    .token (List.forall_mem_nil _) h
  exact hspaced

/-- Behind the blanks of a text comes its first token. -/
theorem Spaced.exists_skipBlanks (h : Spaced ((b :: token) :: tokens) text)
    (hb : isBlank b = false) :
    ∃ rest, skipBlanks text = .ok ((), b :: (token ++ rest)) ∧ Spaced tokens rest := by
  cases h with
  | @token _ _ blanks rest hblanks hrest =>
    refine ⟨rest, ?_, hrest⟩
    rw [skipBlanks, List.dropWhile_append_of_pos hblanks, List.cons_append,
      List.dropWhile_cons_of_neg (by simp [hb])]

/-- A text of nothing but blanks. -/
theorem Spaced.skipBlanks_eq_nil (h : Spaced [] text) : skipBlanks text = .ok ((), []) := by
  cases h with
  | blanks hblanks =>
    rw [skipBlanks, ← List.append_nil text, List.dropWhile_append_of_pos hblanks]
    rfl

/-- A text has a byte for every token. -/
theorem Spaced.length_le {more : List Token} (h : Spaced (tokens ++ more) text)
    (htokens : ∀ token ∈ tokens, IsToken token) : tokens.length ≤ text.length := by
  induction tokens generalizing text with
  | nil => exact Nat.zero_le _
  | cons token tokens ih =>
    rw [List.forall_mem_cons] at htokens
    obtain ⟨⟨b, bytes, rfl, _⟩, hmore⟩ := htokens
    cases h with
    | token _ hrest =>
      have hlength := ih hrest hmore
      simp only [List.length_append, List.length_cons]
      omega

/-- Whether a text is made of some tokens, taken off one after the other. -/
def isSpaced : List Token → List UInt8 → Bool
  | [], text => text.all isBlank
  | token :: tokens, text =>
    token.isPrefixOf (text.dropWhile isBlank) &&
      isSpaced tokens ((text.dropWhile isBlank).drop token.length)

theorem spaced_of_isSpaced (h : isSpaced tokens text = true) : Spaced tokens text := by
  induction tokens generalizing text with
  | nil => exact .blanks (List.all_eq_true.mp h)
  | cons token tokens ih =>
    rw [isSpaced, Bool.and_eq_true, List.isPrefixOf_iff_prefix] at h
    obtain ⟨⟨rest, hrest⟩, hmore⟩ := h
    rw [← hrest, List.drop_left] at hmore
    have hblanks : ∀ b ∈ text.takeWhile isBlank, isBlank b = true :=
      List.all_eq_true.mp List.all_takeWhile
    rw [← List.takeWhile_append_dropWhile (p := isBlank) (l := text), ← hrest]
    exact .token hblanks (ih hmore)

/-- What stands behind a value is told from its end. -/
theorem Spaced.delimited (h : Spaced tokens text) (hends : Ends tokens) : Delimited text := by
  intro b hb
  have hblank : ∀ {blanks : List UInt8} {c : UInt8} {more : List UInt8}, blanks = c :: more →
      (∀ b ∈ blanks, isBlank b = true) → isBlank c = true := by
    rintro _ c more rfl hblanks
    exact hblanks c List.mem_cons_self
  cases h with
  | blanks hblanks =>
    obtain ⟨more, rfl⟩ := List.head?_eq_some_iff.mp hb
    exact Or.inl (hblank rfl hblanks)
  | @token token tokens blanks rest hblanks _ =>
    cases blanks with
    | cons c blanks =>
      obtain rfl : c = b := Option.some.inj hb
      exact Or.inl (hblank rfl hblanks)
    | nil =>
      right
      rcases hends token rfl with rfl | rfl | rfl
      · exact Or.inl (Option.some.inj hb).symm
      · exact Or.inr (Or.inl (Option.some.inj hb).symm)
      · exact Or.inr (Or.inr (Option.some.inj hb).symm)

end Spaced

/-! ### Texts -/

/-- A hexadecimal digit, in either case. -/
abbrev HexDigit := { b : UInt8 // (hexValue? b).isSome = true }

/-- A part of a text as it is written. -/
inductive Glyph
  /-- A byte that stands for itself. -/
  | verbatim (b : UInt8) (h : isVerbatim b = true)
  /-- A letter behind a backslash. -/
  | escape (letter : UInt8) (h : (shortEscape? letter).isSome = true)
  /-- The four digits of a code unit, which may be a surrogate without a partner. -/
  | unit (first second third fourth : HexDigit)

/-- The bytes of a part of a text. -/
def Glyph.bytes : Glyph → List UInt8
  | verbatim b _ => [b]
  | escape letter _ => [backslash, letter]
  | unit first second third fourth =>
    [backslash, unitLetter, first.val, second.val, third.val, fourth.val]

/-- Whether a part of a text stands for itself. -/
def Glyph.isVerbatim : Glyph → Bool
  | verbatim _ _ => true
  | _ => false

/-- A text as it is written between its quotes. -/
abbrev Spelling := List Glyph

namespace Spelling

/-- The spelling without escapes of bytes that stand for themselves; others are left out. -/
def verbatim (text : List UInt8) : Spelling :=
  text.filterMap fun b => if h : Json.isVerbatim b = true then some (.verbatim b h) else none

/-- The bytes between the quotes. -/
def bytes (spelling : Spelling) : List UInt8 :=
  spelling.flatMap Glyph.bytes

/-- The bytes with the quotes. -/
def token (spelling : Spelling) : Token :=
  quote :: (spelling.bytes ++ [quote])

/-- Whether a text is written without escapes. -/
def isVerbatim (spelling : Spelling) : Bool :=
  spelling.all Glyph.isVerbatim

theorem verbatim_of_mem_bytes {spelling : Spelling} {b : UInt8}
    (h : spelling.isVerbatim = true) (hb : b ∈ spelling.bytes) : Json.isVerbatim b = true := by
  obtain ⟨glyph, hglyph, hbyte⟩ := List.mem_flatMap.mp hb
  have hverbatim := List.all_eq_true.mp h glyph hglyph
  cases glyph with
  | verbatim c hc =>
    obtain rfl : b = c := List.mem_singleton.mp hbyte
    exact hc
  | escape letter hletter => cases hverbatim
  | unit first second third fourth => cases hverbatim

end Spelling

/-! ### Numbers -/

/-- The byte of a decimal digit. -/
def digit (d : Fin 10) : UInt8 :=
  0x30 + UInt8.ofNat d

theorem isDigit_digit (d : Fin 10) : isDigit (digit d) = true :=
  isDigit_ofNat d.isLt

/-- The exponent of a number as it is written. -/
structure Exponent where
  /-- Whether its letter is a capital. -/
  capital : Bool
  /-- Its sign, if there is one: whether it is a minus. -/
  sign : Option Bool
  first : Fin 10
  more : List (Fin 10)

/-- The byte of a sign. -/
def signByte (negative : Bool) : UInt8 :=
  if negative then minus else 0x2B

/-- The bytes of an exponent. -/
def Exponent.bytes (exponent : Exponent) : List UInt8 :=
  (if exponent.capital then 0x45 else 0x65) ::
    ((exponent.sign.map signByte).toList ++ (digit exponent.first :: exponent.more.map digit))

/-- What an exponent is read as. -/
def Exponent.digits (exponent : Exponent) : Bool × List UInt8 :=
  (exponent.sign.getD false, (exponent.first :: exponent.more).map digit)

/-- A number as it is written. -/
structure Figure where
  negative : Bool
  /-- The number before the point. -/
  whole : Nat
  /-- The digits behind the point; there is no point if there are none. -/
  fraction : List (Fin 10)
  exponent : Option Exponent

namespace Figure

/-- The point and the digits behind it. -/
def fractionBytes : List (Fin 10) → List UInt8
  | [] => []
  | places => 0x2E :: places.map digit

/-- The bytes of a number. -/
def token (figure : Figure) : Token :=
  (if figure.negative then [minus] else []) ++
    (decimal figure.whole ++ (fractionBytes figure.fraction ++
      (figure.exponent.map Exponent.bytes).getD []))

/-- What a number is read as. -/
def numeral (figure : Figure) : Numeral where
  negative := figure.negative
  whole := decimal figure.whole
  fraction := figure.fraction.map digit
  exponent := figure.exponent.map Exponent.digits

end Figure

/-! ### Values -/

/-- A value as it is written. -/
inductive Value
  | null
  | boolean (value : Bool)
  | number (figure : Figure)
  | text (spelling : Spelling)
  | list (elements : List Value)
  | object (members : List (Spelling × Value))

namespace Value

/-- A natural number without sign, point and exponent. -/
def plain (n : Nat) : Value :=
  number ⟨false, n, [], none⟩

/-- What tells an entry from the one before it. -/
def separator (first : Bool) : List Token :=
  if first then [] else [[comma]]

mutual

/-- The tokens of a value. -/
def tokens : Value → List Token
  | null => [bytes "null"]
  | boolean true => [bytes "true"]
  | boolean false => [bytes "false"]
  | number figure => [figure.token]
  | text spelling => [spelling.token]
  | list elements => [openList] :: (elementTokens true elements ++ [[closeList]])
  | object members => [openObject] :: (memberTokens true members ++ [[closeObject]])

/-- The tokens of the elements of a list that are left, given whether all are. -/
def elementTokens : (first : Bool) → List Value → List Token
  | _, [] => []
  | first, value :: values => separator first ++ (value.tokens ++ elementTokens false values)

/-- The tokens of the members of an object that are left, given whether all are. -/
def memberTokens : (first : Bool) → List (Spelling × Value) → List Token
  | _, [] => []
  | first, (name, value) :: members =>
    separator first ++ (name.token :: [colon] :: (value.tokens ++ memberTokens false members))

end

variable (more : List Token)

theorem tokens_list_append (elements : List Value) :
    (list elements).tokens ++ more =
      [openList] :: (elementTokens true elements ++ [closeList] :: more) := by
  simp [tokens]

theorem tokens_object_append (members : List (Spelling × Value)) :
    (object members).tokens ++ more =
      [openObject] :: (memberTokens true members ++ [closeObject] :: more) := by
  simp [tokens]

/-- Behind an element stands a comma or the end of the list. -/
theorem ends_elementTokens (elements : List Value) :
    Ends (elementTokens false elements ++ [closeList] :: more) := by
  cases elements with
  | nil => simp [Ends, elementTokens]
  | cons value values => simp [Ends, elementTokens, separator]

/-- Behind a member stands a comma or the end of the object. -/
theorem ends_memberTokens (members : List (Spelling × Value)) :
    Ends (memberTokens false members ++ [closeObject] :: more) := by
  match members with
  | [] => simp [Ends, memberTokens]
  | (name, value) :: members => simp [Ends, memberTokens, separator]

/-- A number begins with a minus or a digit. -/
theorem start_figure (figure : Figure) :
    ∃ b more, figure.token = b :: more ∧ (b = minus ∨ isDigit b = true) := by
  obtain ⟨negative, whole, fraction, exponent⟩ := figure
  cases negative with
  | true => exact ⟨minus, _, rfl, Or.inl rfl⟩
  | false =>
    obtain ⟨first, more, hdigits, hfirst, _⟩ := exists_decimal_eq whole
    refine ⟨first, more ++ (Figure.fractionBytes fraction ++
      (exponent.map Exponent.bytes).getD []), ?_, Or.inr hfirst⟩
    simp [Figure.token, hdigits]

/-- A value begins with a byte that is told from blanks and from the end of a list. -/
theorem start_tokens (value : Value) :
    ∃ b token rest, value.tokens = (b :: token) :: rest ∧ isStart b = true := by
  cases value with
  | null => exact ⟨_, _, _, rfl, rfl⟩
  | boolean value => cases value <;> exact ⟨_, _, _, rfl, rfl⟩
  | number figure =>
    obtain ⟨b, token, htoken, hb⟩ := start_figure figure
    refine ⟨b, token, [], by rw [tokens, htoken], ?_⟩
    rcases hb with rfl | hdigit
    · rfl
    · exact isStart_of_isDigit hdigit
  | text spelling => exact ⟨quote, _, [], rfl, rfl⟩
  | list elements => exact ⟨openList, _, _, rfl, rfl⟩
  | object members => exact ⟨openObject, _, _, rfl, rfl⟩

theorem isToken_of_mem_separator {first : Bool} {token : Token} (h : token ∈ separator first) :
    IsToken token := by
  cases first with
  | true => cases h
  | false =>
    obtain rfl : token = [comma] := List.mem_singleton.mp h
    exact ⟨comma, [], rfl, rfl⟩

mutual

theorem isToken_tokens (value : Value) : ∀ token ∈ value.tokens, IsToken token := by
  cases value with
  | null => exact List.forall_mem_singleton.mpr ⟨_, _, rfl, rfl⟩
  | boolean value => cases value <;> exact List.forall_mem_singleton.mpr ⟨_, _, rfl, rfl⟩
  | number figure =>
    obtain ⟨b, token, rest, htokens, hb⟩ := start_tokens (number figure)
    have htoken : figure.token = b :: token := (List.cons.inj htokens).1
    exact List.forall_mem_singleton.mpr ⟨b, token, htoken, isBlank_of_isStart hb⟩
  | text spelling => exact List.forall_mem_singleton.mpr ⟨quote, _, rfl, rfl⟩
  | list elements =>
    have helements := isToken_elementTokens true elements
    rw [tokens, List.forall_mem_cons, List.forall_mem_append, List.forall_mem_singleton]
    exact ⟨⟨openList, [], rfl, rfl⟩, helements, closeList, [], rfl, rfl⟩
  | object members =>
    have hmembers := isToken_memberTokens true members
    rw [tokens, List.forall_mem_cons, List.forall_mem_append, List.forall_mem_singleton]
    exact ⟨⟨openObject, [], rfl, rfl⟩, hmembers, closeObject, [], rfl, rfl⟩

theorem isToken_elementTokens (first : Bool) (elements : List Value) :
    ∀ token ∈ elementTokens first elements, IsToken token := by
  cases elements with
  | nil => exact List.forall_mem_nil _
  | cons value values =>
    have hvalue := isToken_tokens value
    have hvalues := isToken_elementTokens false values
    rw [elementTokens, List.forall_mem_append, List.forall_mem_append]
    exact ⟨fun _ => isToken_of_mem_separator, hvalue, hvalues⟩

theorem isToken_memberTokens (first : Bool) (members : List (Spelling × Value)) :
    ∀ token ∈ memberTokens first members, IsToken token := by
  match members with
  | [] => exact List.forall_mem_nil _
  | (name, value) :: members =>
    have hvalue := isToken_tokens value
    have hmembers := isToken_memberTokens false members
    rw [memberTokens, List.forall_mem_append, List.forall_mem_cons, List.forall_mem_cons,
      List.forall_mem_append]
    exact ⟨fun _ => isToken_of_mem_separator, ⟨quote, _, rfl, rfl⟩, ⟨colon, [], rfl, rfl⟩, hvalue,
      hmembers⟩

end

/-- An object has a token for every member. -/
theorem length_le_memberTokens (first : Bool) (members : List (Spelling × Value)) :
    members.length ≤ (memberTokens first members).length := by
  induction members generalizing first with
  | nil => exact Nat.zero_le _
  | cons member members ih =>
    obtain ⟨name, value⟩ := member
    have hmembers := ih false
    simp only [memberTokens, List.length_append, List.length_cons]
    omega

end Value

/-! ### What readers make of tokens -/

/-- What a reader makes of a text: it returns a value and stops in front of the given tokens, or it
refuses the text. -/
def Yields {α : Type} (p : Reader α) (text : List UInt8) : Option α → List Token → Prop
  | some x, more => ∃ rest, p text = .ok (x, rest) ∧ Spaced more rest
  | none, _ => ∃ fault, p text = .error fault

section Yields

variable {α β : Type} {p : Reader α} {f : α → Reader β} {text rest : List UInt8}
  {more later : List Token}

theorem Yields.of_refuse {fault : Fault} (h : p text = .error fault) : Yields p text none more :=
  ⟨fault, h⟩

theorem bind_of_error {fault : Fault} (h : p text = .error fault) :
    (p >>= f) text = .error fault := by
  show (p text >>= fun (value, rest) => f value rest) = _
  rw [h]
  rfl

/-- One thing after another: a refusal ends both. -/
theorem Yields.bind {x? : Option α} {g : α → Option β} (hp : Yields p text x? more)
    (hf : ∀ x ∈ x?, ∀ rest, Spaced more rest → Yields (f x) rest (g x) later) :
    Yields (p >>= f) text (x?.bind g) later := by
  cases x? with
  | none =>
    obtain ⟨fault, hfault⟩ := hp
    exact .of_refuse (bind_of_error hfault)
  | some x =>
    obtain ⟨rest, hok, hrest⟩ := hp
    have hnext := hf x rfl rest hrest
    rw [Option.bind_some]
    generalize g x = y? at hnext
    cases y? with
    | none => exact hnext.imp fun fault hfault => by rw [bind_of_ok hok, hfault]
    | some y => exact hnext.imp fun left hleft => by rwa [bind_of_ok hok]

/-- What follows a step that succeeds goes on with what that step left. -/
theorem Yields.of_ok {x : α} {y? : Option β} (hp : p text = .ok (x, rest))
    (hf : Yields (f x) rest y? later) : Yields (p >>= f) text y? later := by
  cases y? with
  | none => exact hf.imp fun fault hfault => by rw [bind_of_ok hp, hfault]
  | some y => exact hf.imp fun left hleft => by rwa [bind_of_ok hp]

/-- The byte that comes next is taken. -/
theorem Yields.of_advance {f : Unit → Reader β} {b : UInt8} {y? : Option β}
    (hf : Yields (f ()) rest y? later) : Yields (advance >>= f) (b :: rest) y? later := by
  have hadvance : advance (b :: rest) = .ok ((), rest) := rfl
  exact .of_ok hadvance hf

/-- What is done at the next token depends on the byte that it begins with. -/
theorem Yields.of_peek {f : Option UInt8 → Reader β} {b : UInt8} {token : Token} {y? : Option β}
    (htext : Spaced ((b :: token) :: more) text) (hb : isBlank b = false)
    (hf : ∀ rest, Spaced more rest → Yields (f (some b)) (b :: (token ++ rest)) y? later) :
    Yields (do
      skipBlanks
      f (← peek?)) text y? later := by
  obtain ⟨rest, hblanks, hrest⟩ := htext.exists_skipBlanks hb
  have hpeek : peek? (b :: (token ++ rest)) = .ok (some b, b :: (token ++ rest)) := rfl
  exact .of_ok hblanks (.of_ok hpeek (hf rest hrest))

theorem Yields.map {x? : Option α} (g : α → β) (hp : Yields p text x? more) :
    Yields (g <$> p) text (x?.map g) more := by
  cases x? with
  | none =>
    obtain ⟨fault, hfault⟩ := hp
    refine ⟨fault, ?_⟩
    show (p text >>= fun (value, rest) => .ok (g value, rest)) = _
    rw [hfault]
    rfl
  | some x =>
    obtain ⟨rest, hok, hrest⟩ := hp
    exact ⟨rest, map_of_ok hok, hrest⟩

/-- What a document has to have behind a value does not change the value. -/
theorem Yields.followed {x? : Option α} {q : Reader Unit} (hp : Yields p text x? more)
    (hq : ∀ rest, Spaced more rest → Yields q rest (some ()) later) :
    Yields (do
      let x ← p
      q
      pure x) text x? later := by
  cases x? with
  | none =>
    obtain ⟨fault, hfault⟩ := hp
    exact .of_refuse (bind_of_error hfault)
  | some x =>
    obtain ⟨rest, hok, hrest⟩ := hp
    obtain ⟨left, hend, hleft⟩ := hq rest hrest
    exact .of_ok hok (.of_ok hend ⟨left, rfl, hleft⟩)

end Yields

end DrinkMixer.Json
