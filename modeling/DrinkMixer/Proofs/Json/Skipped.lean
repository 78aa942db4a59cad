import DrinkMixer.Proofs.Json.Skipping
import DrinkMixer.Proofs.Json.Spelled

/-!
# Values that were passed over

What is passed over is a value, whatever it is made of and however deep it is nested. The steps
within lists and objects pass over the rest of a value and of everything that is open around it
(`Closes`).

Main statements: `taken_skipNested`, what a run of steps takes off a document, and
`taken_skipValue`, what is passed over is a value.
-/

namespace DrinkMixer.Json

open Reader Value

variable {text rest : List UInt8} {tokens label closers : List Token} {enclosure : Enclosure}
  {around : List Enclosure}

/-! ### Entries -/

/-- What is passed over before the value of an entry is its label. -/
theorem taken_skipLabel (h : skipLabel enclosure text = .ok ((), rest)) :
    ∃ label, IsLabel enclosure label ∧ Taken label text rest := by
  cases enclosure with
  | list =>
    cases h
    exact ⟨[], .element, .refl text⟩
  | object =>
    obtain ⟨middle, htaken, hnext⟩ := exists_of_peek h
    cases middle with
    | nil => cases hnext
    | cons b middle =>
      simp only [List.head?_cons] at hnext
      split_ifs at hnext with hquote
      · obtain ⟨_, _, hadvance, hname⟩ := exists_of_bind hnext
        cases hadvance
        obtain ⟨_, behind, hskip, hcolon⟩ := exists_of_bind hname
        obtain ⟨name, hspelled⟩ := taken_skipText hskip
        subst hquote
        exact ⟨_, .member name, htaken.append (hspelled.append (taken_nameEnd hcolon))⟩
      · cases hnext

/-- Behind a value comes a comma with the label of the next one, or the end of what it is in. -/
theorem taken_skipAfter {ended : Bool} (h : skipAfter enclosure text = .ok (ended, rest)) :
    if ended then Taken [[enclosure.closing]] text rest
    else ∃ label, IsLabel enclosure label ∧ Taken ([comma] :: label) text rest := by
  obtain ⟨middle, htaken, hnext⟩ := exists_of_peek h
  cases middle with
  | nil => cases hnext
  | cons b middle =>
    simp only [List.head?_cons] at hnext
    split_ifs at hnext with hcomma hclose
    · obtain ⟨_, _, hadvance, hentry⟩ := exists_of_bind hnext
      cases hadvance
      obtain ⟨_, behind, hskip, hpure⟩ := exists_of_bind hentry
      cases hpure
      obtain ⟨label, hlabel, htakenLabel⟩ := taken_skipLabel hskip
      subst hcomma
      exact ⟨label, hlabel, htaken.append ((taken_token [comma] middle).append htakenLabel)⟩
    · obtain ⟨_, _, hadvance, hpure⟩ := exists_of_bind hnext
      cases hadvance
      cases hpure
      subst hclose
      exact htaken.append (taken_token [enclosure.closing] middle)
    · cases hnext

/-! ### How values begin -/

/-- What is passed over as a scalar is a value. -/
theorem taken_skipScalar {b : UInt8} (h : skipScalar b (b :: text) = .ok ((), rest)) :
    ∃ value : Value, Taken value.tokens (b :: text) rest := by
  rw [skipScalar] at h
  split_ifs at h with hquote hnumber hnull htrue hfalse
  · obtain ⟨_, _, hadvance, hskip⟩ := exists_of_bind h
    cases hadvance
    obtain ⟨spelling, hspelled⟩ := taken_skipText hskip
    subst hquote
    exact ⟨.text spelling, hspelled⟩
  · obtain ⟨written, _, hwritten, hpure⟩ := exists_of_bind h
    cases hpure
    obtain ⟨figure, -, hfigure⟩ := exists_figure hwritten
    rw [hfigure]
    exact ⟨.number figure, taken_token figure.token rest⟩
  · obtain ⟨_, _, hadvance, hword⟩ := exists_of_bind h
    cases hadvance
    subst hnull
    exact ⟨.null, taken_word hword⟩
  · obtain ⟨_, _, hadvance, hword⟩ := exists_of_bind h
    cases hadvance
    subst htrue
    exact ⟨.boolean true, taken_word hword⟩
  · obtain ⟨_, _, hadvance, hword⟩ := exists_of_bind h
    cases hadvance
    subst hfalse
    exact ⟨.boolean false, taken_word hword⟩
  · cases h

/-- The list or the object with nothing in it. -/
def Enclosure.empty : Enclosure → Value
  | list => .list []
  | object => .object []

/-- What a step at the beginning of a value takes. -/
def Begun (opening : Reader.Opening) (text rest : List UInt8) : Prop :=
  match opening with
  | .complete => ∃ value : Value, Taken value.tokens text rest
  | .entered enclosure =>
    ∃ label, IsLabel enclosure label ∧ Taken ([enclosure.opening] :: label) text rest

theorem begun_skipOpening {opening : Reader.Opening}
    (h : skipOpening enclosure (enclosure.opening :: text) = .ok (opening, rest)) :
    Begun opening (enclosure.opening :: text) rest := by
  obtain ⟨_, _, hadvance, hinner⟩ := exists_of_bind h
  cases hadvance
  obtain ⟨middle, htaken, hnext⟩ := exists_of_peek hinner
  have hopened := (taken_token [enclosure.opening] text).append htaken
  cases middle with
  | nil => cases hnext
  | cons b middle =>
    simp only [List.head?_cons] at hnext
    split_ifs at hnext with hclose
    · obtain ⟨_, _, hadvance, hpure⟩ := exists_of_bind hnext
      cases hadvance
      cases hpure
      subst hclose
      have hempty := hopened.append (taken_token [enclosure.closing] middle)
      refine ⟨enclosure.empty, ?_⟩
      cases enclosure with
      | list => exact hempty
      | object => exact hempty
    · obtain ⟨_, behind, hskip, hpure⟩ := exists_of_bind hnext
      cases hpure
      obtain ⟨label, hlabel, htakenLabel⟩ := taken_skipLabel hskip
      exact ⟨label, hlabel, hopened.append htakenLabel⟩

theorem Begun.blanks {opening : Reader.Opening} {middle : List UInt8}
    (htaken : Taken [] text middle)
    (h : Begun opening middle rest) : Begun opening text rest := by
  cases opening with
  | complete =>
    obtain ⟨value, hvalue⟩ := h
    exact ⟨value, htaken.append hvalue⟩
  | entered enclosure =>
    obtain ⟨label, hlabel, hopened⟩ := h
    exact ⟨label, hlabel, htaken.append hopened⟩

theorem begun_skipStart {opening : Reader.Opening} (h : skipStart text = .ok (opening, rest)) :
    Begun opening text rest := by
  obtain ⟨b, middle, hstart, hnext⟩ := exists_of_bind h
  obtain ⟨htaken, more, rfl⟩ := taken_valueStart hstart
  refine .blanks htaken ?_
  split_ifs at hnext with hlist hobject
  · subst hlist
    have hopening : skipOpening .list (Enclosure.list.opening :: more) = .ok (opening, rest) :=
      hnext
    exact begun_skipOpening hopening
  · subst hobject
    have hopening : skipOpening .object (Enclosure.object.opening :: more) = .ok (opening, rest) :=
      hnext
    exact begun_skipOpening hopening
  · obtain ⟨_, behind, hskip, hpure⟩ := exists_of_bind hnext
    cases hpure
    exact taken_skipScalar hskip

/-! ### Nested values -/

/-- Tokens that end what is open around a place, innermost first: the entries that are left of each
list or object, and the bracket that closes it. -/
inductive Closes : List Enclosure → List Token → Prop
  | nil : Closes [] []
  | list (elements : List Value) {around : List Enclosure} {closers : List Token}
    (h : Closes around closers) :
    Closes (.list :: around) (elementTokens false elements ++ [closeList] :: closers)
  | object (members : List (Spelling × Value)) {around : List Enclosure} {closers : List Token}
    (h : Closes around closers) :
    Closes (.object :: around) (memberTokens false members ++ [closeObject] :: closers)

/-- Nothing has to be left of a list or an object but its bracket. -/
theorem Closes.closing (h : Closes around closers) :
    Closes (enclosure :: around) ([enclosure.closing] :: closers) := by
  cases enclosure with
  | list => exact .list [] h
  | object => exact .object [] h

/-- One more entry can be left. -/
theorem Closes.comma (hlabel : IsLabel enclosure label) (value : Value)
    (h : Closes (enclosure :: around) closers) :
    Closes (enclosure :: around) ([comma] :: (label ++ (value.tokens ++ closers))) := by
  cases h with
  | list elements h =>
    cases hlabel with
    | element =>
      have hmore := h.list (value :: elements)
      rw [elementTokens, separator, List.append_assoc, List.append_assoc] at hmore
      exact hmore
  | object members h =>
    cases hlabel with
    | member name =>
      have hmore := h.object ((name, value) :: members)
      rw [memberTokens, separator, List.append_assoc, List.cons_append, List.cons_append,
        List.append_assoc] at hmore
      exact hmore

/-- A list or an object with a first entry is a value. -/
theorem Closes.opened (hlabel : IsLabel enclosure label) (value : Value)
    (h : Closes (enclosure :: around) closers) :
    ∃ (whole : Value) (outer : List Token), Closes around outer ∧
      [enclosure.opening] :: (label ++ (value.tokens ++ closers)) = whole.tokens ++ outer := by
  cases h with
  | list elements h =>
    cases hlabel with
    | element =>
      refine ⟨.list (value :: elements), _, h, ?_⟩
      rw [tokens_list_append, elementTokens, separator]
      simp [Enclosure.opening]
  | object members h =>
    cases hlabel with
    | member name =>
      refine ⟨.object ((name, value) :: members), _, h, ?_⟩
      rw [tokens_object_append, memberTokens, separator]
      simp [Enclosure.opening]

/-- What is passed over is the value that begins there, if one has to, and the rest of everything
that is open around the place. -/
theorem taken_skipNested {fuel : Nat} {starting : Bool}
    (h : skipNested fuel starting around text = .ok ((), rest)) :
    ∃ closers, Closes around closers ∧
      if starting then ∃ value : Value, Taken (value.tokens ++ closers) text rest
      else Taken closers text rest := by
  induction fuel generalizing starting around text with
  | zero => cases h
  | succ fuel ih =>
    -- where a value has to begin, at the very end, and behind a value in something open
    match starting, around with
    | true, around =>
      rw [skipNested] at h
      obtain ⟨opening, middle, hstart, hnext⟩ := exists_of_bind h
      have hbegun := begun_skipStart hstart
      cases opening with
      | complete =>
        obtain ⟨value, hvalue⟩ := hbegun
        obtain ⟨closers, hclosers, htaken⟩ := ih hnext
        exact ⟨closers, hclosers, value, hvalue.append htaken⟩
      | entered enclosure =>
        -- the first value inside and the closers make up the list or the object
        obtain ⟨label, hlabel, hopened⟩ := hbegun
        obtain ⟨inner, hinner, value, htaken⟩ := ih hnext
        obtain ⟨whole, outer, houter, htokens⟩ := hinner.opened hlabel value
        have hall := hopened.append htaken
        rw [List.cons_append, htokens] at hall
        exact ⟨outer, houter, whole, hall⟩
    | false, [] =>
      cases h
      exact ⟨[], .nil, .refl _⟩
    | false, enclosure :: around =>
      rw [skipNested] at h
      obtain ⟨ended, middle, hafter, hnext⟩ := exists_of_bind h
      have htakenAfter := taken_skipAfter hafter
      cases ended with
      | true =>
        obtain ⟨closers, hclosers, htaken⟩ := ih hnext
        exact ⟨_, hclosers.closing, htakenAfter.append htaken⟩
      | false =>
        obtain ⟨label, hlabel, hcomma⟩ := htakenAfter
        obtain ⟨closers, hclosers, value, htaken⟩ := ih hnext
        exact ⟨_, hclosers.comma hlabel value, hcomma.append htaken⟩

/-- What is passed over is a value. -/
theorem taken_skipValue (h : skipValue text = .ok ((), rest)) :
    ∃ value : Value, Taken value.tokens text rest := by
  obtain ⟨closers, hclosers, value, htaken⟩ := taken_skipNested h
  cases hclosers
  rw [List.append_nil] at htaken
  exact ⟨value, htaken⟩

end DrinkMixer.Json
