import DrinkMixer.Proofs.Json.Grammar
import Mathlib.Tactic.SplitIfs

/-!
# What readers take off a document

A reader that accepts has taken some tokens off the front of the document, with blanks around them
(`Taken`). What each of several readers takes stands one after the other.

Main statements: `Taken.append`, `exists_of_peek`, a step at the byte that comes next, and what the
readers of punctuation take (`taken_elementFollows`, `taken_memberFollows` and others).
-/

namespace DrinkMixer.Json

open Reader Value

/-- Some tokens stand in front of the rest of a text, with any blanks before and between them. -/
def Taken (tokens : List Token) (text rest : List UInt8) : Prop :=
  ∀ more, Spaced more rest → Spaced (tokens ++ more) text

variable {text middle rest : List UInt8} {tokens first second : List Token}

theorem Taken.refl (text : List UInt8) : Taken [] text text :=
  fun _ hmore => hmore

/-- What stands in front of a rest stands one after the other. -/
theorem Taken.append (hfirst : Taken first text middle) (hsecond : Taken second middle rest) :
    Taken (first ++ second) text rest := by
  intro more hmore
  rw [List.append_assoc]
  exact hfirst _ (hsecond more hmore)

theorem taken_token (token : Token) (rest : List UInt8) : Taken [token] (token ++ rest) rest :=
  fun _ hmore => hmore.tight

/-- Blanks belong to what follows them. -/
theorem Spaced.blanks_append {blanks : List UInt8} (hblanks : ∀ b ∈ blanks, isBlank b = true)
    (h : Spaced tokens text) : Spaced tokens (blanks ++ text) := by
  cases h with
  | blanks hmore =>
    refine .blanks ?_
    rw [List.forall_mem_append]
    exact ⟨hblanks, hmore⟩
  | @token token tokens between rest hbetween hrest =>
    rw [← List.append_assoc]
    refine .token ?_ hrest
    rw [List.forall_mem_append]
    exact ⟨hblanks, hbetween⟩

theorem taken_dropWhile (text : List UInt8) : Taken [] text (text.dropWhile isBlank) := by
  intro more hmore
  have hblanks : ∀ b ∈ text.takeWhile isBlank, isBlank b = true :=
    List.all_eq_true.mp List.all_takeWhile
  have hspaced := hmore.blanks_append hblanks
  rw [List.takeWhile_append_dropWhile] at hspaced
  exact hspaced

/-- A text whose rest is blank is made of what was taken. -/
theorem Taken.spaced (h : Taken tokens text rest) (hrest : Spaced [] rest) :
    Spaced tokens text := by
  have hspaced := h [] hrest
  rwa [List.append_nil] at hspaced

/-! ### Steps -/

section Steps

variable {α β : Type} {p : Reader α} {y : β}

/-- Where one thing after another accepts, both do. -/
theorem exists_of_bind {f : α → Reader β} (h : (p >>= f) text = .ok (y, rest)) :
    ∃ x middle, p text = .ok (x, middle) ∧ f x middle = .ok (y, rest) := by
  cases hp : p text with
  | error fault =>
    rw [bind_of_error hp] at h
    cases h
  | ok taken =>
    obtain ⟨x, middle⟩ := taken
    rw [bind_of_ok hp] at h
    exact ⟨x, middle, rfl, h⟩

theorem exists_of_map {g : α → β} (h : (g <$> p) text = .ok (y, rest)) :
    ∃ x, p text = .ok (x, rest) ∧ y = g x := by
  have hbind : (p >>= fun x => pure (g x)) text = .ok (y, rest) := h
  obtain ⟨x, middle, hp, hpure⟩ := exists_of_bind hbind
  cases hpure
  exact ⟨x, hp, rfl⟩

/-- A step at the byte that comes next, behind the blanks. -/
theorem exists_of_peek {f : Option UInt8 → Reader β}
    (h : (do
      skipBlanks
      f (← peek?)) text = .ok (y, rest)) :
    ∃ middle, Taken [] text middle ∧ f middle.head? middle = .ok (y, rest) :=
  ⟨text.dropWhile isBlank, taken_dropWhile text, h⟩

/-- A value begins with a byte that is left where it is. -/
theorem taken_valueStart {b : UInt8} (h : valueStart text = .ok (b, rest)) :
    Taken [] text rest ∧ ∃ more, rest = b :: more := by
  obtain ⟨middle, htaken, hnext⟩ := exists_of_peek h
  cases middle with
  | nil => cases hnext
  | cons c more =>
    cases hnext
    exact ⟨htaken, more, rfl⟩

/-- A value of the wrong type is never accepted. -/
theorem mismatch_ne_ok {expected : String} {x : α} :
    (mismatch expected : Reader α) text ≠ .ok (x, rest) := by
  intro h
  obtain ⟨_, _, _, hrefuse⟩ := exists_of_bind h
  cases hrefuse

/-- A word is taken as it is. -/
theorem eq_of_word {expected : List UInt8} (h : word expected text = .ok ((), rest)) :
    text = expected ++ rest := by
  induction expected generalizing text with
  | nil =>
    cases h
    rfl
  | cons b more ih =>
    rw [word] at h
    obtain ⟨c, middle, hbyte, hnext⟩ := exists_of_bind h
    cases text with
    | nil => cases hbyte
    | cons d text =>
      cases hbyte
      split_ifs at hnext with heq
      · rw [heq, ih hnext, List.cons_append]
      · cases hnext

end Steps

/-! ### Punctuation -/

/-- Behind the separator of an element comes the element, or in its place the end of the list. -/
theorem taken_elementFollows {isFirst follows : Bool}
    (h : elementFollows isFirst text = .ok (follows, rest)) :
    Taken (if follows then separator isFirst else []) text rest := by
  obtain ⟨middle, htaken, hnext⟩ := exists_of_peek h
  cases middle with
  | nil => cases hnext
  | cons b middle =>
    simp only [List.head?_cons] at hnext
    split_ifs at hnext with hclose hfirst hcomma
    · cases hnext
      exact htaken
    · cases hnext
      rw [hfirst]
      exact htaken
    · obtain ⟨_, _, hadvance, hbehind⟩ := exists_of_bind hnext
      cases hadvance
      obtain ⟨inner, hinner, hlast⟩ := exists_of_peek hbehind
      cases inner with
      | nil => cases hlast
      | cons c inner =>
        simp only [List.head?_cons] at hlast
        split_ifs at hlast with hend
        · cases hlast
        · cases hlast
          rw [hcomma] at htaken
          rw [eq_false_of_ne_true hfirst]
          exact (htaken.append (taken_token [comma] middle)).append hinner
    · cases hnext

theorem taken_endList (h : endList text = .ok ((), rest)) : Taken [[closeList]] text rest := by
  obtain ⟨middle, htaken, hnext⟩ := exists_of_peek h
  cases middle with
  | nil => cases hnext
  | cons b middle =>
    simp only [List.head?_cons] at hnext
    split_ifs at hnext with hclose hcomma
    · cases hnext
      rw [hclose] at htaken
      exact htaken.append (taken_token [closeList] middle)
    · -- whatever stands behind a comma is refused
      obtain ⟨_, _, hadvance, hbehind⟩ := exists_of_bind hnext
      obtain ⟨inner, _, hlast⟩ := exists_of_peek hbehind
      split_ifs at hlast
      · cases hlast
      · cases hlast
    · cases hnext

/-- Behind the separator of a member comes the quote of its name, or in its place the end of the
object. -/
theorem taken_memberFollows {isFirst follows : Bool}
    (h : memberFollows isFirst text = .ok (follows, rest)) :
    ∃ more, rest = (if follows then quote else closeObject) :: more ∧
      Taken (if follows then separator isFirst else []) text rest := by
  obtain ⟨middle, htaken, hnext⟩ := exists_of_peek h
  cases middle with
  | nil => cases hnext
  | cons b middle =>
    simp only [List.head?_cons] at hnext
    -- the end, the first name, or a comma with a further name; anything else is refused
    split_ifs at hnext with hclose hfirst hquote hcomma
    · cases hnext
      exact ⟨middle, by rw [hclose]; rfl, htaken⟩
    · cases hnext
      rw [hfirst]
      exact ⟨middle, by rw [hquote]; rfl, htaken⟩
    · cases hnext
    · obtain ⟨_, _, hadvance, hbehind⟩ := exists_of_bind hnext
      cases hadvance
      obtain ⟨inner, hinner, hlast⟩ := exists_of_peek hbehind
      cases inner with
      | nil => cases hlast
      | cons c inner =>
        simp only [List.head?_cons] at hlast
        split_ifs at hlast with hquote
        · cases hlast
          rw [hcomma] at htaken
          rw [eq_false_of_ne_true hfirst]
          refine ⟨inner, by rw [hquote]; rfl, ?_⟩
          exact (htaken.append (taken_token [comma] middle)).append hinner
        · cases hlast
        · cases hlast
    · cases hnext

theorem taken_nameEnd (h : nameEnd text = .ok ((), rest)) : Taken [[colon]] text rest := by
  obtain ⟨middle, htaken, hnext⟩ := exists_of_peek h
  cases middle with
  | nil => cases hnext
  | cons b middle =>
    simp only [List.head?_cons] at hnext
    split_ifs at hnext with hcolon
    · cases hnext
      rw [hcolon] at htaken
      exact htaken.append (taken_token [colon] middle)
    · cases hnext

/-- Up to the end of a document there are blanks only. -/
theorem spaced_documentEnd (h : documentEnd text = .ok ((), rest)) : Spaced [] text := by
  obtain ⟨middle, htaken, hnext⟩ := exists_of_peek h
  cases middle with
  | nil => exact htaken [] (.blanks (List.forall_mem_nil _))
  | cons b middle => cases hnext

end DrinkMixer.Json
