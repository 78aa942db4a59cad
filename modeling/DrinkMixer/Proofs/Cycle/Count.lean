import DrinkMixer.Cycle.Request
import Mathlib.Data.List.DropRight

/-!
# Repeat counts

Main statement: `ofText_toString`, a repeat count is read back from its decimal text.
-/

namespace DrinkMixer.RepeatCount

/-- Digits are no blanks. -/
theorem not_isBlank_of_isDigit {c : Char} (h : isDigit c = true) : ¬Text.isBlank c = true := by
  simp only [isDigit, Bool.and_eq_true, decide_eq_true_eq] at h
  simp [Text.isBlank]
  omega

/-- There is nothing to trim around characters none of which is blank. -/
theorem trimmed_of_forall {cs : List Char} (h : ∀ c ∈ cs, ¬Text.isBlank c = true) :
    Text.trimmed cs = cs := by
  have hdrop : ∀ ds : List Char, (∀ c ∈ ds, ¬Text.isBlank c = true) →
      ds.dropWhile Text.isBlank = ds := fun ds hds =>
    List.dropWhile_eq_self_iff.mpr fun hpos => hds _ (List.getElem_mem hpos)
  rw [Text.trimmed, hdrop cs h, hdrop cs.reverse (by simpa using h), List.reverse_reverse]

/-- The characters of a decimal text are digits. -/
theorem isDigit_of_mem_toDigits {n : Nat} {c : Char} (h : c ∈ Nat.toDigits 10 n) :
    isDigit c = true := by
  have hdigit : c.isDigit = true := Nat.isDigit_of_mem_toDigits (by decide) (by decide) h
  simp only [Char.isDigit, Bool.and_eq_true, decide_eq_true_eq, UInt32.le_iff_toNat_le] at hdigit
  simp only [isDigit, Bool.and_eq_true, decide_eq_true_eq]
  exact hdigit

/-- A number is read back from its digits. -/
theorem value_toDigits (n : Nat) : value (Nat.toDigits 10 n) = n :=
  Nat.ofDigitChars_ten_toDigits

/-- Digits have no sign in front. -/
theorem unsigned_of_forall {cs : List Char} (h : ∀ c ∈ cs, isDigit c = true) :
    unsigned cs = cs := by
  unfold unsigned
  split
  · next rest => exact absurd (h '+' List.mem_cons_self) (by decide)
  · rfl

/-- A repeat count is read back from its decimal text. -/
theorem ofText_toString (count : UInt32) : ofText (toString count) = .ok count := by
  have hdigits : ∀ c ∈ Nat.toDigits 10 count.toNat, isDigit c = true := fun _ =>
    isDigit_of_mem_toDigits
  have htoList : (toString count).toList = Nat.toDigits 10 count.toNat := Nat.toList_repr
  have htrimmed : ofTrimmed? (Nat.toDigits 10 count.toNat) = some count := by
    have hlimit : ¬Nat.pow 2 32 ≤ count.toNat := Nat.not_le_of_lt count.toNat_lt
    simp only [ofTrimmed?, unsigned_of_forall hdigits, value_toDigits]
    simp [List.all_eq_true.mpr hdigits, hlimit]
  rw [ofText, htoList, trimmed_of_forall fun c hc => not_isBlank_of_isDigit (hdigits c hc),
    htrimmed]

end DrinkMixer.RepeatCount
