import DrinkMixer.Tag.Uid
import Mathlib.Data.List.Nodup

/-!
# The texts of identifiers

An identifier is shown by two hexadecimal digits for each of its bytes, with a colon between one
byte and the next. The form of these texts is said here by places, independently of how they are put
together: byte `i` takes the places `3 * i` and `3 * i + 1`. A text of that form can be read in one
way only, whatever the number of bytes, so different identifiers are shown by different texts.

Main statements: `Grouped.unique`, a text groups the digits of at most one sequence of bytes,
`grouped_text`, the text of an identifier groups those of its bytes, and `text_identifies`, which
identifiers there are and that their texts tell them apart.
-/

namespace DrinkMixer.Uid

/-- The hexadecimal digits, in order of their values. -/
def digits : List Char :=
  ['0', '1', '2', '3', '4', '5', '6', '7', '8', '9', 'A', 'B', 'C', 'D', 'E', 'F']

/-- A text consists of the two digits of each byte, with one colon between any two bytes and none
before the first or behind the last. -/
structure Grouped (bytes : List UInt8) (text : List Char) : Prop where
  length : text.length = 3 * bytes.length - 1
  high : ∀ (i : Nat) (b : UInt8), bytes[i]? = some b → text[3 * i]? = digits[b.toNat / 16]?
  low : ∀ (i : Nat) (b : UInt8), bytes[i]? = some b → text[3 * i + 1]? = digits[b.toNat % 16]?
  colon : ∀ i, i + 1 < bytes.length → text[3 * i + 2]? = some ':'

/-! ### Reading back -/

/-- A digit has one value. -/
theorem value_unique {m n : Nat} (hm : m < 16) (h : digits[m]? = digits[n]?) : m = n := by
  have hdistinct : digits.Nodup := by decide
  exact (List.getElem?_inj hm hdistinct).mp h

/-- A byte is known from its digits. -/
theorem byte_unique {b c : UInt8} (hhigh : digits[b.toNat / 16]? = digits[c.toNat / 16]?)
    (hlow : digits[b.toNat % 16]? = digits[c.toNat % 16]?) : b = c := by
  have hb := b.toNat_lt
  have hquotient := value_unique (by omega) hhigh
  have hremainder := value_unique (Nat.mod_lt _ (by decide)) hlow
  exact UInt8.toNat_inj.mp (by omega)

/-- A text groups the digits of at most one sequence of bytes. -/
theorem Grouped.unique {first second : List UInt8} {text : List Char} (hfirst : Grouped first text)
    (hsecond : Grouped second text) : first = second := by
  -- the number of bytes is known from the length, also where there is no colon to count
  have hlength : first.length = second.length := by
    have := hfirst.length.symm.trans hsecond.length
    omega
  refine List.ext_getElem hlength fun i hi hi' => ?_
  have hb := List.getElem?_eq_getElem hi
  have hc := List.getElem?_eq_getElem hi'
  exact byte_unique ((hfirst.high i _ hb).symm.trans (hsecond.high i _ hc))
    ((hfirst.low i _ hb).symm.trans (hsecond.low i _ hc))

/-! ### Showing -/

theorem upperPair_eq (b : UInt8) : ∃ high low, Text.Hex.upperPair b = [high, low] ∧
    digits[b.toNat / 16]? = some high ∧ digits[b.toNat % 16]? = some low := by
  have hdigit : ∀ n < 16, digits[n]? = some (Nat.digitChar n).toUpper := by decide
  have hb := b.toNat_lt
  exact ⟨_, _, rfl, hdigit _ (by omega), hdigit _ (Nat.mod_lt _ (by decide))⟩

theorem grouped_nil : Grouped [] [] :=
  ⟨rfl, nofun, nofun, nofun⟩

theorem grouped_single (b : UInt8) : Grouped [b] (Text.Hex.upperPair b) := by
  obtain ⟨high, low, hpair, hhigh, hlow⟩ := upperPair_eq b
  rw [hpair]
  refine ⟨rfl, ?_, ?_, fun i hi => absurd hi (by simp)⟩
  · rintro (_ | i) c hc
    · cases hc
      exact hhigh.symm
    · cases hc
  · rintro (_ | i) c hc
    · cases hc
      exact hlow.symm
    · cases hc

/-- One more byte in front moves all others by three places. -/
theorem Grouped.cons {b : UInt8} {bytes : List UInt8} {text : List Char} (hbytes : bytes ≠ [])
    (h : Grouped bytes text) : Grouped (b :: bytes) (Text.Hex.upperPair b ++ ':' :: text) := by
  obtain ⟨high, low, hpair, hhigh, hlow⟩ := upperPair_eq b
  have hpos := List.length_pos_iff.mpr hbytes
  rw [hpair]
  refine ⟨?_, ?_, ?_, ?_⟩
  · have hlength := h.length
    simp only [List.cons_append, List.nil_append, List.length_cons]
    omega
  · rintro (_ | i) c hc
    · cases hc
      exact hhigh.symm
    · exact h.high i c hc
  · rintro (_ | i) c hc
    · cases hc
      exact hlow.symm
    · exact h.low i c hc
  · rintro (_ | i) hi
    · rfl
    · exact h.colon i (Nat.lt_of_succ_lt_succ hi)

theorem grouped_intercalate (bytes : List UInt8) :
    Grouped bytes ([':'].intercalate (bytes.map Text.Hex.upperPair)) := by
  induction bytes with
  | nil => exact grouped_nil
  | cons b rest ih =>
    -- no colon stands behind the last byte
    by_cases hrest : rest = []
    · subst hrest
      exact grouped_single b
    · rw [List.map_cons, List.intercalate_cons_of_ne_nil (by simpa using hrest)]
      exact ih.cons hrest

theorem grouped_text (uid : Uid) : Grouped uid.bytes uid.text.toList := by
  rw [text, String.toList_ofList]
  exact grouped_intercalate uid.bytes

theorem ofBytes?_eq_some_iff {bytes : List UInt8} {uid : Uid} :
    ofBytes? bytes = some uid ↔ uid.bytes = bytes := by
  constructor
  · intro h
    rw [ofBytes?] at h
    split at h
    · cases h
      rfl
    · cases h
  · rintro rfl
    exact ofBytes?_bytes uid

/-- A sequence of bytes is an identifier if there are at most ten of them, and the identifier has
just these bytes. Its text groups the digits of its bytes, and of no others; so no two identifiers
have the same text. -/
theorem text_identifies (bytes : List UInt8) (uid : Uid) :
    ((ofBytes? bytes).isSome = true ↔ bytes.length ≤ 10) ∧
      (ofBytes? bytes = some uid ↔ uid.bytes = bytes) ∧
      (∀ other, Grouped other uid.text.toList ↔ other = uid.bytes) ∧
      ∀ other : Uid, other.text = uid.text ↔ other = uid := by
  have hgrouped := grouped_text uid
  refine ⟨by simp [ofBytes?], ofBytes?_eq_some_iff, ?_, ?_⟩
  · intro other
    exact ⟨fun h => h.unique hgrouped, fun h => h ▸ hgrouped⟩
  · intro other
    refine ⟨fun h => ?_, fun h => h ▸ rfl⟩
    have hbytes := (grouped_text other).unique (h ▸ hgrouped)
    have hother := ofBytes?_eq_some_iff.mpr hbytes
    exact Option.some_inj.mp (hother.symm.trans (ofBytes?_bytes uid))

example : (ofBytes? [0xDE, 0xAD, 0x0B, 0xEF]).map text = some "DE:AD:0B:EF" := rfl

end DrinkMixer.Uid
