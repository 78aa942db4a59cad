import DrinkMixer.Proofs.Json.Accepted
import DrinkMixer.Proofs.Json.Documents

/-!
# Orders that were accepted

The text that an order is read from holds an object and nothing else, with at most one amount for
each pour servo and at most one word on mixing, and the order has these amounts and is mixed
accordingly. The exception are texts that begin with the bracket of a list: they are accepted as
well, and give the amounts in the order of the servos.

Main statement: `exists_object_iff`, an accepted text holds an object unless it begins as a list.
-/

namespace DrinkMixer.Order

open Json Value

/-! ### Fields -/

/-- The name of the amount of a pour servo. -/
def amountName (channel : PourChannel) : String :=
  "pourAmt" ++ toString channel.val

/-- The field of an order that tells what an actuator does. -/
def field : Actuator → RecordField Order
  | .pour channel => amountField (amountName channel) channel
  | .mixer => .of "mix" Order.mix fun order mix => { order with mix := mix }

/-- What an order has for an actuator, as it is written. -/
def value : Actuator → Order → Value
  | .pour channel, order => .plain (order.amount channel).toNat
  | .mixer, order => .boolean order.mix

/-- The actuators in the order in which lists have them. -/
def actuators : List Actuator :=
  PourChannel.all.map .pour ++ [.mixer]

theorem bytes_name_injective :
    ∀ channel other : PourChannel, bytes (amountName channel) = bytes (amountName other) →
      channel = other := by
  decide +kernel

theorem bytes_name_ne_mix : ∀ channel : PourChannel, bytes (amountName channel) ≠ bytes "mix" := by
  decide +kernel

/-- The fields of an order, by the actuator they are about. -/
def layout : Layout schema Actuator where
  field := field
  indices := actuators
  value := value
  fields_eq := rfl
  nodup := by decide
  complete := by
    rintro (channel | _)
    · revert channel
      decide
    · decide
  injective := by
    rintro (channel | _) (other | _) h
    · rw [bytes_name_injective channel other h]
    · exact absurd h (bytes_name_ne_mix channel)
    · exact absurd h.symm (bytes_name_ne_mix other)
    · rfl
  taken := by
    rintro (channel | _) record changed text rest h
    · obtain ⟨count, hcount, rfl⟩ := exists_of_map h
      obtain ⟨n, hnatural, rfl⟩ := exists_of_map hcount
      obtain ⟨hlimit, htaken⟩ := taken_natural hnatural
      have hvalue :
          value (.pour channel) (record.setAmount channel (UInt32.ofNat n)) = plain n := by
        rw [value, amount_setAmount, if_pos rfl, UInt32.toNat_ofNat_of_lt' hlimit]
      rw [hvalue]
      exact htaken
    · obtain ⟨mix, hmix, rfl⟩ := exists_of_map h
      exact taken_boolean hmix
  frame := by
    rintro (channel | _) (other | _) record changed text rest h hne
    · obtain ⟨count, -, rfl⟩ := exists_of_map h
      have hother : channel ≠ other := by
        rintro rfl
        exact hne rfl
      rw [value, amount_setAmount, if_neg hother, value]
    · obtain ⟨count, -, rfl⟩ := exists_of_map h
      rfl
    · obtain ⟨mix, -, rfl⟩ := exists_of_map h
      rfl
    · exact absurd rfl hne

/-! ### What an order is read from -/

/-- The members of an object give an order: the amount of each pour servo and the word on mixing are
each the value of the only member with their name, or zero and false if there is none. -/
structure Named (order : Order) (members : List (Spelling × Value)) : Prop where
  amounts : ∀ channel, Given (amountName channel) members (.plain (order.amount channel).toNat)
    (.plain 0)
  mix : Given "mix" members (.boolean order.mix) (.boolean false)

/-- The amounts of an order and the word on mixing, as they are written. -/
def values (order : Order) : List Value :=
  PourChannel.all.map (fun channel => .plain (order.amount channel).toNat) ++
    [.boolean order.mix]

/-- The elements of a list give the first values of an order. The others are zero and false. -/
def Listed (order : Order) (elements : List Value) : Prop :=
  order.values = elements ++ (values {}).drop elements.length

/-- The first byte of a text behind the blanks. -/
def firstByte? (text : String) : Option UInt8 :=
  ((bytes text).dropWhile isBlank).head?

section Accepted

variable {text : String} {order : Order}

theorem firstByte?_eq {b : UInt8} {token : Token} {tokens : List Token}
    (h : Spaced ((b :: token) :: tokens) (bytes text)) (hb : isBlank b = false) :
    firstByte? text = some b := by
  obtain ⟨rest, hblanks, -⟩ := h.exists_skipBlanks hb
  have hdrop : (bytes text).dropWhile isBlank = b :: (token ++ rest) :=
    (Prod.mk.inj (Except.ok.inj hblanks)).2
  rw [firstByte?, hdrop, List.head?_cons]

/-- An accepted text holds an object or a list that gives the order, and nothing else. -/
theorem named_or_listed (h : ofText text = .ok order) :
    (∃ members, Spaced (object members).tokens (bytes text) ∧ order.Named members) ∨
      ∃ elements, Spaced (list elements).tokens (bytes text) ∧ order.Listed elements := by
  have hread : schema.ofText text = .ok order := by
    rw [ofText] at h
    cases hschema : schema.ofText text with
    | error fault =>
      rw [hschema] at h
      cases h
    | ok found =>
      rw [hschema] at h
      cases h
      rfl
  have hzero : ∀ channel, value (.pour channel) {} = plain 0 := by
    intro channel
    simp [value, amount]
  rcases layout.named_or_listed hread with ⟨members, htext, hnamed⟩ | ⟨elements, htext, hlisted⟩
  · refine Or.inl ⟨members, htext, fun channel => ?_, hnamed .mixer⟩
    rw [← hzero channel]
    exact hnamed (.pour channel)
  · exact Or.inr ⟨elements, htext, hlisted⟩

/-- An accepted text holds an object that gives the order, and nothing else, exactly if it does not
begin with the bracket of a list. If it does, it holds a list that gives the order. -/
theorem exists_object_iff (h : ofText text = .ok order) :
    ((∃ members, Spaced (object members).tokens (bytes text) ∧ order.Named members) ↔
      firstByte? text ≠ some openList) ∧
    (firstByte? text = some openList →
      ∃ elements, Spaced (list elements).tokens (bytes text) ∧ order.Listed elements) := by
  have hobject : ∀ members, Spaced (object members).tokens (bytes text) →
      firstByte? text ≠ some openList := by
    intro members htext
    have hbrace : firstByte? text = some openObject := firstByte?_eq htext rfl
    rw [hbrace]
    decide
  rcases named_or_listed h with ⟨members, htext, hnamed⟩ | ⟨elements, htext, hlisted⟩
  · have hfirst := hobject members htext
    exact ⟨⟨fun _ => hfirst, fun _ => ⟨members, htext, hnamed⟩⟩, fun hlist => absurd hlist hfirst⟩
  · have hfirst : firstByte? text = some openList := firstByte?_eq htext rfl
    refine ⟨⟨?_, fun hne => absurd hfirst hne⟩, fun _ => ⟨elements, htext, hlisted⟩⟩
    rintro ⟨members, hmembers, -⟩
    exact hobject members hmembers

/-- An object that names an amount with an escape, among other things, and a list of two amounts. -/
theorem exists_object_iff_twelve :
    let named := "\x7b \"note\": [1.5e-3, \x7b\"a\": null\x7d],\n \"\\u0070ourAmt3\" : 12\x7d\n"
    let listed := " [3, 4]"
    let order : Order := { amounts := #v[0, 0, 0, 12, 0, 0] }
    let other : Order := { amounts := #v[3, 4, 0, 0, 0, 0] }
    ofText named = .ok order ∧ ofText listed = .ok other ∧
      (∃ members, Spaced (object members).tokens (bytes named) ∧ order.Named members) ∧
      ∃ elements, Spaced (list elements).tokens (bytes listed) ∧ other.Listed elements := by
  intro named listed order other
  have hnamed : ofText named = .ok order := rfl
  have hlisted : ofText listed = .ok other := rfl
  exact ⟨hnamed, hlisted, (exists_object_iff hnamed).1.mpr (by decide +kernel),
    (exists_object_iff hlisted).2 (by decide +kernel)⟩

/-- A list of one amount is accepted, so not every accepted text holds an object. -/
theorem not_always_object :
    ¬∀ text order, ofText text = .ok order →
      ∃ members, Spaced (object members).tokens (bytes text) ∧ order.Named members := by
  intro hall
  have hread : ofText "[3]" = .ok { amounts := #v[3, 0, 0, 0, 0, 0] } := rfl
  obtain ⟨members, htext, -⟩ := hall "[3]" _ hread
  have hbrace : firstByte? "[3]" = some openObject := firstByte?_eq htext rfl
  exact absurd hbrace (by decide +kernel)

end Accepted

end DrinkMixer.Order
