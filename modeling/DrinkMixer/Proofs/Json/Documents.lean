import DrinkMixer.Order.Document
import DrinkMixer.Proofs.Json.Records
import DrinkMixer.Proofs.Settings.InRange

/-!
# Orders and settings read back

The schemas of orders and settings are lawful, so the text that holds an order or settings is read
back as that order or these settings, whatever their values are. Settings that do not pass the range
checks are written all the same, and refused when they are read.

Main statement: `read_back`, all of this for every order and all settings, and for those that were
read from a text.
-/

namespace DrinkMixer

open Json RecordField

/-! ### Settings -/

theorem ServoSettings.lawful_schema : ServoSettings.schema.Lawful where
  fields := by
    simp only [schema, List.forall_mem_cons]
    refine ⟨lawful_of ?_, lawful_of ?_, lawful_of ?_, lawful_of ?_, lawful_of ?_, lawful_of ?_,
      lawful_of ?_, List.forall_mem_nil _⟩ <;> rfl
  distinct := by decide
  complete source := by simp [schema]

theorem TagSettings.lawful_schema : TagSettings.schema.Lawful where
  fields := by
    simp only [schema, List.forall_mem_cons]
    refine ⟨lawful_of ?_, lawful_of ?_, lawful_of ?_, lawful_of ?_, lawful_of ?_,
      List.forall_mem_nil _⟩ <;> rfl
  distinct := by decide
  complete source := by simp [schema]

theorem PaymentSettings.lawful_schema : PaymentSettings.schema.Lawful where
  fields := by
    simp only [schema, List.forall_mem_cons]
    refine ⟨lawful_of ?_, lawful_of ?_, lawful_of ?_, List.forall_mem_nil _⟩ <;> rfl
  distinct := by decide
  complete source := by simp [schema]

instance : LawfulWire ServoSettings := ServoSettings.lawful_schema.lawfulWire

instance : LawfulWire TagSettings := TagSettings.lawful_schema.lawfulWire

instance : LawfulWire PaymentSettings := PaymentSettings.lawful_schema.lawfulWire

theorem Settings.lawful_schema : Settings.schema.Lawful where
  fields := by
    simp only [schema, List.forall_mem_cons]
    refine ⟨lawful_of ?_, lawful_of ?_, lawful_of ?_, List.forall_mem_nil _⟩ <;> rfl
  distinct := by decide
  complete source := by simp [schema]

/-- The text of settings holds them, and they are refused if they do not pass the range checks. -/
theorem Settings.ofText_toText (settings : Settings) :
    ofText settings.toText = settings.check.map fun _ => settings := by
  rw [ofText, toText, Schema.ofText_toText lawful_schema]
  show (settings.check >>= fun _ => pure settings) = _
  cases settings.check with
  | error fault => rfl
  | ok => rfl

/-! ### Orders -/

namespace Order

theorem fields_schema : schema.fields =
    [amountField "pourAmt0" 0, amountField "pourAmt1" 1, amountField "pourAmt2" 2,
      amountField "pourAmt3" 3, amountField "pourAmt4" 4, amountField "pourAmt5" 5,
      .of "mix" Order.mix fun order mix => { order with mix := mix }] := rfl

theorem amount_setAmount (order : Order) (channel other : PourChannel) (count : UInt32) :
    (order.setAmount channel count).amount other =
      if channel = other then count else order.amount other := by
  by_cases h : channel = other
  · subst h
    simp [setAmount, amount]
  · have hval : channel.val ≠ other.val := fun hval => h (Fin.ext hval)
    simp [setAmount, amount, h, hval]

/-- Orders are the same that have the same amounts and are mixed alike. -/
theorem ext_amount {order other : Order} (hamount : ∀ channel, order.amount channel =
    other.amount channel) (hmix : order.mix = other.mix) : order = other := by
  obtain ⟨amounts, mix⟩ := order
  obtain ⟨amounts', mix'⟩ := other
  obtain rfl : mix = mix' := hmix
  have hamounts : amounts = amounts' := by
    refine Vector.ext fun i hi => ?_
    exact hamount ⟨i, hi⟩
  rw [hamounts]

theorem lawful_schema : schema.Lawful where
  fields := by
    simp only [fields_schema, List.forall_mem_cons]
    refine ⟨lawful_of ?_, lawful_of ?_, lawful_of ?_, lawful_of ?_, lawful_of ?_, lawful_of ?_,
      lawful_of ?_, List.forall_mem_nil _⟩ <;> rfl
  distinct := by decide
  complete source := by
    simp only [fields_schema, amountField, List.foldl_cons, List.foldl_nil, copy_of]
    refine ext_amount (fun channel => ?_) rfl
    show Order.amount (setAmount _ 5 _) channel = _
    simp only [amount_setAmount]
    match channel with
    | 0 | 1 | 2 | 3 | 4 | 5 => rfl

/-- The text of an order holds it. -/
theorem ofText_toText (order : Order) : ofText order.toText = .ok order := by
  rw [ofText, toText, Schema.ofText_toText lawful_schema]

end Order

/-! ### Both -/

/-- Every order is read back from its text. All settings are read back from theirs if they pass the
range checks, and else refused with the first rule that they break. So what was once read from a
text is read again from the text that it is written as. -/
theorem read_back :
    (∀ order : Order, Order.ofText order.toText = .ok order) ∧
    (∀ settings : Settings, Settings.ofText settings.toText =
      match settings.check with
      | .ok () => .ok settings
      | .error fault => .error fault) ∧
    (∀ text order, Order.ofText text = .ok order → Order.ofText order.toText = .ok order) ∧
    ∀ text settings, Settings.ofText text = .ok settings →
      Settings.ofText settings.toText = .ok settings := by
  refine ⟨Order.ofText_toText, ?_, fun _ order _ => order.ofText_toText, ?_⟩
  · intro settings
    rw [Settings.ofText_toText]
    cases settings.check with
    | error fault => rfl
    | ok => rfl
  · intro text settings h
    have hcheck : settings.check = .ok () := Settings.check_of_ofText h
    rw [Settings.ofText_toText, hcheck]
    rfl

end DrinkMixer
