import DrinkMixer.Proofs.Json.Documents
import DrinkMixer.Proofs.Json.Members

/-!
# Orders and settings changed by documents

The fields of orders and settings under the names that documents give them, and what an object does
to the default: it replaces the fields that it names and no others, in whatever order it lists them
and whatever else it holds.

Main statement: `documents_override`, what orders and settings are read from the text of an object.
-/

namespace DrinkMixer

open Json

/-! ### Settings -/

namespace ServoSettings

/-- The fields of servo settings. -/
def slots : List (Slot ServoSettings) := [
  .of "i2c_address" fun s (v : UInt8) => { s with address := v },
  .of "frequency_hz" fun s (v : UInt16) => { s with frequency := v },
  .of "servo_min" fun s (v : UInt16) => { s with pulseMin := v },
  .of "servo_max" fun s (v : UInt16) => { s with pulseMax := v },
  .of "min_hold_ms" fun s (v : UInt32) => { s with holdMinMs := v },
  .of "max_hold_ms" fun s (v : UInt32) => { s with holdMaxMs := v },
  .of "mix_channel" fun s (v : UInt8) => { s with mixOutput := v }]

theorem reads_slots : List.Forall₂ Slot.Reads slots schema.fields :=
  .cons (reads_of _ _ _) (.cons (reads_of _ _ _) (.cons (reads_of _ _ _) (.cons (reads_of _ _ _)
    (.cons (reads_of _ _ _) (.cons (reads_of _ _ _) (.cons (reads_of _ _ _) .nil))))))

instance : Literal ServoSettings := .ofSlots slots {}

instance : LawfulLiteral ServoSettings := lawfulLiteral_ofSlots reads_slots

end ServoSettings

namespace TagSettings

/-- The fields of contactless reader settings. -/
def slots : List (Slot TagSettings) := [
  .of "auth_key" fun s (v : Vector UInt8 6) => { s with key := v },
  .of "data_block" fun s (v : UInt8) => { s with block := v },
  .of "uid_poll_interval_ms" fun s (v : UInt32) => { s with pollIntervalMs := v },
  .of "reset_pin" fun s (v : UInt8) => { s with resetPin := v },
  .of "spi_clock_hz" fun s (v : UInt32) => { s with clockHz := v }]

theorem reads_slots : List.Forall₂ Slot.Reads slots schema.fields :=
  .cons (reads_of _ _ _) (.cons (reads_of _ _ _) (.cons (reads_of _ _ _) (.cons (reads_of _ _ _)
    (.cons (reads_of _ _ _) .nil))))

instance : Literal TagSettings := .ofSlots slots {}

instance : LawfulLiteral TagSettings := lawfulLiteral_ofSlots reads_slots

end TagSettings

namespace PaymentSettings

/-- The fields of payment reader settings. -/
def slots : List (Slot PaymentSettings) := [
  .of "i2c_address" fun s (v : UInt8) => { s with address := v },
  .of "frame_len" fun s (v : UInt64) => { s with frameLength := v },
  .of "poll_interval_ms" fun s (v : UInt32) => { s with pollIntervalMs := v }]

theorem reads_slots : List.Forall₂ Slot.Reads slots schema.fields :=
  .cons (reads_of _ _ _) (.cons (reads_of _ _ _) (.cons (reads_of _ _ _) .nil))

instance : Literal PaymentSettings := .ofSlots slots {}

instance : LawfulLiteral PaymentSettings := lawfulLiteral_ofSlots reads_slots

end PaymentSettings

namespace Settings

/-- The three parts of settings, each an object of its own. -/
def slots : List (Slot Settings) := [
  .of "pwm" fun s (v : ServoSettings) => { s with servo := v },
  .of "reader" fun s (v : TagSettings) => { s with tag := v },
  .of "payment" fun s (v : PaymentSettings) => { s with payment := v }]

theorem reads_slots : List.Forall₂ Slot.Reads slots schema.fields :=
  .cons (reads_of _ _ _) (.cons (reads_of _ _ _) (.cons (reads_of _ _ _) .nil))

theorem commutes_slots : slots.Pairwise Slot.Commutes := by
  simp only [slots, List.pairwise_cons, List.forall_mem_cons, List.not_mem_nil, false_implies,
    implies_true, List.Pairwise.nil, and_true]
  and_intros <;> exact commutes_of fun _ _ _ => rfl

end Settings

/-! ### Orders -/

namespace Order

/-- The amount of one pour servo. -/
def amountSlot (name : String) (channel : PourChannel) : Slot Order :=
  .of name fun order (count : UInt32) => order.setAmount channel count

/-- The fields of an order. -/
def slots : List (Slot Order) :=
  List.zipWith amountSlot
    ["pourAmt0", "pourAmt1", "pourAmt2", "pourAmt3", "pourAmt4", "pourAmt5"] PourChannel.all ++
  [.of "mix" fun order (mix : Bool) => { order with mix := mix }]

theorem slots_eq : slots =
    [amountSlot "pourAmt0" 0, amountSlot "pourAmt1" 1, amountSlot "pourAmt2" 2,
      amountSlot "pourAmt3" 3, amountSlot "pourAmt4" 4, amountSlot "pourAmt5" 5,
      .of "mix" fun order (mix : Bool) => { order with mix := mix }] := rfl

theorem reads_slots : List.Forall₂ Slot.Reads slots schema.fields := by
  rw [slots_eq, fields_schema]
  exact .cons (reads_of _ _ _) (.cons (reads_of _ _ _) (.cons (reads_of _ _ _)
    (.cons (reads_of _ _ _) (.cons (reads_of _ _ _) (.cons (reads_of _ _ _)
      (.cons (reads_of _ _ _) .nil))))))

theorem commutes_amountSlot {name name' : String} {channel other : PourChannel}
    (h : channel ≠ other) : (amountSlot name channel).Commutes (amountSlot name' other) := by
  refine commutes_of fun order count count' => ?_
  have hval : channel.val ≠ other.val := Fin.val_ne_of_ne h
  simp [setAmount, Vector.set_comm _ _ hval]

theorem commutes_slots : slots.Pairwise Slot.Commutes := by
  have hmix : ∀ name channel, (amountSlot name channel).Commutes
      (.of "mix" fun order (mix : Bool) => { order with mix := mix }) :=
    fun _ _ => commutes_of fun _ _ _ => rfl
  simp only [slots_eq, List.pairwise_cons, List.forall_mem_cons, List.not_mem_nil, false_implies,
    implies_true, List.Pairwise.nil, and_true]
  and_intros <;> first | exact hmix _ _ | exact commutes_amountSlot (by decide)

end Order

/-! ### Both -/

section Both

variable {members written : List (Spelling × Value)} {text : String}

/-- An object that lists some members in any order, with any blanks around its tokens, is read as
the default order or the default settings with the fields that it names replaced, whatever else it
holds. It is refused if a field is named twice or if a literal is out of range. Settings have to
pass the range checks as well. -/
theorem documents_override (hperm : written.Perm members)
    (htext : Spaced (Value.object written).tokens (bytes text)) :
    ((∀ member ∈ members, FitsMember Order.slots member) →
      match override? Order.slots members {} with
      | some order => Order.ofText text = .ok order
      | none => ∃ reason, Order.ofText text = .error (.invalidOrder reason)) ∧
    ((∀ member ∈ members, FitsMember Settings.slots member) →
      match override? Settings.slots members {} with
      | some settings => Settings.ofText text = settings.check.map fun _ => settings
      | none => Settings.ofText text = .error .corrupted) := by
  constructor
  · intro hfits
    have hread := ofText_members Order.reads_slots Order.commutes_slots hperm hfits htext
    have hdefault : Order.schema.default = {} := rfl
    rw [hdefault] at hread
    rw [Order.ofText]
    cases horder : override? Order.slots members {} with
    | none =>
      simp only [horder] at hread
      obtain ⟨fault, hfault⟩ := hread
      exact ⟨_, by rw [hfault]⟩
    | some order =>
      simp only [horder] at hread
      simp only [hread]
  · intro hfits
    have hread := ofText_members Settings.reads_slots Settings.commutes_slots hperm hfits htext
    have hdefault : Settings.schema.default = {} := rfl
    rw [hdefault] at hread
    rw [Settings.ofText]
    cases hsettings : override? Settings.slots members {} with
    | none =>
      simp only [hsettings] at hread
      obtain ⟨fault, hfault⟩ := hread
      simp only [hfault]
    | some settings =>
      simp only [hsettings] at hread
      simp only [hread]
      cases settings.check <;> rfl

/-- An object with an amount of twelve and a mix, which settings have no fields for, and with
another output for the mixer, which an order has none for. Both pass over the list that comes
first. -/
theorem documents_override_twelve :
    let note := (Spelling.verbatim (bytes "note"), Value.list [
      .number ⟨false, 1, [5], some ⟨false, some true, 3, []⟩⟩,
      .object [(Spelling.verbatim (bytes "a"), .null)]])
    let servo := (Spelling.verbatim (bytes "pwm"),
      Value.object [(Spelling.verbatim (bytes "mix_channel"), .plain 7)])
    let mix := (Spelling.verbatim (bytes "mix"), Value.boolean true)
    let amount := (Spelling.verbatim (bytes "pourAmt3"), Value.plain 12)
    let text := "\x7b \"note\": [1.5e-3 ,\x7b\"a\":null\x7d],\n" ++
      " \"pwm\":\x7b\"mix_channel\":7 \x7d,\"mix\":true,\"pourAmt3\" : 12\x7d\n"
    [note, servo, mix, amount].Perm [servo, note, mix, amount] ∧
      Spaced (Value.object [note, servo, mix, amount]).tokens (bytes text) ∧
      (∀ member ∈ [servo, note, mix, amount], FitsMember Order.slots member) ∧
      (∀ member ∈ [servo, note, mix, amount], FitsMember Settings.slots member) ∧
      Order.ofText text = .ok { amounts := #v[0, 0, 0, 12, 0, 0], mix := true } ∧
      Settings.ofText text = .ok { servo := { mixOutput := 7 } } := by
  intro note servo mix amount text
  have hperm : [note, servo, mix, amount].Perm [servo, note, mix, amount] := .swap servo note _
  have htext : Spaced (Value.object [note, servo, mix, amount]).tokens (bytes text) :=
    spaced_of_isSpaced (by decide +kernel)
  -- a member fits if it names no field, or if its field takes its value
  have horderFits : ∀ member ∈ [servo, note, mix, amount], FitsMember Order.slots member := by
    simp only [List.forall_mem_cons]
    refine ⟨fitsMember_of_unnamed rfl rfl, fitsMember_of_unnamed rfl rfl, ⟨rfl, ?_⟩, ⟨rfl, ?_⟩,
      List.forall_mem_nil _⟩
    · rintro slot ⟨⟩
      exact ⟨true, rfl⟩
    · rintro slot ⟨⟩
      exact ⟨12, rfl⟩
  have hsettingsFits : ∀ member ∈ [servo, note, mix, amount],
      FitsMember Settings.slots member := by
    simp only [List.forall_mem_cons]
    refine ⟨⟨rfl, ?_⟩, fitsMember_of_unnamed rfl rfl, fitsMember_of_unnamed rfl rfl,
      fitsMember_of_unnamed rfl rfl, List.forall_mem_nil _⟩
    rintro slot ⟨⟩
    refine ⟨_, rfl, ?_⟩
    simp only [List.forall_mem_cons]
    refine ⟨⟨rfl, ?_⟩, List.forall_mem_nil _⟩
    rintro slot ⟨⟩
    exact ⟨7, rfl⟩
  have horder : override? Order.slots [servo, note, mix, amount] {} =
      some { amounts := #v[0, 0, 0, 12, 0, 0], mix := true } := by rfl
  have hsettings : override? Settings.slots [servo, note, mix, amount] {} =
      some { servo := { mixOutput := 7 } } := by rfl
  obtain ⟨hread, hload⟩ := documents_override hperm htext
  have hordered := hread horderFits
  have hloaded := hload hsettingsFits
  rw [horder] at hordered
  rw [hsettings] at hloaded
  exact ⟨hperm, htext, horderFits, hsettingsFits, hordered, hloaded⟩

end Both

end DrinkMixer
