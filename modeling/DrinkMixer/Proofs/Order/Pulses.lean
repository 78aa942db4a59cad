import DrinkMixer.Proofs.Order.Plan

/-!
# Orders that set a pulse

What counts as an empty order is decided before anything is moved. It agrees with what pouring the
order would do: an order sets a pulse of the controller unless it is empty.

Main statement: `exists_pulse_iff`, on a controller that never fails.
-/

namespace DrinkMixer

open Servos

/-- Whether a request sets a pulse of the controller. -/
def Servos.isPulse : Servos.Op → Bool
  | .inl (.setPulse _ _ _) => true
  | _ => false

namespace ServoSettings

variable (settings : ServoSettings)

/-- A run sets pulses unless it has no cycles. -/
theorem any_isPulse_runPlan (actuator : Actuator) (output : UInt8) (count : UInt32) :
    (settings.runPlan actuator output count).any isPulse = (count != 0) := by
  have hcycles (n : Nat) : (settings.cyclesPlan actuator output n).any isPulse = (n != 0) := by
    cases n with
    | zero => rfl
    | succ n =>
      rw [cyclesPlan_succ]
      rfl
  have hzero : (count.toNat != 0) = (count != 0) := by
    rw [Bool.eq_iff_iff, bne_iff_ne, bne_iff_ne]
    exact not_congr (by rw [← UInt32.toNat_inj]; rfl)
  rw [runPlan, List.any_cons, hcycles, hzero]
  rfl

end ServoSettings

namespace Order

variable (order : Order)

theorem any_isPulse_plan (settings : ServoSettings) :
    (order.plan settings).any isPulse = !order.isEmpty := by
  have hchannels : (PourChannel.all.flatMap fun channel =>
      if order.amount channel = 0 then []
      else settings.runPlan (.pour channel) (UInt8.ofNat channel.val)
        (order.amount channel)).any isPulse = !order.channels.isEmpty := by
    rw [← flatMap_channels, List.any_flatMap]
    simp only [settings.any_isPulse_runPlan]
    -- every channel that is left has an amount
    have hamount : ∀ channel ∈ order.channels, (order.amount channel != 0) = true := by
      intro channel hchannel
      exact (List.mem_filter.mp hchannel).2
    cases hall : order.channels with
    | nil => rfl
    | cons channel rest =>
      rw [hall] at hamount
      rw [List.any_cons, hamount channel List.mem_cons_self]
      rfl
  have hmix : (if order.mix then settings.runPlan .mixer settings.mixOutput 1
      else []).any isPulse = order.mix := by
    cases order.mix with
    | true => exact settings.any_isPulse_runPlan .mixer settings.mixOutput 1
    | false => rfl
  rw [plan, List.any_append, List.any_append, List.any_append, hchannels, hmix, isEmpty]
  have hstart : [told (.pourStarted (UInt64.ofNat (order.amounts.toList.countP (· ≠ 0)))
      order.mix), commanded (.setFrequency settings.frequency)].any isPulse = false := rfl
  have hfinish : [told .pourFinished].any isPulse = false := rfl
  rw [hstart, hfinish]
  cases order.mix <;> simp

/-- Pouring an order sets a pulse in a world. -/
def SetsPulse {σ : Type} (settings : ServoSettings) (w : World Servos σ) (s : σ) : Prop :=
  ∃ call ∈ (order.pour settings).run.calls w s, isPulse call.op = true

variable {order} in
/-- On a controller that never fails, pouring an order sets a pulse unless the order is empty. -/
theorem exists_pulse_iff {σ : Type} {w : World Servos σ} (hw : w.Unfailing)
    (settings : ServoSettings) (s : σ) :
    order.SetsPulse settings w s ↔ order.isEmpty = false := by
  have hplan := ((order.follows_pour settings).whole_of_unfailing hw s).1
  have hany := order.any_isPulse_plan settings
  rw [← hplan, List.any_map, effects, List.any_filter] at hany
  -- a pulse is no log record, so it is among the effects
  have hkeep : ∀ call : Call Servos,
      (!isNote call.op && (isPulse ∘ Call.op) call) = isPulse call.op := by
    rintro ⟨request | request | request, answer⟩
    · rfl
    · simp [isPulse]
    · rfl
  simp only [hkeep] at hany
  rw [SetsPulse, ← List.any_eq_true, hany, Bool.not_eq_true']

end Order

end DrinkMixer
