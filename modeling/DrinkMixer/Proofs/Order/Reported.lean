import DrinkMixer.Proofs.Cycle.Completions
import DrinkMixer.Proofs.Order.Plan
import DrinkMixer.Order.Document

/-!
# The cycles that an order reports

Pouring an order reports how many cycles that took. The cycles are counted in 32 bits, which is as
much as the amount for a single servo can ask for, so the report is right only for orders whose
amounts stay within 32 bits together.

Main statement: `pour_reports`, on a controller that never fails, what is reported for an order and
how many cycles are completed.
-/

namespace DrinkMixer

open Servos

/-! ### Completions of a plan -/

/-- Whether a request tells that a cycle is completed. -/
def Servos.isCompletion : Servos.Op → Bool
  | .inr (.inr (.emit (.cycleCompleted _ _))) => true
  | _ => false

/-- The completions that are told are those among the effects. -/
theorem Servos.length_completions (calls : List (Call Servos)) :
    (completions calls).length = ((effects calls).map Call.op).countP isCompletion := by
  have htold : ∀ call : Call Servos, (completion? call).isSome = isCompletion call.op := by
    rintro ⟨request | request | request, answer⟩
    · rfl
    · rfl
    · cases request with
      | emit event => cases event <;> rfl
  rw [← completions_effects, completions, List.length_filterMap_eq_countP, List.countP_map]
  exact List.countP_congr fun call _ => by rw [htold]; rfl

namespace ServoSettings

variable (settings : ServoSettings)

/-- Each of the cycles that are planned is completed once. -/
theorem countP_cyclesPlan (actuator : Actuator) (output : UInt8) (count : Nat) :
    (settings.cyclesPlan actuator output count).countP isCompletion = count := by
  induction count with
  | zero => rfl
  | succ count ih =>
    have hcycle : (settings.cyclePlan output).countP isCompletion = 0 := rfl
    have hcompleted : isCompletion (told (.cycleCompleted actuator (UInt32.ofNat count))) = true :=
      rfl
    rw [cyclesPlan_succ, List.countP_append, hcycle, List.countP_cons_of_pos hcompleted, ih,
      Nat.zero_add]

theorem countP_runPlan (actuator : Actuator) (output : UInt8) (count : UInt32) :
    (settings.runPlan actuator output count).countP isCompletion = count.toNat := by
  have hstarted : ¬isCompletion (told (.cycleStarted actuator count)) = true := Bool.false_ne_true
  rw [runPlan, List.countP_cons_of_neg hstarted, countP_cyclesPlan]

end ServoSettings

namespace Order

variable (order : Order)

/-- Each cycle of an order is completed once. -/
theorem countP_plan (settings : ServoSettings) :
    (order.plan settings).countP isCompletion = order.total := by
  have hchannels : (PourChannel.all.flatMap fun channel =>
      if order.amount channel = 0 then []
      else
        settings.runPlan (.pour channel) (UInt8.ofNat channel.val)
          (order.amount channel)).countP isCompletion =
        (order.amounts.toList.map UInt32.toNat).sum := by
    rw [← flatMap_channels, List.countP_flatMap, ← sum_channels]
    exact congrArg List.sum (List.map_congr_left fun channel _ => settings.countP_runPlan _ _ _)
  have hmix : (if order.mix then settings.runPlan .mixer settings.mixOutput 1 else []).countP
      isCompletion = if order.mix then 1 else 0 := by
    cases order.mix with
    | true => exact settings.countP_runPlan .mixer _ 1
    | false => rfl
  have hstart : [told (.pourStarted (UInt64.ofNat (order.amounts.toList.countP (· ≠ 0)))
      order.mix), commanded (.setFrequency settings.frequency)].countP isCompletion = 0 := rfl
  have hfinish : [told .pourFinished].countP isCompletion = 0 := rfl
  rw [plan, List.countP_append, List.countP_append, List.countP_append, hstart, hchannels, hmix,
    hfinish, Nat.zero_add, Nat.add_zero, total]

/-- On a controller that never fails, pouring an order completes all of its cycles, and reports
their number modulo `2 ^ 32`: the report is right exactly if they are fewer than that. -/
theorem pour_reports {σ : Type} {w : World Servos σ} (hw : w.Unfailing) (settings : ServoSettings)
    (s : σ) :
    ∃ reported, ((order.pour settings).run.eval w s).1 = .ok reported ∧
      (completions ((order.pour settings).run.calls w s)).length = order.total ∧
      reported.toNat = order.total % 2 ^ 32 ∧
      (reported.toNat = order.total ↔ order.total < 2 ^ 32) := by
  obtain ⟨hplan, hresult⟩ := (order.follows_pour settings).whole_of_unfailing hw s
  have hreported : (UInt32.ofNat order.total).toNat = order.total % 2 ^ 32 :=
    UInt32.toNat_ofNat'
  refine ⟨UInt32.ofNat order.total, hresult, ?_, hreported, ?_⟩
  · rw [length_completions, hplan, countP_plan]
  · rw [hreported, Nat.mod_eq_iff_lt (by decide)]

/-- As many cycles of the first pour servo as can be asked for. -/
def fullest : Order :=
  { amounts := #v[4294967295, 0, 0, 0, 0, 0] }

/-- The most that a single servo can be asked for is reported. -/
theorem pour_reports_fullest :
    obliging.Unfailing ∧
      ∃ reported, ((fullest.pour {}).run.eval obliging ()).1 = .ok reported ∧
        reported.toNat = fullest.total := by
  obtain ⟨reported, hresult, _, _, hright⟩ :=
    fullest.pour_reports obliging_unfailing {} ()
  exact ⟨obliging_unfailing, reported, hresult, hright.mpr (by decide)⟩

/-- One cycle of the mixer more is too much for the report, although the document of such an order
is accepted. -/
theorem not_always_reported :
    ¬∀ (text : String) (order : Order) (settings : ServoSettings) (w : World Servos Unit),
      Order.ofText text = .ok order → w.Unfailing →
        ∃ reported, ((order.pour settings).run.eval w ()).1 = .ok reported ∧
          reported.toNat = order.total := by
  intro h
  have hzero := ((follows_pour { fullest with mix := true } {}).whole_of_unfailing
    obliging_unfailing ()).2
  obtain ⟨reported, hresult, htotal⟩ :=
    h "\x7b\"pourAmt0\":4294967295,\"mix\":true\x7d" { fullest with mix := true } {} obliging rfl
      obliging_unfailing
  -- the report is zero
  rw [hresult] at hzero
  cases hzero
  exact absurd htotal (by decide)

end Order

end DrinkMixer
