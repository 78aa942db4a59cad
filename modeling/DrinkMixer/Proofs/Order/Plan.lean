import DrinkMixer.Order.Pour
import DrinkMixer.Proofs.Cycle.Plan
import Mathlib.Algebra.GroupWithZero.Nat

/-!
# The plan of a pour order

What pouring an order is to do to the outside: the start is told and the frequency set, then every
pour servo with an amount runs in ascending order, then the mixer if it is asked for, and the end is
told.

Main statement: `pour_effects`, whatever the controller answers, an order is poured as planned up to
the first command that fails.
-/

namespace DrinkMixer.Order

open Servos ServoProcedure

/-- How many cycles an order takes. -/
def total (order : Order) : Nat :=
  (order.amounts.toList.map UInt32.toNat).sum + if order.mix then 1 else 0

/-- The effects of pouring an order. -/
def plan (settings : ServoSettings) (order : Order) : List Servos.Op :=
  [told (.pourStarted (UInt64.ofNat (order.amounts.toList.countP (· ≠ 0))) order.mix),
    commanded (.setFrequency settings.frequency)] ++
  (PourChannel.all.flatMap fun channel =>
    if order.amount channel = 0 then []
    else settings.runPlan (.pour channel) (UInt8.ofNat channel.val) (order.amount channel)) ++
  (if order.mix then settings.runPlan .mixer settings.mixOutput 1 else []) ++
  [told .pourFinished]

/-! ### Amounts -/

variable (order : Order)

/-- The amounts are those of all pour channels in order. -/
theorem toList_amounts : order.amounts.toList = PourChannel.all.map order.amount := by
  refine List.ext_getElem (by simp [PourChannel.all]) ?_
  intro i hi hi'
  simp [PourChannel.all, amount]

theorem length_channels : order.channels.length = order.amounts.toList.countP (· ≠ 0) := by
  rw [toList_amounts, List.countP_map, List.countP_eq_length_filter, channels]
  congr 1
  refine List.filter_congr ?_
  intro channel _
  by_cases h : order.amount channel = 0 <;> simp [h]

/-- Channels with nothing to pour do not count. -/
theorem sum_channels : (order.channels.map fun channel => (order.amount channel).toNat).sum =
    (order.amounts.toList.map UInt32.toNat).sum := by
  rw [toList_amounts, List.map_map, channels]
  induction PourChannel.all with
  | nil => rfl
  | cons channel rest ih =>
    by_cases h : order.amount channel = 0
    · simp [h, ih]
    · simp [h, ih]

/-- Channels with nothing to pour have no plan. -/
theorem flatMap_channels (f : PourChannel → List Servos.Op) :
    order.channels.flatMap f =
      PourChannel.all.flatMap fun channel =>
        if order.amount channel = 0 then [] else f channel := by
  rw [channels]
  induction PourChannel.all with
  | nil => rfl
  | cons channel rest ih =>
    by_cases h : order.amount channel = 0
    · simp [h, ih]
    · simp [h, ih]

/-! ### Pouring -/

variable (settings : ServoSettings)

theorem follows_pourChannels (channels : List PourChannel) (cycles : UInt32) :
    Follows (order.pourChannels settings channels cycles)
      (channels.flatMap fun channel =>
        settings.runPlan (.pour channel) (UInt8.ofNat channel.val) (order.amount channel))
      (cycles + UInt32.ofNat (channels.map fun channel => (order.amount channel).toNat).sum) := by
  induction channels generalizing cycles with
  | nil => simpa [pourChannels] using follows_pure cycles
  | cons channel rest ih =>
    have hmade : cycles + UInt32.ofNat ((channel :: rest).map fun channel =>
        (order.amount channel).toNat).sum = cycles + order.amount channel +
          UInt32.ofNat (rest.map fun channel => (order.amount channel).toNat).sum := by
      rw [List.map_cons, List.sum_cons, UInt32.ofNat_add, UInt32.ofNat_toNat, UInt32.add_assoc]
    rw [pourChannels, List.flatMap_cons, hmade]
    exact (settings.follows_run_pour channel (order.amount channel)).bind (ih _)

/-- The end is told when all cycles are made. -/
theorem follows_finish (cycles : UInt32) :
    Follows (do
      note .info s!"pour order finished, {cycles} cycle(s)"
      emit .pourFinished
      pure cycles) [told .pourFinished] cycles :=
  (follows_note _ _).bind ((follows_emit _).bind (follows_pure cycles))

/-- What follows the pour servos: the mixer runs if it is asked for. -/
theorem follows_mix (cycles : UInt32) :
    Follows (if order.mix then do
        let made ← settings.run .mixer 1
        note .info s!"pour order finished, {cycles + made} cycle(s)"
        emit .pourFinished
        pure (cycles + made)
      else do
        note .info s!"pour order finished, {cycles} cycle(s)"
        emit .pourFinished
        pure cycles)
      ((if order.mix then settings.runPlan .mixer settings.mixOutput 1 else []) ++
        [told .pourFinished])
      (cycles + if order.mix then 1 else 0) := by
  cases order.mix with
  | true => exact (settings.follows_run_mixer 1).bind (follows_finish (cycles + 1))
  | false =>
    have hcycles : cycles + 0 = cycles := UInt32.add_zero cycles
    simpa [hcycles] using follows_finish cycles

/-- An order is poured as planned, and the cycles are counted. -/
theorem follows_pour :
    Follows (order.pour settings) (order.plan settings) (UInt32.ofNat order.total) := by
  have hchannels := order.follows_pourChannels settings order.channels 0
  rw [sum_channels, UInt32.zero_add, flatMap_channels] at hchannels
  have htotal : UInt32.ofNat order.total =
      UInt32.ofNat (order.amounts.toList.map UInt32.toNat).sum + if order.mix then 1 else 0 := by
    rw [total, UInt32.ofNat_add]
    cases order.mix <;> rfl
  have hplan : order.plan settings =
      [told (.pourStarted (UInt64.ofNat order.channels.length) order.mix)] ++
        ([commanded (.setFrequency settings.frequency)] ++
          ((PourChannel.all.flatMap fun channel =>
              if order.amount channel = 0 then []
              else settings.runPlan (.pour channel) (UInt8.ofNat channel.val)
                (order.amount channel)) ++
            ((if order.mix then settings.runPlan .mixer settings.mixOutput 1 else []) ++
              [told .pourFinished]))) := by
    rw [plan, length_channels]
    simp only [List.append_assoc, List.cons_append, List.nil_append]
  rw [pour, hplan, htotal]
  refine (follows_emit _).bind (settings.follows_prepare.bind (hchannels.bind ?_))
  exact order.follows_mix settings _

/-- Whatever the controller answers and whoever follows the progress, pouring an order has the
effects that are planned for it, up to the first command that fails and with its fault as the
result, or all of them with the number of cycles. -/
theorem pour_effects {σ : Type} (w : World Servos σ) (s : σ) :
    Pursued (order.plan settings) (UInt32.ofNat order.total)
      ((order.pour settings).run.calls w s) ((order.pour settings).run.eval w s).1 :=
  (order.follows_pour settings).pursued (Program.path_calls w _ s)

/-- An order to pour twice from the first servo and once from the third, and to mix. -/
def mixed : Order :=
  { amounts := #v[2, 0, 1, 0, 0, 0], mix := true }

/-- Two servos pour and the mixer runs, each on its own output, until the mixer cannot be opened. -/
theorem pour_mixed_effects :
    let cycle (output : UInt8) : List Servos.Op :=
      [commanded (.setPulse output 0 150), waited 1000, commanded (.setPulse output 0 600),
        waited 2000]
    let calls := (mixed.pour {}).run.calls tiring 8
    mixed.plan {} =
      [told (.pourStarted 2 true), commanded (.setFrequency 60),
        told (.cycleStarted (.pour 0) 2)] ++
        cycle 0 ++ [told (.cycleCompleted (.pour 0) 1)] ++
        cycle 0 ++ [told (.cycleCompleted (.pour 0) 0), told (.cycleStarted (.pour 2) 1)] ++
        cycle 2 ++ [told (.cycleCompleted (.pour 2) 0), told (.cycleStarted .mixer 1)] ++
        cycle 6 ++ [told (.cycleCompleted .mixer 0), told .pourFinished] ∧
    (effects calls).getLast? = some ⟨commanded (.setPulse 6 0 600), .error .writeFailed⟩ ∧
    Pursued (mixed.plan {}) (4 : UInt32) calls (.error (.pwm .writeFailed)) := by
  intro cycle calls
  refine ⟨rfl, rfl, ?_⟩
  have hresult : ((mixed.pour {}).run.eval tiring 8).1 = .error (.pwm .writeFailed) := rfl
  rw [← hresult]
  exact mixed.pour_effects {} tiring 8

end DrinkMixer.Order
