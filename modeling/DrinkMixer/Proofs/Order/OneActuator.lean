import DrinkMixer.Proofs.Cycle.Arguments
import DrinkMixer.Proofs.Cycle.Count
import DrinkMixer.Proofs.Cycle.Pursuit
import DrinkMixer.Proofs.Order.Plan

/-!
# Orders for one actuator

An order that has something for one actuator only asks for what can also be asked for by arguments
(`SameJob`).

Main statement: `pour_eq_serve`, the order and the arguments have the same effects and the same
result, but for the start and the end that are told of an order.
-/

namespace DrinkMixer

open Program Servos

/-- The requests that an order makes besides moving actuators: the start and the end of an order are
told, and records are put into the log. The hardware takes no notice of them. -/
def Servos.isAside : Servos.Op → Bool
  | .inr (.inl (.note _)) => true
  | .inr (.inr (.emit (.pourStarted _ _))) => true
  | .inr (.inr (.emit .pourFinished)) => true
  | _ => false

theorem Servos.asides_isAside : Asides isAside where
  note op hop := by
    unfold isNote at hop
    split at hop
    · rfl
    · cases hop
  command _ := rfl

namespace ServoSettings

variable (settings : ServoSettings)

/-- The cycles of an actuator are made of what has an effect only. -/
theorem filter_cyclesPlan (actuator : Actuator) (output : UInt8) (count : Nat) :
    (settings.cyclesPlan actuator output count).filter (fun op => !isAside op) =
      settings.cyclesPlan actuator output count := by
  induction count with
  | zero => rfl
  | succ count ih =>
    rw [cyclesPlan_succ, List.filter_append, List.filter_cons, ih]
    rfl

theorem filter_runPlan (actuator : Actuator) (output : UInt8) (count : UInt32) :
    (settings.runPlan actuator output count).filter (fun op => !isAside op) =
      settings.runPlan actuator output count := by
  rw [runPlan, List.filter_cons, filter_cyclesPlan]
  rfl

theorem filter_servedPlan (request : CycleRequest) :
    (settings.servedPlan request).filter (fun op => !isAside op) = settings.servedPlan request := by
  obtain ⟨actuator, count⟩ := request
  cases actuator with
  | pour channel =>
    simp only [servedPlan, List.filter_cons, filter_runPlan]
    rfl
  | mixer =>
    simp only [servedPlan, List.filter_cons, filter_runPlan]
    rfl

end ServoSettings

namespace Order

/-! ### What an order does to the hardware -/

section Plan

variable (order : Order) (settings : ServoSettings)

/-- The frequency is set, and the actuators of the order are run. -/
theorem filter_plan : (order.plan settings).filter (fun op => !isAside op) =
    commanded (.setFrequency settings.frequency) ::
      ((order.channels.flatMap fun channel =>
          settings.runPlan (.pour channel) (UInt8.ofNat channel.val) (order.amount channel)) ++
        if order.mix then settings.runPlan .mixer settings.mixOutput 1 else []) := by
  have hstart : [told (.pourStarted (UInt64.ofNat (order.amounts.toList.countP (· ≠ 0))) order.mix),
      commanded (.setFrequency settings.frequency)].filter (fun op => !isAside op) =
        [commanded (.setFrequency settings.frequency)] := rfl
  -- a run has no effect that is left out
  have hchannels : ∀ channels : List PourChannel,
      (channels.flatMap fun channel =>
          settings.runPlan (.pour channel) (UInt8.ofNat channel.val)
            (order.amount channel)).filter (fun op => !isAside op) =
        channels.flatMap fun channel =>
          settings.runPlan (.pour channel) (UInt8.ofNat channel.val) (order.amount channel) := by
    intro channels
    simp only [List.filter_flatMap, ServoSettings.filter_runPlan]
  have hmix : (if order.mix then settings.runPlan .mixer settings.mixOutput 1 else []).filter
      (fun op => !isAside op) =
        if order.mix then settings.runPlan .mixer settings.mixOutput 1 else [] := by
    cases order.mix with
    | true => exact settings.filter_runPlan .mixer _ 1
    | false => rfl
  have hend : [told .pourFinished].filter (fun op => !isAside op) = [] := rfl
  rw [plan, ← flatMap_channels, List.filter_append, List.filter_append, List.filter_append, hstart,
    hchannels, hmix, hend, List.append_nil, List.append_assoc, List.singleton_append]

variable {order} {channel : PourChannel}

/-- The only pour servo with something to pour is the only one that moves. -/
theorem channels_of_only (hcount : order.amount channel ≠ 0)
    (hothers : ∀ other, other ≠ channel → order.amount other = 0) :
    order.channels = [channel] := by
  have hmoves : ∀ other, (order.amount other != 0) = decide (channel = other) := by
    intro other
    by_cases hother : other = channel
    · subst hother
      simp [hcount]
    · simp [hothers other hother, Ne.symm hother]
  rw [channels, funext hmoves]
  clear hmoves hothers hcount
  revert channel
  decide

theorem channels_of_forall (h : ∀ channel, order.amount channel = 0) : order.channels = [] := by
  rw [channels, List.filter_eq_nil_iff]
  intro channel _
  simp [h channel]

end Plan

/-! ### Orders and arguments for the same -/

/-- An order and arguments that ask for the same: one pour servo moves at least once, or the mixer
runs. -/
inductive SameJob : Order → List String → Prop
  /-- One pour servo moves: it is named, and its amount is the count. -/
  | pour {order : Order} (channel : PourChannel) (count : order.amount channel ≠ 0)
      (others : ∀ other, other ≠ channel → order.amount other = 0) (mix : order.mix = false) :
    SameJob order [(Actuator.pour channel).name, toString (order.amount channel)]
  /-- Only the mixer runs: it is named, whatever follows. -/
  | mix {order : Order} (amounts : ∀ channel, order.amount channel = 0) (mix : order.mix = true)
      (rest : List String) : SameJob order (Actuator.mixer.name :: rest)

variable {order : Order} {arguments : List String}

/-- The arguments ask for the cycles that the order is made of. -/
theorem SameJob.exists_request (h : SameJob order arguments) (settings : ServoSettings) :
    ∃ request, CycleRequest.ofArguments arguments = .ok request ∧
      (order.plan settings).filter (fun op => !isAside op) =
        (settings.servedPlan request).filter (fun op => !isAside op) ∧
      UInt32.ofNat order.total = ServoSettings.total request.actuator request.count := by
  -- one servo with a count, or the mixer with whatever follows it
  cases h with
  | pour channel count others mix =>
    have hchannels := channels_of_only count others
    refine ⟨⟨.pour channel, order.amount channel⟩, ?_, ?_, ?_⟩
    · rw [CycleRequest.ofArguments, Actuator.ofText_name]
      show (CycleRequest.mk (.pour channel) <$> RepeatCount.ofText _) = _
      rw [RepeatCount.ofText_toString]
      rfl
    · rw [filter_plan, hchannels, mix, ServoSettings.filter_servedPlan]
      simp [ServoSettings.servedPlan]
    · rw [total, ← sum_channels, hchannels, mix]
      simp [ServoSettings.total]
  | mix amounts mix rest =>
    have hchannels := channels_of_forall amounts
    refine ⟨⟨.mixer, 1⟩, rfl, ?_, ?_⟩
    · rw [filter_plan, hchannels, mix, ServoSettings.filter_servedPlan]
      rfl
    · rw [total, ← sum_channels, hchannels, mix]
      rfl

end Order

/-! ### A controller that is there -/

variable {σ ε : Type}

/-- The same world, in which a controller can be had and having it changes nothing. -/
def World.withController (w : World Servos σ) : World ((Opening ε).sum Servos) σ :=
  World.sum ⟨fun _ s => (.ok (), s)⟩ w

namespace CycleRequest

variable {arguments : List String} {request : CycleRequest}

/-- Where the controller is there, serving arguments comes to serving their request. -/
theorem calls_serve (h : ofArguments arguments = .ok request) (w : World Servos σ)
    (wrap : Failure → ε) (settings : ServoSettings) (s : σ) :
    ((serve wrap settings arguments).run.calls w.withController s).filterMap Call.right? =
      (settings.served request).run.calls w s := by
  have hopen : (w.withController : World ((Opening ε).sum Servos) σ).answer
      (.inl (.openController settings)) s = (.ok (), s) := rfl
  rw [calls_of_eq_ask (run_serve_of_ok h) hopen]
  show List.filterMap Call.right? (_ :: (attempt wrap _).run.calls _ s) = _
  rw [calls_attempt_lift, List.filterMap_cons, List.filterMap_map]
  exact List.filterMap_some

theorem eval_serve (h : ofArguments arguments = .ok request) (w : World Servos σ)
    (wrap : Failure → ε) (settings : ServoSettings) (s : σ) :
    ((serve wrap settings arguments).run.eval w.withController s).1 =
      ((settings.served request).run.eval w s).1.mapError wrap := by
  have hopen : (w.withController : World ((Opening ε).sum Servos) σ).answer
      (.inl (.openController settings)) s = (.ok (), s) := rfl
  rw [eval_of_eq_ask (run_serve_of_ok h) hopen]
  show ((attempt wrap _).run.eval _ s).1 = _
  rw [eval_attempt_lift]
  rfl

end CycleRequest

namespace Order

variable {order : Order} {arguments : List String}

/-- Whatever the hardware answers, and whichever command fails, an order for one actuator and the
arguments for the same make the same commands, waits and events with the same answers, but for the
start and the end that are told of the order, and they return the same. -/
theorem pour_eq_serve (h : SameJob order arguments) (w : World Servos σ) (wrap : Failure → ε)
    (settings : ServoSettings) (s : σ) :
    let hardware := w.unmoved isAside
    let poured := (order.pour settings).run
    let served := (CycleRequest.serve wrap settings arguments).run
    deeds isAside (poured.calls hardware s) =
      deeds isAside ((served.calls hardware.withController s).filterMap Call.right?) ∧
    (served.eval hardware.withController s).1 = (poured.eval hardware s).1.mapError wrap := by
  intro hardware poured served
  obtain ⟨request, hrequest, hplan, htotal⟩ := h.exists_request settings
  have hpour := order.follows_pour settings
  rw [htotal] at hpour
  obtain ⟨hdeeds, hresult⟩ :=
    asides_isAside.agree hpour (settings.follows_served request) hplan s (w := w)
  constructor
  · rw [CycleRequest.calls_serve hrequest]
    exact hdeeds
  · rw [CycleRequest.eval_serve hrequest]
    exact congrArg (Except.mapError wrap) hresult.symm

/-- Hardware that counts its commands and fails at those after the first so many. -/
def wornOut (commands : Nat) : World Servos Nat where
  answer
    | .inl _, n => (if n < commands then .ok () else .error .writeFailed, n + 1)
    | .inr (.inl _), n => ((), n)
    | .inr (.inr _), n => ((), n)

/-- Twelve times from the fourth servo, on a controller that fails in the second cycle: it is the
fifth command that fails, in both. -/
theorem pour_twelve_eq_serve :
    let order : Order := { amounts := #v[0, 0, 0, 12, 0, 0] }
    let hardware := (wornOut 4).unmoved isAside
    let served := (CycleRequest.serve id {} ["3", "12"]).run
    SameJob order ["3", "12"] ∧
      deeds isAside ((order.pour {}).run.calls hardware 0) =
        deeds isAside ((served.calls hardware.withController 0).filterMap Call.right?) ∧
      (served.eval hardware.withController 0).1 =
        ((order.pour {}).run.eval hardware 0).1.mapError id ∧
      ((order.pour {}).run.eval hardware 0).1 = .error (.pwm .writeFailed) := by
  intro order hardware served
  have harguments : [(Actuator.pour 3).name, toString (order.amount 3)] = ["3", "12"] := by
    decide +kernel
  have hjob : SameJob order ["3", "12"] := by
    rw [← harguments]
    exact .pour 3 (by decide) (by decide) rfl
  obtain ⟨hdeeds, hresult⟩ := pour_eq_serve hjob (wornOut 4) id {} 0
  exact ⟨hjob, hdeeds, hresult, by decide⟩

end Order

end DrinkMixer
