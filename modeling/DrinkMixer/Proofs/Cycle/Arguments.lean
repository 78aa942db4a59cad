import DrinkMixer.Proofs.Cycle.Serving
import DrinkMixer.Proofs.Program.Runs

/-!
# The arguments of a cycle run

What a list of arguments asks for, or why it is refused (`Asks`), and what is done for a request
that is accepted (`Serves`): the controller is opened, the frequency is set and the actuator is run,
and the first of these that fails is the last.

Main statement: `serve_checks_first`, arguments that are refused reach nothing outside, and all
others are served.
-/

namespace DrinkMixer

open Program Servos

namespace World

variable {S T : Signature} {σ : Type}

/-- What a world answers to requests of the first of two signatures. -/
def left (w : World (S.sum T) σ) : World S σ where
  answer op s := w.answer (.inl op) s

/-- What a world answers to requests of the second of two signatures. -/
def right (w : World (S.sum T) σ) : World T σ where
  answer op s := w.answer (.inr op) s

end World

namespace CycleRequest

/-! ### What arguments ask for -/

/-- The names of the pour servos, in order. -/
def channelNames : Vector String 6 :=
  #v["0", "1", "2", "3", "4", "5"]

/-- The request that a list of arguments makes, or why it is refused. -/
inductive Asks : List String → Except Failure CycleRequest → Prop
  /-- There is no argument. -/
  | nothing : Asks [] (.error (.missingArgument "channel"))
  /-- The first argument names nothing that can be moved, whatever follows it. -/
  | unknown (first : String) (rest : List String) (hmix : first ≠ "mix")
      (hchannel : first ∉ channelNames) : Asks (first :: rest) (.error (.unknownActuator first))
  /-- The mixer is named, whatever follows. -/
  | mixer (rest : List String) : Asks ("mix" :: rest) (.ok ⟨.mixer, 1⟩)
  /-- A pour servo is named, and nothing follows. -/
  | uncounted (channel : PourChannel) :
    Asks [channelNames.get channel] (.error (.missingArgument "count"))
  /-- A pour servo is named, and what follows is no count. -/
  | miscounted (channel : PourChannel) (text : String) (rest : List String)
      (h : ∀ count, RepeatCount.ofText text ≠ .ok count) :
    Asks (channelNames.get channel :: text :: rest) (.error (.invalidCount text))
  /-- A pour servo is named, and a count follows. -/
  | counted (channel : PourChannel) (text : String) (rest : List String) (count : UInt32)
      (h : RepeatCount.ofText text = .ok count) :
    Asks (channelNames.get channel :: text :: rest) (.ok ⟨.pour channel, count⟩)

theorem ofText_channelName (channel : PourChannel) :
    Actuator.ofText (channelNames.get channel) = .ok (.pour channel) := by
  match channel with
  | 0 | 1 | 2 | 3 | 4 | 5 => rfl

/-- A text that is no name of a pour servo and not that of the mixer names nothing. -/
theorem ofText_of_not_mem {text : String} (hmix : text ≠ "mix") (hchannel : text ∉ channelNames) :
    Actuator.ofText text = .error (.unknownActuator text) := by
  unfold Actuator.ofText
  split
  case h_1 => exact absurd rfl hmix
  case h_8 => rfl
  all_goals simp [channelNames] at hchannel

/-- A count that is refused is quoted as it was given. -/
theorem ofText_of_ne_ok {text : String} (h : ∀ count, RepeatCount.ofText text ≠ .ok count) :
    RepeatCount.ofText text = .error (.invalidCount text) := by
  unfold RepeatCount.ofText at h ⊢
  split
  · next count hcount => exact absurd (by rw [hcount]) (h count)
  · rfl

/-- Every list of arguments asks for something or is refused. -/
theorem exists_asks (arguments : List String) : ∃ asked, Asks arguments asked := by
  rcases arguments with _ | ⟨first, rest⟩
  · exact ⟨_, .nothing⟩
  by_cases hmix : first = "mix"
  · subst hmix
    exact ⟨_, .mixer rest⟩
  by_cases hchannel : first ∈ channelNames
  swap
  · exact ⟨_, .unknown first rest hmix hchannel⟩
  obtain ⟨i, hi, rfl⟩ := Vector.getElem_of_mem hchannel
  rcases rest with _ | ⟨text, rest⟩
  · exact ⟨_, .uncounted ⟨i, hi⟩⟩
  by_cases hcount : ∃ count, RepeatCount.ofText text = .ok count
  · obtain ⟨count, hcount⟩ := hcount
    exact ⟨_, .counted ⟨i, hi⟩ text rest count hcount⟩
  · exact ⟨_, .miscounted ⟨i, hi⟩ text rest (not_exists.mp hcount)⟩

/-- What arguments ask for is read from them. -/
theorem Asks.ofArguments_eq {arguments : List String} {asked : Except Failure CycleRequest}
    (h : Asks arguments asked) : ofArguments arguments = asked := by
  cases h with
  | nothing => rfl
  | unknown first rest hmix hchannel =>
    rw [ofArguments, ofText_of_not_mem hmix hchannel]
    rfl
  | mixer rest => rfl
  | uncounted channel =>
    rw [ofArguments, ofText_channelName]
    rfl
  | miscounted channel text rest h =>
    rw [ofArguments, ofText_channelName]
    show (CycleRequest.mk (.pour channel) <$> RepeatCount.ofText text) = _
    rw [ofText_of_ne_ok h]
    rfl
  | counted channel text rest count h =>
    rw [ofArguments, ofText_channelName]
    show (CycleRequest.mk (.pour channel) <$> RepeatCount.ofText text) = _
    rw [h]
    rfl

/-! ### What is handed on -/

variable {σ ε α : Type} (w : World ((Opening ε).sum Servos) σ)

/-- A servo procedure finds its requests next to the one for a controller. -/
theorem calls_lift_eq (p : Program Servos α) (s : σ) :
    (p.lift : Program ((Opening ε).sum Servos) α).calls w s = (p.calls w.right s).map onward := by
  induction p generalizing s with
  | done value => rfl
  | ask op next ih =>
    -- each kind of request is offered in its own place
    rcases op with _ | _ | _ <;> exact congrArg (_ :: ·) (ih _ _)

theorem eval_lift_eq (p : Program Servos α) (s : σ) :
    (p.lift : Program ((Opening ε).sum Servos) α).eval w s = p.eval w.right s := by
  induction p generalizing s with
  | done value => rfl
  | ask op next ih => rcases op with _ | _ | _ <;> exact ih _ _

/-! ### What is done for a request -/

/-- The frequency of the settings was asked for. -/
def frequencySet (settings : ServoSettings) (answer : Except PwmFault Unit) :
    Call ((Opening ε).sum Servos) :=
  onward ⟨commanded (.setFrequency settings.frequency), answer⟩

/-- The log record of a frequency that was set. -/
def frequencyNote (settings : ServoSettings) : Servos.Op :=
  .inr (.inl (.note ⟨.info, s!"PWM frequency set to {settings.frequency} Hz"⟩))

/-- The calls and the result of what is done for a request, begun in some state: the steps up to the
first that fails. -/
inductive Serves (wrap : Failure → ε) (settings : ServoSettings) (request : CycleRequest) (s : σ) :
    List (Call ((Opening ε).sum Servos)) → Except ε UInt32 → Prop
  /-- The controller cannot be opened. -/
  | unopened {s₁ : σ} {failure : ε}
      (hopen : w.left.answer (.openController settings) s = (.error failure, s₁)) :
    Serves wrap settings request s [opened settings (.error failure)] (.error failure)
  /-- The frequency cannot be set. -/
  | unprepared {s₁ s₂ : σ} {fault : PwmFault}
      (hopen : w.left.answer (.openController settings) s = (.ok (), s₁))
      (hfrequency : w.right.answer (commanded (.setFrequency settings.frequency)) s₁ =
        (.error fault, s₂)) :
    Serves wrap settings request s
      [opened settings (.ok ()), frequencySet settings (.error fault)] (.error (wrap (.pwm fault)))
  /-- The actuator is run. -/
  | run {s₁ s₂ s₃ : σ}
      (hopen : w.left.answer (.openController settings) s = (.ok (), s₁))
      (hfrequency : w.right.answer (commanded (.setFrequency settings.frequency)) s₁ =
        (.ok (), s₂))
      (hnote : w.right.answer (frequencyNote settings) s₂ = ((), s₃)) :
    Serves wrap settings request s
      (opened settings (.ok ()) :: frequencySet settings (.ok ()) ::
        onward ⟨frequencyNote settings, ()⟩ ::
        ((settings.run request.actuator request.count).run.calls w.right s₃).map onward)
      (((settings.run request.actuator request.count).run.eval w.right s₃).1.mapError wrap)

variable {w} {wrap : Failure → ε} {settings : ServoSettings} {arguments : List String}
  {request : CycleRequest}

/-- What a servo procedure comes to when it is handed on. -/
theorem calls_attempt_lift (w : World ((Opening ε).sum Servos) σ) (p : ServoProcedure α) (s : σ) :
    (attempt wrap p.run.lift : ExceptT ε (Program ((Opening ε).sum Servos)) α).run.calls w s =
      (p.run.calls w.right s).map onward := by
  show (p.run.lift >>= fun answer => done (answer.mapError wrap)).calls w s = _
  rw [calls_bind, calls_lift_eq, calls_done, List.append_nil]

theorem eval_attempt_lift (w : World ((Opening ε).sum Servos) σ) (p : ServoProcedure α) (s : σ) :
    (attempt wrap p.run.lift : ExceptT ε (Program ((Opening ε).sum Servos)) α).run.eval w s =
      ((p.run.eval w.right s).1.mapError wrap, (p.run.eval w.right s).2) := by
  show (p.run.lift >>= fun answer => done (answer.mapError wrap)).eval w s = _
  rw [eval_bind, eval_lift_eq, eval_done]

/-- What follows the opening of the controller. -/
def afterOpening (wrap : Failure → ε) (settings : ServoSettings) (request : CycleRequest) :
    Except ε Unit → Program ((Opening ε).sum Servos) (Except ε UInt32)
  | .error failure => .done (.error failure)
  | .ok () => (attempt wrap (settings.served request).run.lift).run

/-- What follows the setting of the frequency. -/
def afterFrequency (settings : ServoSettings) (request : CycleRequest) :
    Except PwmFault Unit → Program Servos (Except Failure UInt32)
  | .error fault => .done (.error (.pwm fault))
  | .ok () =>
    .ask (frequencyNote settings) fun _ => (settings.run request.actuator request.count).run

/-- Arguments that are accepted have the controller opened and their request served. -/
theorem run_serve_of_ok (h : ofArguments arguments = .ok request) :
    (serve wrap settings arguments).run =
      .ask (.inl (.openController settings)) (afterOpening wrap settings request) := by
  unfold serve
  rw [h]
  refine congrArg (Program.ask _) (funext fun answer => ?_)
  rcases answer with failure | ⟨⟩
  · rfl
  · show (attempt wrap settings.prepare.run.lift >>= fun _ =>
        attempt wrap (settings.run request.actuator request.count).run.lift :
          ExceptT ε (Program ((Opening ε).sum Servos)) UInt32).run = _
    rw [attempt_lift_bind]
    rfl

/-- A request is served by setting the frequency first. -/
theorem run_served (settings : ServoSettings) (request : CycleRequest) :
    (settings.served request).run =
      .ask (commanded (.setFrequency settings.frequency)) (afterFrequency settings request) := by
  refine congrArg (Program.ask _) (funext fun answer => ?_)
  rcases answer with fault | ⟨⟩
  · rfl
  · rfl

/-- What is done for a request, once the controller is open. -/
theorem serves_of_opened (request : CycleRequest) {s s₁ : σ}
    (hopen : w.left.answer (.openController settings) s = (.ok (), s₁)) :
    Serves w wrap settings request s
      (opened settings (.ok ()) :: ((settings.served request).run.calls w.right s₁).map onward)
      (((settings.served request).run.eval w.right s₁).1.mapError wrap) := by
  obtain ⟨answer, s₂, hfrequency⟩ : ∃ answer s₂, w.right.answer
      (commanded (.setFrequency settings.frequency)) s₁ = (answer, s₂) := ⟨_, _, rfl⟩
  rw [calls_of_eq_ask (run_served settings request) hfrequency,
    eval_of_eq_ask (run_served settings request) hfrequency]
  rcases answer with fault | ⟨⟩
  · exact .unprepared hopen hfrequency
  · exact .run hopen hfrequency rfl

/-- Arguments that are accepted are served. -/
theorem serves_of_ok (h : ofArguments arguments = .ok request) (s : σ) :
    Serves w wrap settings request s ((serve wrap settings arguments).run.calls w s)
      ((serve wrap settings arguments).run.eval w s).1 := by
  obtain ⟨answer, s₁, hopen⟩ : ∃ answer s₁, w.left.answer (.openController settings) s =
      (answer, s₁) := ⟨_, _, rfl⟩
  rw [calls_of_eq_ask (run_serve_of_ok h) hopen, eval_of_eq_ask (run_serve_of_ok h) hopen]
  rcases answer with failure | ⟨⟩
  · exact .unopened hopen
  · show Serves _ _ _ _ _ (_ :: (attempt wrap _).run.calls w s₁) ((attempt wrap _).run.eval w s₁).1
    rw [calls_attempt_lift, eval_attempt_lift]
    exact serves_of_opened request hopen

/-- Arguments are checked before anything outside is touched. Every list of them asks for something
or is refused. If it is refused, nothing is asked of the outside and the reason is returned. If it
asks for something, the controller of the settings is opened, once and before anything else, and
what is asked for is done up to the first step that fails. -/
theorem serve_checks_first (w : World ((Opening ε).sum Servos) σ) (wrap : Failure → ε)
    (settings : ServoSettings) (arguments : List String) (s : σ) :
    let run := (serve wrap settings arguments).run
    (∃ asked, Asks arguments asked) ∧
    (∀ failure, Asks arguments (.error failure) →
      run.calls w s = [] ∧ run.eval w s = (.error (wrap failure), s)) ∧
    ∀ request, Asks arguments (.ok request) →
      Serves w wrap settings request s (run.calls w s) (run.eval w s).1 := by
  intro run
  refine ⟨exists_asks arguments, ?_, fun request h => serves_of_ok h.ofArguments_eq s⟩
  intro failure h
  have hrun : run = .done (.error (wrap failure)) := by
    show (serve wrap settings arguments).run = _
    unfold serve
    rw [h.ofArguments_eq]
    rfl
  rw [hrun]
  exact ⟨rfl, rfl⟩

end CycleRequest

end DrinkMixer
