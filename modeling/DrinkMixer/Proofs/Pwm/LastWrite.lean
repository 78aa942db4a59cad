import DrinkMixer.Proofs.Pwm.Episodes
import DrinkMixer.Proofs.Pwm.Unfailing

/-!
# Channels do not disturb each other

On a bus without failures, what an operation stores is known from the registers before it
(`Operation.stores`). The four registers of a channel are stored in only by setting the pulse of
that channel, so after any operations they hold the last pulse that it was told, or what they held
before.

Main statements: `storesOf_operate`, what the calls of an operation store, `holding_operateAll`, how
the last of several pulses is found, and `last_write_wins`, the registers after any operations.
-/

namespace DrinkMixer.Pwm

open Program

/-! ### Addresses -/

/-- The registers of a channel are found without leaving eight bits. -/
theorem toNat_channelRegister_add {channel i : UInt8} (hchannel : channel < channelCount)
    (hi : i < 4) : (channelRegister channel + i).toNat = 6 + 4 * channel.toNat + i.toNat := by
  have hchannel' : channel.toNat < 16 := hchannel
  have hi' : i.toNat < 4 := hi
  simp only [channelRegister, channelBase, UInt8.toNat_add, UInt8.toNat_mul]
  simp
  omega

theorem map_toNat_ticks {channel : UInt8} (hchannel : channel < channelCount) (on off : UInt16) :
    ((ticks (channelRegister channel) on off).map fun store => store.1.toNat) =
      (List.range 4).map (6 + 4 * channel.toNat + ·) := by
  have hbase := toNat_channelRegister_add hchannel (i := 0) (by decide)
  rw [UInt8.add_zero] at hbase
  have hsecond := toNat_channelRegister_add hchannel (i := 1) (by decide)
  have hthird := toNat_channelRegister_add hchannel (i := 2) (by decide)
  have hfourth := toNat_channelRegister_add hchannel (i := 3) (by decide)
  simp only [ticks, List.map_cons, List.map_nil, hbase, hsecond, hthird, hfourth]
  rfl

theorem toNat_allChannelsBase_add {i : UInt8} (hi : i < 4) :
    (allChannelsBase + i).toNat = 250 + i.toNat := by
  have hi' : i.toNat < 4 := hi
  simp only [allChannelsBase, UInt8.toNat_add]
  simp
  omega

theorem allChannelsBase_le {i : UInt8} (hi : i < 4) : allChannelsBase ≤ allChannelsBase + i := by
  rw [UInt8.le_iff_toNat_le, toNat_allChannelsBase_add hi]
  exact Nat.le_add_right 250 i.toNat

/-! ### Four registers -/

namespace Registers

/-- The ticks that four registers decode to, low bytes first. -/
def ticksAt (registers : Registers) (base : UInt8) : UInt16 × UInt16 :=
  (tick (registers.read (base + 1)) (registers.read base),
    tick (registers.read (base + 3)) (registers.read (base + 2)))

/-- The four registers from one on hold a pulse, or where there is none what they held before. -/
def Holding (base : UInt8) (old : Registers) : Option (UInt16 × UInt16) → Registers → Prop
  | some pulse, new => new.ticksAt base = pulse
  | none, new => ∀ i < 4, new.read (base + i) = old.read (base + i)

variable {base : UInt8} {old middle new : Registers} {pulse? later? : Option (UInt16 × UInt16)}

theorem ticksAt_congr (h : ∀ i < 4, new.read (base + i) = old.read (base + i)) :
    new.ticksAt base = old.ticksAt base := by
  have hbase := h 0 (by decide)
  rw [UInt8.add_zero] at hbase
  rw [ticksAt, h 1 (by decide), hbase, h 3 (by decide), h 2 (by decide), ticksAt]

/-- A later pulse takes the place of an earlier one. -/
theorem Holding.trans (hfirst : Holding base old pulse? middle)
    (hlater : Holding base middle later? new) : Holding base old (later?.or pulse?) new := by
  cases later? with
  | some pulse => exact hlater
  | none =>
    cases pulse? with
    | some pulse => exact (ticksAt_congr hlater).trans hfirst
    | none =>
      intro i hi
      exact (hlater i hi).trans (hfirst i hi)

theorem holding_ticks (registers : Registers) (base : UInt8) (on off : UInt16) :
    registers.Holding base (some (on, off)) (registers.storeAll (ticks base on off)) := by
  simp [Holding, ticksAt, storeAll, ticks, read_store, tick_bytes]

/-- Stores in other registers. -/
theorem holding_none_of_ne {registers : Registers} {stores : List (UInt8 × UInt8)}
    (h : ∀ i < 4, ∀ store ∈ stores, store.1 ≠ base + i) :
    registers.Holding base none (registers.storeAll stores) := by
  intro i hi
  exact registers.storeAll_read (h i hi)

end Registers

/-! ### What operations store -/

namespace Operation

/-- The pulse that a channel is told. -/
def pulse? (channel : UInt8) : Operation → Option (UInt16 × UInt16)
  | .command (.setPulse told on off) => if told = channel then some (on, off) else none
  | _ => none

/-- The pulse that all channels are told at once. -/
def commonPulse? : Operation → Option (UInt16 × UInt16)
  | .setAllPulses on off => some (on, off)
  | _ => none

/-- What an operation stores where no transaction fails. -/
def stores (registers : Registers) : Operation → List (UInt8 × UInt8)
  | .setUp =>
    ticks allChannelsBase 0 0 ++
      [(mode2, pushPull), (mode1, allCall), (mode1, allCall &&& ~~~sleep)]
  | .setAllPulses on off => ticks allChannelsBase on off
  | .command (.setPulse channel on off) =>
    if channel < channelCount then ticks (channelRegister channel) on off else []
  | .command (.setFrequency hz) =>
    match prescale? hz with
    | none => []
    | some prescale =>
      let mode := registers.read mode1
      [(mode1, (mode &&& ~~~restart) ||| sleep), (prescaler, prescale), (mode1, mode),
        (mode1, mode ||| restart)]

end Operation

namespace Controller

section Stores

variable {controller : Controller} {s : Device.State} {α : Type}

/-- What a procedure stores where no transaction fails. -/
def storesOf (controller : Controller) (p : ControllerProcedure α) (s : Device.State) :
    List (UInt8 × UInt8) :=
  (p.run.calls (controller.onBus fun _ => none) s).flatMap stored

theorem storesOf_bind {β : Type} {p : ControllerProcedure α} {f : α → ControllerProcedure β}
    {value : α} {middle : Device.State}
    (h : Runs (controller.onBus fun _ => none) p s (.ok value) middle) :
    controller.storesOf (p >>= f) s =
      controller.storesOf p s ++ controller.storesOf (f value) middle := by
  have heval : p.run.eval (controller.onBus fun _ => none) s = (.ok value, middle) := h
  rw [storesOf, ExceptT.run_bind, calls_bind, heval, List.flatMap_append]
  rfl

theorem storesOf_write (register value : UInt8) :
    controller.storesOf (controller.writeRegister register value) s = [(register, value)] := by
  have hanswer : (controller.onBus fun _ => none).answer
      (.inl (.write controller.address [register, value])) s =
        (.ok (), s.stored register value) := answer_write register value
  have hcalls := calls_of_eq_ask (p := (controller.writeRegister register value).run) rfl hanswer
  rw [storesOf, hcalls]
  rfl

theorem storesOf_write_bind (register value : UInt8) (f : Unit → ControllerProcedure α) :
    controller.storesOf (controller.writeRegister register value >>= f) s =
      (register, value) :: controller.storesOf (f ()) (s.stored register value) := by
  rw [storesOf_bind (runs_write_iff.mpr (Or.inr ⟨rfl, rfl, rfl⟩)), storesOf_write]
  rfl

theorem storesOf_read_bind (register : UInt8) (f : UInt8 → ControllerProcedure α) :
    controller.storesOf (controller.readRegister register >>= f) s =
      controller.storesOf (f (s.registers.read register)) s.passed := by
  have hread : controller.storesOf (controller.readRegister register) s = [] := by
    refine List.flatMap_eq_nil_iff.mpr fun call hcall => List.eq_nil_iff_forall_not_mem.mpr ?_
    obtain ⟨before, after, hsplit⟩ := List.append_of_mem hcall
    exact storing_iff.mp (storing_readRegister (Q := fun _ _ => False) register) before call after
      hsplit
  rw [storesOf_bind (eval_readRegister controller (fun _ => none) register s), hread]
  rfl

theorem storesOf_wait_bind (ms : UInt32) (f : Unit → ControllerProcedure α) :
    controller.storesOf (wait ms >>= f) s = controller.storesOf (f ()) s := rfl

theorem storesOf_note (text : String) : controller.storesOf (note text) s = [] := rfl

/-- The calls of an operation store what is known from the registers before it. -/
theorem storesOf_operate (controller : Controller) (operation : Operation) (s : Device.State) :
    controller.storesOf (controller.operate operation) s = operation.stores s.registers := by
  cases operation with
  | setUp =>
    simp only [operate, setUp, setAllPulses, writeTicks, LawfulMonad.bind_assoc,
      storesOf_write_bind, storesOf_wait_bind, storesOf_read_bind, storesOf_note]
    simp [Operation.stores, ticks, Registers.read_store]
  | setAllPulses on off =>
    simp only [operate, setAllPulses, writeTicks, storesOf_write_bind, storesOf_write]
    rfl
  | command request =>
    cases request with
    | setPulse channel on off =>
      simp only [operate, perform, setPulse, Operation.stores]
      split_ifs
      · simp only [writeTicks, storesOf_write_bind, storesOf_write]
        rfl
      · rfl
    | setFrequency hz =>
      simp only [operate, perform, setFrequency, Operation.stores]
      cases prescale? hz with
      | none => rfl
      | some prescale =>
        simp only [storesOf_write_bind, storesOf_wait_bind, storesOf_read_bind, storesOf_note]

end Stores

end Controller

/-! ### What operations leave alone -/

namespace Operation

variable {operation : Operation} {registers : Registers} {channel register : UInt8}

/-- Without a set-up, registers are stored in by setting pulses there or by setting a frequency. -/
theorem stores_ne (hsetUp : operation ≠ .setUp) (hmode : register ≠ mode1)
    (hprescaler : register ≠ prescaler)
    (hpulse : ∀ channel on off, operation = .command (.setPulse channel on off) →
      channel < channelCount → ∀ i < 4, channelRegister channel + i ≠ register)
    (hcommon : ∀ on off, operation = .setAllPulses on off →
      ∀ i < 4, allChannelsBase + i ≠ register) :
    ∀ store ∈ operation.stores registers, store.1 ≠ register := by
  cases operation with
  | setUp => exact absurd rfl hsetUp
  | setAllPulses on off => exact ticks_ne (hcommon on off rfl)
  | command request =>
    cases request with
    | setPulse channel on off =>
      simp only [stores]
      split_ifs with hchannel
      · exact ticks_ne (hpulse channel on off rfl hchannel)
      · exact List.forall_mem_nil _
    | setFrequency hz =>
      simp only [stores]
      cases prescale? hz with
      | none => exact List.forall_mem_nil _
      | some prescale => simp [hmode.symm, hprescaler.symm]

/-- Registers of no channel, below those of all channels, are left alone. -/
theorem stores_ne_of_between (hsetUp : operation ≠ .setUp) (hmode : register ≠ mode1)
    (hbelow : register < allChannelsBase) (hregister : register < channelBase ∨ 70 ≤ register) :
    ∀ store ∈ operation.stores registers, store.1 ≠ register := by
  refine stores_ne hsetUp hmode ?_ ?_ ?_
  · rintro rfl
    exact absurd hbelow (by decide)
  · intro channel _ _ _ hchannel i hi
    exact channelRegister_add_ne_of_outside hchannel hi hregister
  · intro _ _ _ i hi
    exact (UInt8.ne_of_lt (UInt8.lt_of_lt_of_le hbelow (allChannelsBase_le hi))).symm

/-- An operation gives a channel the pulse that it is told, and else leaves it alone. -/
theorem holding_channel (hsetUp : operation ≠ .setUp) (hchannel : channel < channelCount) :
    registers.Holding (channelRegister channel) (operation.pulse? channel)
      (registers.storeAll (operation.stores registers)) := by
  by_cases htold : ∃ on off, operation = .command (.setPulse channel on off)
  · obtain ⟨on, off, rfl⟩ := htold
    rw [pulse?, if_pos rfl, stores, if_pos hchannel]
    exact registers.holding_ticks _ on off
  · -- whatever else it is, none of its stores is for one of the four registers
    have hnone : operation.pulse? channel = none := by
      rcases operation with _ | ⟨_ | ⟨told, on, off⟩⟩ | _
      · rfl
      · rfl
      · rw [pulse?, if_neg]
        rintro rfl
        exact htold ⟨on, off, rfl⟩
      · rfl
    rw [hnone]
    refine Registers.holding_none_of_ne ?_
    intro j hj
    refine stores_ne hsetUp ?_ ?_ ?_ ?_
    · exact channelRegister_add_ne_of_outside hchannel hj (Or.inl (by decide))
    · exact channelRegister_add_ne_of_outside hchannel hj (Or.inr (by decide))
    · intro told on off hoperation htold' i hi
      refine channelRegister_add_ne htold' hchannel ?_ hi hj
      rintro rfl
      exact htold ⟨on, off, hoperation⟩
    · intro _ _ _ i hi
      have hbase : 70 ≤ allChannelsBase := by decide
      have hbeyond : 70 ≤ allChannelsBase + i := UInt8.le_trans hbase (allChannelsBase_le hi)
      exact (channelRegister_add_ne_of_outside hchannel hj (Or.inr hbeyond)).symm

/-- An operation gives all channels the pulse that they are told at once. -/
theorem holding_allChannels (hsetUp : operation ≠ .setUp) :
    registers.Holding allChannelsBase operation.commonPulse?
      (registers.storeAll (operation.stores registers)) := by
  by_cases htold : ∃ on off, operation = .setAllPulses on off
  · obtain ⟨on, off, rfl⟩ := htold
    exact registers.holding_ticks _ on off
  · have hnone : operation.commonPulse? = none := by
      rcases operation with _ | _ | ⟨on, off⟩
      · rfl
      · rfl
      · exact absurd ⟨on, off, rfl⟩ htold
    rw [hnone]
    refine Registers.holding_none_of_ne ?_
    intro j hj
    -- the four registers are 250 up to 253, beside the mode, the prescaler and the channels
    have hj' := toNat_allChannelsBase_add hj
    refine stores_ne hsetUp ?_ ?_ ?_ ?_
    · rw [ne_eq, ← UInt8.toNat_inj, hj']
      show ¬250 + j.toNat = 0
      omega
    · have hlt : j.toNat < 4 := hj
      rw [ne_eq, ← UInt8.toNat_inj, hj']
      show ¬250 + j.toNat = 254
      omega
    · intro channel _ _ _ hchannel i hi
      have hbase : 70 ≤ allChannelsBase := by decide
      have hbeyond : 70 ≤ allChannelsBase + j := UInt8.le_trans hbase (allChannelsBase_le hj)
      exact channelRegister_add_ne_of_outside hchannel hi (Or.inr hbeyond)
    · intro on off hoperation
      exact absurd ⟨on, off, hoperation⟩ htold

end Operation

/-! ### Histories -/

namespace Controller

variable {controller : Controller} {operations : List Operation} {s : Device.State}

/-- Operations after which four registers hold what these tell them hold the last of it. -/
theorem holding_operateAll {base : UInt8} {told : Operation → Option (UInt16 × UInt16)}
    (hstep : ∀ operation ∈ operations, ∀ registers : Registers, registers.Holding base
      (told operation) (registers.storeAll (operation.stores registers))) :
    s.registers.Holding base (operations.filterMap told).getLast?
      ((controller.operateAll operations).eval (controller.onBus fun _ => none) s).2.registers := by
  induction operations generalizing s with
  | nil => exact fun _ _ => rfl
  | cons operation rest ih =>
    rw [List.forall_mem_cons] at hstep
    have hlast : ((operation :: rest).filterMap told).getLast? =
        (rest.filterMap told).getLast?.or (told operation) := by
      rw [List.filterMap_cons]
      cases told operation with
      | none => rw [Option.or_none]
      | some pulse =>
        dsimp only
        rw [List.getLast?_cons]
        cases (rest.filterMap told).getLast? <;> rfl
    have hfirst := hstep.1 s.registers
    rw [← storesOf_operate controller operation s, storesOf, ← registers_eval] at hfirst
    rw [hlast, eval_operateAll_cons]
    exact hfirst.trans (ih hstep.2)

/-- Registers that no operation stores in keep what they hold. -/
theorem read_operateAll {register : UInt8}
    (hstores : ∀ operation ∈ operations, ∀ registers,
      ∀ store ∈ operation.stores registers, store.1 ≠ register) :
    ((controller.operateAll operations).eval (controller.onBus fun _ => none)
      s).2.registers.read register = s.registers.read register := by
  induction operations generalizing s with
  | nil => rfl
  | cons operation rest ih =>
    rw [List.forall_mem_cons] at hstores
    have hfirst := s.registers.storeAll_read (hstores.1 s.registers)
    rw [← storesOf_operate controller operation s, storesOf, ← registers_eval] at hfirst
    rw [eval_operateAll_cons]
    exact (ih hstores.2).trans hfirst

end Controller

/-- The registers that are stored in during an episode, as natural numbers. -/
def Episode.addresses (episode : Episode) : List Nat :=
  (episode.calls.flatMap stored).map fun store => store.1.toNat

section Episodes

variable {controller : Controller} {operations : List Operation} {s : Device.State}
  {episode : Episode}

/-- An episode stores what its operation stores in the registers that it finds. -/
theorem stores_of_mem (h : episode ∈ controller.episodes (fun _ => none) operations s) :
    episode.calls.flatMap stored = episode.operation.stores episode.start.registers := by
  have hcalls := (Controller.episode_of_mem h).1
  rw [hcalls]
  exact Controller.storesOf_operate controller episode.operation episode.start

/-- A pulse goes to the registers of its channel, and one for a channel that the chip does not have
is refused without a transaction. -/
theorem addresses_setPulse {channel : UInt8} {on off : UInt16}
    (h : episode ∈ controller.episodes (fun _ => none) operations s)
    (hoperation : episode.operation = .command (.setPulse channel on off)) :
    if channel < channelCount then
      episode.addresses = (List.range 4).map (6 + 4 * channel.toNat + ·)
    else episode.result = .error (.invalidChannel channel) ∧ episode.calls = [] := by
  split_ifs with hchannel
  · rw [Episode.addresses, stores_of_mem h, hoperation, Operation.stores, if_pos hchannel]
    exact map_toNat_ticks hchannel on off
  · obtain ⟨hcalls, hresult⟩ := Controller.episode_of_mem h
    have hrefused : controller.operate (.command (.setPulse channel on off)) =
        throw (.invalidChannel channel) := if_neg hchannel
    rw [hoperation, hrefused] at hcalls hresult
    exact ⟨hresult, hcalls⟩

/-- A pulse for all channels goes to the registers of all channels. -/
theorem addresses_setAllPulses {on off : UInt16}
    (h : episode ∈ controller.episodes (fun _ => none) operations s)
    (hoperation : episode.operation = .setAllPulses on off) :
    episode.addresses = (List.range 4).map (250 + ·) := by
  rw [Episode.addresses, stores_of_mem h, hoperation]
  rfl

end Episodes

/-- On a bus without failures, after pulses and frequencies were set in any order, each channel
holds the pulse that it was told last, or what it held at first if it was told none, and so do the
registers of all channels. The registers in between and the second mode are as at first. A pulse
goes to the four registers of its channel, which are found without leaving eight bits, and one for a
channel that the chip does not have is refused without a transaction. -/
theorem last_write_wins (controller : Controller) (operations : List Operation) (s : Device.State)
    (hsetUp : ∀ operation ∈ operations, operation ≠ .setUp) :
    let final :=
      ((controller.operateAll operations).eval (controller.onBus fun _ => none) s).2.registers
    (∀ channel < channelCount, s.registers.Holding (channelRegister channel)
        (operations.filterMap (Operation.pulse? channel)).getLast? final) ∧
      s.registers.Holding allChannelsBase (operations.filterMap Operation.commonPulse?).getLast?
        final ∧
      final.read mode2 = s.registers.read mode2 ∧
      (∀ register, 70 ≤ register → register < allChannelsBase →
        final.read register = s.registers.read register) ∧
      ∀ episode ∈ controller.episodes (fun _ => none) operations s,
        (∀ channel on off, episode.operation = .command (.setPulse channel on off) →
          if channel < channelCount then
            episode.addresses = (List.range 4).map (6 + 4 * channel.toNat + ·)
          else episode.result = .error (.invalidChannel channel) ∧ episode.calls = []) ∧
        ∀ on off, episode.operation = .setAllPulses on off →
          episode.addresses = (List.range 4).map (250 + ·) := by
  intro final
  -- below the registers of all channels only the mode and single channels are stored to
  have hread : ∀ register, register ≠ mode1 → register < allChannelsBase →
      (register < channelBase ∨ 70 ≤ register) →
        final.read register = s.registers.read register := by
    intro register hmode hbelow hregister
    refine Controller.read_operateAll ?_
    intro operation hoperation registers
    exact Operation.stores_ne_of_between (hsetUp operation hoperation) hmode hbelow hregister
  refine ⟨?_, ?_, ?_, ?_, ?_⟩
  · intro channel hchannel
    refine Controller.holding_operateAll ?_
    intro operation hoperation registers
    exact Operation.holding_channel (hsetUp operation hoperation) hchannel
  · refine Controller.holding_operateAll ?_
    intro operation hoperation registers
    exact Operation.holding_allChannels (hsetUp operation hoperation)
  · exact hread mode2 (by decide) (by decide) (Or.inl (by decide))
  · intro register hregister hbelow
    refine hread register ?_ hbelow (Or.inr hregister)
    rintro rfl
    exact absurd hregister (by decide)
  · intro episode hepisode
    exact ⟨fun _ _ _ hoperation => addresses_setPulse hepisode hoperation,
      fun _ _ hoperation => addresses_setAllPulses hepisode hoperation⟩

/-- A channel is told two pulses, with others and a refused one in between. -/
theorem last_write_wins_told_twice :
    let operations : List Operation :=
      [.command (.setPulse 3 0 150), .command (.setPulse 4 7 300), .command (.setPulse 16 0 1),
        .setAllPulses 1 2, .command (.setPulse 3 0 600), .command (.setFrequency 60)]
    let final :=
      ((Controller.operateAll ⟨0x40⟩ operations).eval (Controller.onBus ⟨0x40⟩ fun _ => none)
        {}).2.registers
    (∀ operation ∈ operations, operation ≠ .setUp) ∧
      final.ticksAt (channelRegister 3) = (0, 600) ∧ final.ticksAt (channelRegister 4) = (7, 300) ∧
      final.ticksAt allChannelsBase = (1, 2) ∧ final.read mode2 = 0 := by
  intro operations final
  have hsetUp : ∀ operation ∈ operations, operation ≠ .setUp := by simp [operations]
  obtain ⟨hchannels, hcommon, hmode, _⟩ := last_write_wins ⟨0x40⟩ operations {} hsetUp
  exact ⟨hsetUp, hchannels 3 (by decide), hchannels 4 (by decide), hcommon, hmode⟩

end DrinkMixer.Pwm
