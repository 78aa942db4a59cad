import DrinkMixer.Payment.Bus
import DrinkMixer.Proofs.Tag.FrameRound

/-!
# The tag reader with the payment reader on its bus

Frames are read from the bus of the payment reader (`Payment.onStation`), where a read fails for a
missing acknowledge or because it fails.

Main statement: `failure_of_readPayment`, with a frame length that can be read a run for a payment
frame fails for these reasons only.
-/

namespace DrinkMixer

open Program

namespace Payment

/-- What the tag reader asks for when its requests to the payment reader go to the bus. -/
abbrev PaymentStation : Signature :=
  Card.sum (I2c.sum (Pins.sum (Stop.sum (Board.sum Progress))))

/-- Frames are read from the bus, and all else is handed on. -/
def onStation : Realization TagStation PaymentStation Unit :=
  (Realization.direct Card).sum ((Realization.lift onBus).sum
    (.direct (Pins.sum (Stop.sum (Board.sum Progress)))))

/-- A read from the bus fails with a fault of the bus. -/
theorem fault_of_read {address : UInt8} {length : Nat} {calls : List (Call (I2c.sum Board))}
    {fault : BusFault} (h : Path (read address length) calls (.error fault)) :
    ∃ cause, fault = faultAt address cause := by
  obtain ⟨answer, rest, hrest, rfl⟩ := path_ask_iff.mp h
  rcases answer with cause | frame
  · obtain ⟨_, hfault⟩ := path_done_iff.mp hrest
    exact ⟨cause, Except.error.inj hfault⟩
  · obtain ⟨_, _, hdone, _⟩ := path_ask_iff.mp hrest
    obtain ⟨_, hframe⟩ := path_done_iff.mp hdone
    cases hframe

end Payment

open Payment

/-- A frame that could not be read fails with a fault of the bus. -/
theorem fault_of_payment {address : UInt8} {length : Nat} {fault : BusFault} {memory final : Unit}
    {above : List (Call TagStation)} {below : List (Call PaymentStation)}
    (h : onStation.Carries memory above below final)
    (hcall : TagStation.payment ⟨.read address length, .error fault⟩ ∈ above) :
    ∃ cause, fault = faultAt address cause := by
  obtain ⟨_, own, _, hpath⟩ := h.exists_path hcall
  obtain ⟨hread, _⟩ := path_lift_stateless_iff.mp hpath
  obtain ⟨_, hasked, _⟩ := Path.of_lift hread
  exact fault_of_read hasked

/-- A run for payment frames fails with a frame that could not be read. -/
theorem Polling.payment_mem {settings : PaymentSettings} {before after : Standing}
    {calls : List (Call TagStation)} {result : Except Failure (Option ReadOutcome)}
    {failure : Failure} (h : Polling (FrameRound settings) before calls result after)
    (hfailure : result = .error failure) :
    ∃ fault, failure = .bus fault ∧
      TagStation.payment ⟨.read settings.address settings.frameLength.toNat, .error fault⟩ ∈
        calls := by
  induction h with
  | unfinished => cases hfailure
  | stopped => cases hfailure
  | failed round =>
    obtain rfl := Except.error.inj hfailure
    cases round with
    | failed fault => exact ⟨fault, rfl, by simp⟩
  | read => cases hfailure
  | again _ _ ih =>
    obtain ⟨fault, hbus, hmem⟩ := ih hfailure
    exact ⟨fault, hbus, List.mem_append_right _ hmem⟩

/-- With a frame length that can be read, a run for a payment frame fails with a fault of the bus
only. -/
theorem failure_of_readPayment {settings : Settings} {fuel : Nat} {before after : Standing}
    {memory final : Unit} {above : List (Call TagStation)} {below : List (Call PaymentStation)}
    {failure : Failure} (hlength : settings.refusal? .payment = none)
    (h : (ReadProcedure.read settings .payment fuel).Path before above (.error failure) after)
    (hcarries : onStation.Carries memory above below final) :
    ∃ cause, failure = .bus (faultAt settings.payment.address cause) := by
  rcases ReadProcedure.read_path h with ⟨fault, hrefused, _⟩ | ⟨_, rest, rfl, hpolling⟩
  · cases hlength.symm.trans hrefused
  · obtain ⟨fault, rfl, hmem⟩ := hpolling.payment_mem rfl
    obtain ⟨cause, rfl⟩ := fault_of_payment hcarries (List.mem_append_right _ hmem)
    exact ⟨cause, rfl⟩

end DrinkMixer
