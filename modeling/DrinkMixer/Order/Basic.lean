import DrinkMixer.Actuator

/-!
# Pour orders

An order says how often each of the six pour servos is to move, and whether the mixer is to run
afterwards.
-/

namespace DrinkMixer

/-- A drink to be made. -/
structure Order where
  amounts : Vector UInt32 6 := Vector.replicate 6 0
  mix : Bool := false
  deriving DecidableEq, Repr

namespace Order

/-- How often a pour servo moves. -/
def amount (order : Order) (channel : PourChannel) : UInt32 :=
  order.amounts[channel]

/-- The order with another amount for one pour servo. -/
def setAmount (order : Order) (channel : PourChannel) (amount : UInt32) : Order :=
  { order with amounts := order.amounts.set channel amount }

/-- The pour servos that move, in ascending order. -/
def channels (order : Order) : List PourChannel :=
  PourChannel.all.filter fun channel => order.amount channel != 0

/-- Nothing would move. -/
def isEmpty (order : Order) : Bool :=
  !order.mix && order.channels.isEmpty

end Order

end DrinkMixer
