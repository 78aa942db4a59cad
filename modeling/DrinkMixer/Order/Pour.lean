import DrinkMixer.Cycle.Run
import DrinkMixer.Order.Basic

/-!
# Pouring an order

An order is poured channel by channel in ascending order, leaving out those with nothing to pour,
and is then mixed if it asks for that. The first failure ends it.
-/

namespace DrinkMixer.Order

open ServoProcedure

/-- Pours some channels of an order, adding the cycles to those made before. -/
def pourChannels (settings : ServoSettings) (order : Order) :
    List PourChannel → UInt32 → ServoProcedure UInt32
  | [], cycles => pure cycles
  | channel :: rest, cycles => do
    let made ← settings.run (.pour channel) (order.amount channel)
    order.pourChannels settings rest (cycles + made)

/-- Pours and mixes an order and returns how many cycles that took. -/
def pour (settings : ServoSettings) (order : Order) : ServoProcedure UInt32 := do
  emit (.pourStarted (UInt64.ofNat order.channels.length) order.mix)
  settings.prepare
  let mut cycles ← order.pourChannels settings order.channels 0
  if order.mix then
    cycles := cycles + (← settings.run .mixer 1)
  note .info s!"pour order finished, {cycles} cycle(s)"
  emit .pourFinished
  pure cycles

end DrinkMixer.Order
