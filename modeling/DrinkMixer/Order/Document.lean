import DrinkMixer.Json.Record
import DrinkMixer.Order.Basic

/-!
# Order documents

The form in which the front end sends orders. A document that is no order is refused with the
reason and the place.
-/

namespace DrinkMixer.Order

open Json

/-- The field with the amount of one pour servo. -/
def amountField (name : String) (channel : PourChannel) : RecordField Order :=
  .of name (·.amount channel) (·.setAmount channel)

/-- The form of an order. -/
def schema : Schema Order where
  expected := "struct PourOrder"
  default := {}
  fields :=
    List.zipWith amountField
      ["pourAmt0", "pourAmt1", "pourAmt2", "pourAmt3", "pourAmt4", "pourAmt5"] PourChannel.all ++
    [.of "mix" Order.mix fun order mix => { order with mix := mix }]

/-- The order that a text holds. -/
def ofText (text : String) : Except Failure Order :=
  match schema.ofText text with
  | .ok order => .ok order
  | .error fault => .error (.invalidOrder (fault.message (bytes text)))

/-- The text that holds an order. -/
def toText (order : Order) : String :=
  schema.toText order

end DrinkMixer.Order
