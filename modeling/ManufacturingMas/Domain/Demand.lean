import Mathlib.Algebra.BigOperators.Group.List.Basic
import Mathlib.Algebra.Order.Ring.Int

namespace ManufacturingMas.Demand

inductive OrderPriority where
  | normal | urgent
deriving DecidableEq, Repr

inductive OrderStatus where
  | «open» | partly | fulfilled | late
deriving DecidableEq, Repr

structure CustomerOrder where
  orderId : String
  customer : String
  quantity : Int
  dueDate : String
  priority : OrderPriority
  fulfilled : Int
  status : OrderStatus
deriving DecidableEq, Repr

namespace CustomerOrder

/-- The constructor with the dataclass defaults: nothing shipped, status OPEN. -/
def new (orderId customer : String) (quantity : Int) (dueDate : String)
    (priority : OrderPriority) : CustomerOrder :=
  { orderId := orderId, customer := customer, quantity := quantity, dueDate := dueDate,
    priority := priority, fulfilled := 0, status := .open }

def remaining (o : CustomerOrder) : Int := max 0 (o.quantity - o.fulfilled)

/-- The quantity credited, and the order after crediting it. -/
def ship (o : CustomerOrder) (qty : Int) : Int × CustomerOrder :=
  let actual := min qty o.remaining
  let fulfilled := o.fulfilled + actual
  (actual, { o with
    fulfilled := fulfilled
    status := if o.quantity ≤ fulfilled then .fulfilled
      else if 0 < fulfilled then .partly else o.status })

def isOpen (o : CustomerOrder) : Bool := o.status = .open || o.status = .partly

@[simp] theorem ship_fulfilled (o : CustomerOrder) (qty : Int) :
    (o.ship qty).2.fulfilled = o.fulfilled + min qty o.remaining := rfl

end CustomerOrder

/-- The order book. Forecast histories play no part in shipping. -/
structure DemandModel where
  orders : List CustomerOrder
deriving DecidableEq, Repr

namespace DemandModel

def totalRemaining (d : DemandModel) : Int := (d.orders.map (·.remaining)).sum

def addOrder (d : DemandModel) (o : CustomerOrder) : DemandModel :=
  { d with orders := d.orders ++ [o] }

end DemandModel
end ManufacturingMas.Demand
