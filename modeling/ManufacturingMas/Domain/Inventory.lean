import ManufacturingMas.Py.Number

namespace ManufacturingMas.Inventory
open Py

structure ShipmentRecord where
  cycle : Int
  customer : String
  requested : Int
  shipped : Int
  shortfall : Int
deriving DecidableEq, Repr

/-- The finished-goods warehouse. The demand statistics of the safety-stock
formula are not kept: only `recalculate_safety_stock` reads them. -/
structure FinishedGoodsWarehouse where
  stock : Int
  safetyStock : Int
  stockHistory : List Int
  ssHistory : List Int
  serviceLevelHistory : List ℚ
  shipments : List ShipmentRecord
  totalRequested : Int
  totalShipped : Int
deriving DecidableEq, Repr

namespace FinishedGoodsWarehouse

def new (stock safetyStock : Int) : FinishedGoodsWarehouse :=
  { stock := stock, safetyStock := safetyStock, stockHistory := [], ssHistory := [],
    serviceLevelHistory := [], shipments := [], totalRequested := 0, totalShipped := 0 }

def receive (wh : FinishedGoodsWarehouse) (qty : Int) : FinishedGoodsWarehouse :=
  { wh with stock := wh.stock + qty }

/-- The quantity actually shipped, and the warehouse after it left. -/
def ship (wh : FinishedGoodsWarehouse) (customer : String) (qty cycle : Int) :
    Int × FinishedGoodsWarehouse :=
  let actual := min qty wh.stock
  let shortfall := qty - actual
  (actual, { wh with
    stock := wh.stock - actual
    totalRequested := wh.totalRequested + qty
    totalShipped := wh.totalShipped + actual
    shipments := wh.shipments ++ [⟨cycle, customer, qty, actual, shortfall⟩] })

def serviceLevel (wh : FinishedGoodsWarehouse) : ℚ :=
  if wh.totalRequested = 0 then 1 else roundTo 4 (wh.totalShipped / wh.totalRequested)

def ssBreach (wh : FinishedGoodsWarehouse) : Bool := wh.stock < wh.safetyStock

def recordSnapshot (wh : FinishedGoodsWarehouse) : FinishedGoodsWarehouse :=
  { wh with
    stockHistory := wh.stockHistory ++ [wh.stock]
    ssHistory := wh.ssHistory ++ [wh.safetyStock]
    serviceLevelHistory := wh.serviceLevelHistory ++ [wh.serviceLevel] }

@[simp] theorem receive_stock (wh : FinishedGoodsWarehouse) (qty : Int) :
    (wh.receive qty).stock = wh.stock + qty := rfl
@[simp] theorem receive_totalShipped (wh : FinishedGoodsWarehouse) (qty : Int) :
    (wh.receive qty).totalShipped = wh.totalShipped := rfl
@[simp] theorem ship_actual (wh : FinishedGoodsWarehouse) (customer : String) (qty cycle : Int) :
    (wh.ship customer qty cycle).1 = min qty wh.stock := rfl
@[simp] theorem ship_stock (wh : FinishedGoodsWarehouse) (customer : String) (qty cycle : Int) :
    (wh.ship customer qty cycle).2.stock = wh.stock - min qty wh.stock := rfl
@[simp] theorem ship_totalShipped (wh : FinishedGoodsWarehouse) (customer : String)
    (qty cycle : Int) :
    (wh.ship customer qty cycle).2.totalShipped = wh.totalShipped + min qty wh.stock := rfl
@[simp] theorem recordSnapshot_stock (wh : FinishedGoodsWarehouse) :
    wh.recordSnapshot.stock = wh.stock := rfl
@[simp] theorem recordSnapshot_totalShipped (wh : FinishedGoodsWarehouse) :
    wh.recordSnapshot.totalShipped = wh.totalShipped := rfl

end FinishedGoodsWarehouse
end ManufacturingMas.Inventory
