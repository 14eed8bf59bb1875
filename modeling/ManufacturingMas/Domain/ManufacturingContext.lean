import ManufacturingMas.Py.Repr

/-! The manufacturing context, a contract of its own beside the raw snapshot: the adapter
that makes it from a snapshot, and the check of a context that comes as a dict. -/

namespace ManufacturingMas.Contract
open Py

def plantSchemaVersion := "2.0"
def defaultSiteId := "SITE-KR-01"
def defaultPlantId := "PLANT-BRAKE-MAIN"
def defaultLineId := "LINE-BRAKE-01"
def defaultCellId := "CELL-LINE-01"

def contextContractVersion := "2.0"

def contextRequiredSections : List String :=
  ["contract_version", "identifiers", "temporal", "kpi_slices", "plant", "summary"]

structure IdentifierContract where
  siteId : String
  plantId : String
  lineId : String
  cellId : String
  stationIds : List String
  equipmentIds : List String
  materialSkus : List String
  lotIds : List String
  orderIds : List String
  shiftCode : String

structure TemporalAxes where
  logicalClockCycle : ℤ
  simTimeSec : Option PyFloat
  eventTimeUtcIso : Option String
  ingestTimeUtcIso : Option String
  displayClock : Option String

structure KpiSliceBundle where
  line : Dict
  byStation : List (String × Dict)
  byShift : Dict
  bySku : List (String × Dict)

structure PlantRef where
  schemaVersion : String
  siteId : String
  plantId : String
  lineId : String
  cellId : String
  snapshotKind : String

structure FactorySummary where
  avgOee : Option PyFloat
  fgStock : ℤ
  totalProduced : ℤ
  scrapCount : ℤ
  reworkCount : ℤ
  shift : String

structure ManufacturingContext where
  contractVersion : String
  identifiers : IdentifierContract
  temporal : TemporalAxes
  kpiSlices : KpiSliceBundle
  plant : PlantRef
  summary : FactorySummary
  metadata : Dict

/-! ### Serialization -/

def optFloat (x : Option PyFloat) : Val := (x.map .float).getD .none

def optStr (s : Option String) : Val := (s.map .str).getD .none

def strings (xs : List String) : Val := .list (xs.map .str)

def rows (d : List (String × Dict)) : Val := .dict (d.map fun p => (p.1, .dict p.2))

def IdentifierContract.toDict (id : IdentifierContract) : Dict :=
  [("site_id", .str id.siteId), ("plant_id", .str id.plantId), ("line_id", .str id.lineId),
    ("cell_id", .str id.cellId), ("station_ids", strings id.stationIds),
    ("equipment_ids", strings id.equipmentIds), ("material_skus", strings id.materialSkus),
    ("lot_ids", strings id.lotIds), ("order_ids", strings id.orderIds),
    ("shift_code", .str id.shiftCode)]

def TemporalAxes.toDict (t : TemporalAxes) : Dict :=
  [("logical_clock_cycle", .int t.logicalClockCycle), ("sim_time_sec", optFloat t.simTimeSec),
    ("event_time_utc_iso", optStr t.eventTimeUtcIso),
    ("ingest_time_utc_iso", optStr t.ingestTimeUtcIso), ("display_clock", optStr t.displayClock)]

def KpiSliceBundle.toDict (k : KpiSliceBundle) : Dict :=
  [("line", .dict k.line), ("by_station", rows k.byStation), ("by_shift", .dict k.byShift),
    ("by_sku", rows k.bySku)]

def PlantRef.toDict (p : PlantRef) : Dict :=
  [("schema_version", .str p.schemaVersion), ("site_id", .str p.siteId),
    ("plant_id", .str p.plantId), ("line_id", .str p.lineId), ("cell_id", .str p.cellId),
    ("snapshot_kind", .str p.snapshotKind)]

def FactorySummary.toDict (s : FactorySummary) : Dict :=
  [("avg_oee", optFloat s.avgOee), ("fg_stock", .int s.fgStock),
    ("total_produced", .int s.totalProduced), ("scrap_count", .int s.scrapCount),
    ("rework_count", .int s.reworkCount), ("shift", .str s.shift)]

def ManufacturingContext.toDict (m : ManufacturingContext) : Dict :=
  [("contract_version", .str m.contractVersion), ("identifiers", .dict m.identifiers.toDict),
    ("temporal", .dict m.temporal.toDict), ("kpi_slices", .dict m.kpiSlices.toDict),
    ("plant", .dict m.plant.toDict), ("summary", .dict m.summary.toDict), ("meta", .dict m.metadata)]

/-! ### The adapter -/

/-- `_f(x)`; an overflow of the conversion is not caught. -/
def floatOrNone : Val → Except PyErr (Option PyFloat)
  | .none => .ok none
  | x => orOnBadNumber (x.toFloat.map some) none

/-- `str(x or default)`. -/
def textOr (py : Interpreter) (x : Val) (default : String) : Except PyErr String :=
  strOf py (x.orElse (.str default))

/-- `int(x or 0)`. -/
def countOf (py : Interpreter) (x : Val) : Except PyErr ℤ := intOf py (x.orElse (.int 0))

/-- `sorted(d.keys())`. -/
def sortedKeys (d : Dict) : List String := (d.map Prod.fst).mergeSort fun a b => a ≤ b

/-- `_station_kpi_slice`, which leaves out what the row has not. -/
def stationKpiSlice (row : Dict) : Dict :=
  let oee := getD row "oee" .none
  let out : Dict :=
    [("station_id", getD row "station_id" .none), ("oee", if oee.isDict then oee else .none),
      ("yield", getD row "yield" .none), ("state", getD row "state" .none)]
  out.filter fun p => match p.2 with
    | .none => false
    | _ => true

/-- The row of a station, `{}` where it is no dict. -/
def rowOf (stations : Dict) (sid : String) : Dict := (getD stations sid .none).asDict

def equipmentId (py : Interpreter) (stations : Dict) (sid : String) : Except PyErr String :=
  let rid := getD (rowOf stations sid) "resource_id" .none
  if rid.truthy then strOf py rid else .ok sid

/-- The entry of a material whose row is a dict. -/
def skuSlice : String × Val → Option (String × Dict)
  | (name, .dict row) => some (name,
    [("stock", getD row "stock" .none), ("days_supply", getD row "days_supply" .none),
      ("needs_reorder", getD row "needs_reorder" .none),
      ("sku", (getD row "sku" .none).orElse (.str name))])
  | _ => none

/-- The id of an order that has one. -/
def orderId : Val → Option Val
  | .dict o =>
    match getD o "id" .none with
    | .none => none
    | id => some id
  | _ => none

def listOf : Val → List Val
  | .list xs => xs
  | _ => []

/-- The event time of the plant header or, where that has none, of the snapshot. -/
def eventTime (py : Interpreter) (header snapshot : Val) : Except PyErr (Option String) :=
  let event := match header with
    | .none => snapshot
    | v => v
  if event.truthy then (strOf py event).map some else .ok none

def displayClock : Val → Option String
  | .str s => some s
  | _ => none

def fromFactorySnapshot (py : Interpreter) (snap : Dict) (ingestTimeUtcIso : Option String) :
    Except PyErr ManufacturingContext := do
  let ph := (getD snap "plant" .none).asDict
  let siteId ← textOr py (getD ph "site_id" .none) defaultSiteId
  let plantId ← textOr py (getD ph "plant_id" .none) defaultPlantId
  let lineId ← textOr py (getD ph "line_id" .none) defaultLineId
  let cellId ← textOr py (getD ph "cell_id" .none) defaultCellId
  let schemaVer ← textOr py (getD ph "schema_version" .none) plantSchemaVersion
  let snapshotKind ← textOr py (getD ph "snapshot_kind" .none) "simulation"
  let stations := ((getD snap "stations" .none).orElse (.dict [])).asDict
  let stationIds := sortedKeys stations
  let equipmentIds ← stationIds.mapM (equipmentId py stations)
  let mats := ((getD snap "materials" .none).orElse (.dict [])).asDict
  let orders := listOf (getD snap "orders" .none)
  let orderIds ← (orders.filterMap orderId).mapM (strOf py)
  let rawLots := (getD snap "lot_ids" .none).orElse ((getD ph "lot_ids" .none).orElse (.list []))
  let lotIds ← (listOf rawLots).mapM (strOf py)
  let shiftCode ← textOr py (getD snap "shift" .none) "-"
  let logical ← intOf py ((getD snap "cycle" .none).orElse
    ((getD ph "logical_clock_cycle" .none).orElse (.int 0)))
  let simSec ← floatOrNone (getD ph "sim_time_sec" .none)
  let eventIso ← eventTime py (getD ph "event_time_utc_iso" .none)
    (getD snap "event_time_utc_iso" .none)
  let avgOee ← floatOrNone (getD snap "avg_oee" .none)
  let fgStock ← countOf py (getD snap "fg_stock" .none)
  let totalProduced ← countOf py (getD snap "total_produced" .none)
  let scrapCount ← countOf py (getD snap "scrap_count" .none)
  let reworkCount ← countOf py (getD snap "rework_count" .none)
  let shiftSkill ← floatOrNone (getD snap "shift_skill" .none)
  pure
    { contractVersion := contextContractVersion
      identifiers :=
        { siteId := siteId, plantId := plantId, lineId := lineId, cellId := cellId
          stationIds := stationIds, equipmentIds := equipmentIds, materialSkus := sortedKeys mats
          lotIds := lotIds, orderIds := orderIds, shiftCode := shiftCode }
      temporal :=
        { logicalClockCycle := logical, simTimeSec := simSec, eventTimeUtcIso := eventIso
          ingestTimeUtcIso := ingestTimeUtcIso
          displayClock := displayClock (getD snap "clock" .none) }
      kpiSlices :=
        { line := [("avg_oee", optFloat avgOee), ("fg_stock", .int fgStock),
            ("total_produced", .int totalProduced), ("scrap_count", .int scrapCount),
            ("rework_count", .int reworkCount), ("total_demand", getD snap "total_demand" .none),
            ("total_delivered", getD snap "total_delivered" .none)]
          byStation := stationIds.map fun sid => (sid, stationKpiSlice (rowOf stations sid))
          byShift := [("shift_code", .str shiftCode), ("shift_skill", optFloat shiftSkill)]
          bySku := mats.filterMap skuSlice }
      plant :=
        { schemaVersion := schemaVer, siteId := siteId, plantId := plantId, lineId := lineId
          cellId := cellId, snapshotKind := snapshotKind }
      summary :=
        { avgOee := avgOee, fgStock := fgStock, totalProduced := totalProduced
          scrapCount := scrapCount, reworkCount := reworkCount, shift := shiftCode }
      metadata := [("orders_n", .int orders.length),
        ("wip_buffers_n", .int (listOf (getD snap "wip" .none)).length),
        ("plant_schema_version", .str schemaVer)] }

/-! ### The check -/

def identifierErrors : Val → List String
  | .dict ids =>
    (["site_id", "plant_id", "line_id", "cell_id", "shift_code"].filterMap fun key =>
      if (getD ids key .none).truthy then none else some s!"identifiers.{key} is required") ++
    (["station_ids", "equipment_ids", "material_skus", "lot_ids", "order_ids"].filterMap fun key =>
      match getD ids key .none with
      | .list _ => none
      | _ => some s!"identifiers.{key} must be a list")
  | _ => ["identifiers must be an object"]

def temporalErrors : Val → List String
  | .dict t =>
    if (Assoc.get t "logical_clock_cycle").isSome then []
    else ["temporal.logical_clock_cycle is required"]
  | _ => ["temporal must be an object"]

def kpiErrors : Val → List String
  | .dict k =>
    ["line", "by_station", "by_shift", "by_sku"].filterMap fun key =>
      if (getD k key .none).isDict then none else some s!"kpi_slices.{key} must be an object"
  | _ => ["kpi_slices must be an object"]

/-- The errors are all found; only the text of an unsupported version can raise. -/
def validateContextDict (py : Interpreter) : Val → Except PyErr (List String)
  | .dict payload => do
    let missing := contextRequiredSections.filterMap fun key =>
      if (Assoc.get payload key).isSome then none else some s!"missing section: {key}"
    let version := getD payload "contract_version" .none
    let unsupported ← if version.isStr contextContractVersion then pure [] else do
      let shown ← reprOf py py.depth version
      pure [s!"unsupported contract_version: {shown}"]
    pure (missing ++ unsupported ++ identifierErrors (getD payload "identifiers" .none) ++
      temporalErrors (getD payload "temporal" .none) ++
      kpiErrors (getD payload "kpi_slices" .none))
  | _ => .ok ["context must be a dict"]

end ManufacturingMas.Contract
