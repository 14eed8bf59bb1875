import ManufacturingMas.Py.Number

namespace ManufacturingMas.BusinessEvents

inductive BusinessEventType where
  | factoryTick | workStarted | workComplete | inspectionVerdict | qualityEscalation
  | stationStateChange | materialEvent
deriving DecidableEq, Repr

/-- The payload dicts the factory emits, one shape for each emitting site. -/
inductive Payload where
  | tick (cycle : Int)
  | started (serial lot : Nat)
  | verdict (serial : Nat) (station : String) (pass : Bool)
  | escalation (serial : Nat) (status : String) (defectCodes : List String)
  | complete (serial lot : Nat) (status : String)
deriving DecidableEq, Repr

structure BusinessEvent where
  eventType : BusinessEventType
  logicalCycle : Int
  simTimeSec : ℚ
  payload : Payload
  stationId : Option String
  lotId : Option Nat
deriving DecidableEq, Repr

/-- A ring buffer: past `maxlen` entries an append drops the oldest. -/
structure BusinessEventStore where
  maxlen : Nat
  q : List BusinessEvent
deriving DecidableEq, Repr

namespace BusinessEventStore

def new (maxlen : Nat := 2500) : BusinessEventStore := { maxlen := maxlen, q := [] }

def emit (store : BusinessEventStore) (ev : BusinessEvent) : BusinessEventStore :=
  let q := store.q ++ [ev]
  { store with q := q.drop (q.length - store.maxlen) }

/-- `items[-n:]`; for `n = 0` Python's slice is the whole list. -/
def tail (store : BusinessEventStore) (n : Nat) : List BusinessEvent :=
  if n = 0 then store.q else store.q.drop (store.q.length - n)

end BusinessEventStore
end ManufacturingMas.BusinessEvents
