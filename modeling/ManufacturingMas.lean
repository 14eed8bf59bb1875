import ManufacturingMas.Lib.Runs
import ManufacturingMas.Lib.Shares
import ManufacturingMas.Lib.Traverse
import ManufacturingMas.Domain.Inventory
import ManufacturingMas.Domain.Demand
import ManufacturingMas.Domain.Machines
import ManufacturingMas.Domain.BusinessEvents
import ManufacturingMas.Domain.Environment
import ManufacturingMas.Proofs.ShipmentLedger
import ManufacturingMas.Runtime.ScenarioEvents
import ManufacturingMas.Runtime.ScenarioRuntime
import ManufacturingMas.Proofs.UnitBalance
import ManufacturingMas.Messaging.Broker
import ManufacturingMas.Proofs.Routing
import ManufacturingMas.Py.Value
import ManufacturingMas.Proofs.GraphCache
import ManufacturingMas.Proofs.Fallback
import ManufacturingMas.Protocol.CnpSession
import ManufacturingMas.Intelligence.OptimizationEngine
import ManufacturingMas.Agents.PlanningAgent
import ManufacturingMas.Agents.PlanningCycle
import ManufacturingMas.Runtime.PlanningLoop
import ManufacturingMas.Proofs.RationaleIndependence
import ManufacturingMas.Proofs.StrategyAgreement
import ManufacturingMas.Proofs.FactoryCycle
import ManufacturingMas.Proofs.FactoryLedger
import ManufacturingMas.Proofs.FailedRounds
import ManufacturingMas.Proofs.MaterialBalance
import ManufacturingMas.Proofs.LineVisits
import ManufacturingMas.Proofs.EventStream
import ManufacturingMas.Proofs.SensorSides
import ManufacturingMas.Proofs.OeeFactors
import ManufacturingMas.Proofs.PlanningHistory
import ManufacturingMas.Proofs.RoundSpacing
import ManufacturingMas.Proofs.AlertsKept
import ManufacturingMas.Proofs.RoundOrder
import ManufacturingMas.Proofs.RoundExecution
import ManufacturingMas.Intelligence.DecisionRouter
import ManufacturingMas.Proofs.RouterPolicy
import ManufacturingMas.Proofs.MetricNumbers
import ManufacturingMas.Proofs.Rescoring
import ManufacturingMas.Proofs.SpeedReaders
import ManufacturingMas.Proofs.StrategyClamp
import ManufacturingMas.Proofs.ScoreOrder
import ManufacturingMas.Proofs.ScoreParts
import ManufacturingMas.Runtime.LineSpeed
import ManufacturingMas.Proofs.SpeedSafety
import ManufacturingMas.Lib.Logs
import ManufacturingMas.Domain.FactorySnapshot
import ManufacturingMas.Agents.EquipmentAgent
import ManufacturingMas.Agents.QualityAgent
import ManufacturingMas.Agents.SupplyAgent
import ManufacturingMas.Agents.DemandAgent
import ManufacturingMas.Agents.InventoryAgent
import ManufacturingMas.Proofs.AgentMemory
import ManufacturingMas.Proofs.AlertGate
import ManufacturingMas.Proofs.PriorityCover
import ManufacturingMas.Proofs.EquipmentDuties
import ManufacturingMas.Proofs.MaintenanceQueue
import ManufacturingMas.Proofs.InventoryPriority
import ManufacturingMas.Proofs.OrderBooks
import ManufacturingMas.Proofs.QualityWatch
import ManufacturingMas.Proofs.ControlChart
import ManufacturingMas.Proofs.TrackedChannels
import ManufacturingMas.Proofs.InspectionLevel
import ManufacturingMas.Proofs.DeadLetters
import ManufacturingMas.Proofs.Acknowledgement
import ManufacturingMas.Proofs.FirstPassYield
import ManufacturingMas.Proofs.ShiftClock
import ManufacturingMas.Proofs.RemainingLife
import ManufacturingMas.Proofs.SupplyBuffer
import ManufacturingMas.Proofs.SupplySurvival
import ManufacturingMas.Proofs.AlertFigures
import ManufacturingMas.Proofs.ScenarioSettings
import ManufacturingMas.Proofs.ContextContract
import ManufacturingMas.Proofs.SensorDrift
import ManufacturingMas.Proofs.EnvelopeLog
import ManufacturingMas.Messaging.MqttBridge
import ManufacturingMas.Proofs.TopicFilter
import ManufacturingMas.Proofs.LocalDelivery
import ManufacturingMas.Proofs.SensorTopic
import ManufacturingMas.Proofs.LlmBooks
import ManufacturingMas.Proofs.EdgeCounts
import ManufacturingMas.Lib.Bounded
import ManufacturingMas.Lib.Pointwise
import ManufacturingMas.Proofs.Bids
import ManufacturingMas.Runtime.CrewLoops
import ManufacturingMas.Proofs.CrewOffers
import ManufacturingMas.Proofs.CrewRounds
import ManufacturingMas.Proofs.CrewLead
import ManufacturingMas.Proofs.Mailboxes
import ManufacturingMas.Api.Server
import ManufacturingMas.Proofs.StreamFanout
import ManufacturingMas.Runtime.FactoryLoop
import ManufacturingMas.Proofs.StationLife
import ManufacturingMas.Proofs.StationFigures
import ManufacturingMas.Proofs.LineFlow
import ManufacturingMas.Proofs.OrderNumbers
import ManufacturingMas.Proofs.ScenarioReport
import ManufacturingMas.Py.Lines
import ManufacturingMas.Core.Config
import ManufacturingMas.Proofs.EnvironmentFile
import ManufacturingMas.Proofs.ProcessSettings
import ManufacturingMas.Proofs.RouterBooks
import ManufacturingMas.Lib.Simulation
import ManufacturingMas.Proofs.LoopRefinement
import ManufacturingMas.Proofs.KpiSummary
import ManufacturingMas.Proofs.HourlyRecords
import ManufacturingMas.Messaging.MqttSession
import ManufacturingMas.Proofs.SessionFilters
import ManufacturingMas.Proofs.RuntimesAgree
import ManufacturingMas.Proofs.Traceability
