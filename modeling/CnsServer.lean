import CnsServer.Library.Calendar
import CnsServer.Library.FiniteMap
import CnsServer.Library.Index
import CnsServer.Library.Machine
import CnsServer.Library.Schema
import CnsServer.Protocol.Json
import CnsServer.Protocol.TimeFormat
import CnsServer.Command.Types
import CnsServer.Command.CommandState
import CnsServer.Device.Registry
import CnsServer.Device.Mutations
import CnsServer.Device.Messages
import CnsServer.Device.Directory
import CnsServer.Device.StateEvents
import CnsServer.Persistence.DirtyState
import CnsServer.Command.Router
import CnsServer.Command.SourceRequest
import CnsServer.Command.DevicePolicy
import CnsServer.Command.ReportedErrors
import CnsServer.Store.CommandTable
import CnsServer.Store.PostgresStore
import CnsServer.Runtime.PostgresWorker
import CnsServer.Runtime.WorkerLoop
import CnsServer.Runtime.DeviceSide
import CnsServer.Runtime.DeviceService
import CnsServer.Runtime.DeviceEffects
import CnsServer.Runtime.DeviceWork
import CnsServer.Runtime.DeviceRuntime
import CnsServer.Runtime.DeviceScenario
import CnsServer.Runtime.RuntimeScenario
import CnsServer.Runtime.PostgresBridge
import CnsServer.Runtime.CommandService
import CnsServer.Runtime.ServiceEnvironment
import CnsServer.Runtime.Effects
import CnsServer.Runtime.Ticks
import CnsServer.Invariants.Wellformed
import CnsServer.Invariants.Ledger
import CnsServer.Invariants.Lifecycle
import CnsServer.Invariants.AckOrigins
import CnsServer.Invariants.Publications
import CnsServer.Invariants.EarlyAcks
import CnsServer.Invariants.UnderWay
import CnsServer.Invariants.Provenance
import CnsServer.Invariants.PendingMemory
import CnsServer.Invariants.Messages
import CnsServer.Invariants.ReportedRows
import CnsServer.Runtime.Scenario
import CnsServer.Properties.Acknowledgements
import CnsServer.Properties.Timeouts
import CnsServer.Properties.AckIsolation
import CnsServer.Properties.Capacity
import CnsServer.Properties.AckTopics
import CnsServer.Properties.WorkerResults
import CnsServer.Properties.FailureKinds
import CnsServer.Properties.Accounting
import CnsServer.Properties.Republications
import CnsServer.Properties.EarlyReplays
import CnsServer.Properties.RedundantFailures
import CnsServer.Properties.KeptOutcomes
import CnsServer.Properties.RequestAccounting
import CnsServer.Properties.RequestKeys
import CnsServer.Properties.RequestContract
import CnsServer.Properties.BusinessStatus
import CnsServer.Properties.DispatchTime
import CnsServer.Properties.ControlDelivery
import CnsServer.Properties.Progress
import CnsServer.Properties.RoleIndexes
import CnsServer.Invariants.DeviceKeys
import CnsServer.Properties.Availability
import CnsServer.Properties.DirectorySync
import CnsServer.Properties.DirtyCoverage
import CnsServer.Properties.WriteMerging
import CnsServer.Properties.SubmittedWrites
import CnsServer.Properties.OutstandingWork
import CnsServer.Properties.PendingProvisions
import CnsServer.Store.DeviceTables
import CnsServer.Store.DeviceRows
import CnsServer.Store.DeviceColumns
import CnsServer.Properties.StoredRoles
import CnsServer.Properties.RoutingIsolation
import CnsServer.Store.CommandSources
import CnsServer.Properties.TopicGrammar
import CnsServer.Mqtt.MqttClient
import CnsServer.Properties.PublishTracking
import CnsServer.Properties.SubscriptionGeneration
import CnsServer.Backend.Commands
import CnsServer.Backend.Documents
import CnsServer.Backend.RouteProtocol
import CnsServer.Backend.RealtimeTopicSubscriptions
import CnsServer.Properties.RealtimeReconciliation
import CnsServer.Invariants.RecoveryMarks
import CnsServer.Invariants.RegistryChanges
import CnsServer.Invariants.CurrentRecords
import CnsServer.Runtime.DeviceSystem
import CnsServer.Invariants.DeviceQueues
import CnsServer.Invariants.StoredDevices
import CnsServer.Invariants.TrailingWrites
import CnsServer.Invariants.AwaitedFields
import CnsServer.Invariants.FollowedRecords
import CnsServer.Invariants.PresentableDevices
import CnsServer.Properties.ShutdownDrain
import CnsServer.Runtime.SourceSystem
import CnsServer.Properties.ProvisionedSources
import CnsServer.Properties.EventContract
import CnsServer.Properties.MigrationPlans
import CnsServer.Backend.TelemetryInterestRegistry
import CnsServer.Properties.InterestCounts
import CnsServer.Backend.CommandTracker
import CnsServer.Properties.CommandTracking
import CnsServer.Properties.FixedSources
import CnsServer.Properties.ControlAcks
import CnsServer.Properties.TelemetryBatches
import CnsServer.Properties.RegistryFrames
import CnsServer.Backend.RealtimeSession
import CnsServer.Properties.LateOperations
import CnsServer.Invariants.WriteBook
import CnsServer.Properties.StatusWrites
import CnsServer.Invariants.WritesInFlight
import CnsServer.Properties.SettledWrites
import CnsServer.Properties.IntegerFields
import CnsServer.Properties.CommandIds
import CnsServer.Properties.StoredCommands
import CnsServer.Properties.StoredTimes
import CnsServer.Properties.InstantTexts
import CnsServer.Library.ConnInfo
import CnsServer.Store.ConnectionString
import CnsServer.Properties.ConnectionQuoting
import CnsServer.Properties.DirectoryRevisions
import CnsServer.Library.StampedRegister
import CnsServer.Frontend.Realtime
import CnsServer.Properties.LastEvents
import CnsServer.Library.Like
import CnsServer.Backend.DeviceStore
import CnsServer.Properties.DeviceLists
import CnsServer.Properties.RestartLoads
import CnsServer.Properties.RowConvergence
import CnsServer.Backend.CoordinateTransform
import CnsServer.Backend.RouteGateway
import CnsServer.Invariants.AnnouncedRecords
import CnsServer.Properties.RouteMessages
import CnsServer.Backend.WebSocketHub
import CnsServer.Properties.SocketFrames
import CnsServer.Runtime.ServiceRunner
import CnsServer.Library.Interruptible
import CnsServer.Invariants.ServiceLifecycle
import CnsServer.Properties.RuntimeLifecycle
import CnsServer.Properties.ProcessLifecycle
import CnsServer.Mqtt.ClientLifecycle
import CnsServer.Library.Fairness
import CnsServer.Invariants.ClientThreads
import CnsServer.Properties.ClientLifecycles
import CnsServer.Store.MigrationFiles
import CnsServer.Properties.MigrationFiles
import CnsServer.Config.Logger
import CnsServer.Config.AppConfig
import CnsServer.Properties.AppConfigs
import CnsServer.Config.CommandLine
import CnsServer.Properties.CommandLines
import CnsServer.Runtime.BoundedQueue
import CnsServer.Properties.QueueDelivery
import CnsServer.Runtime.Ingress
import CnsServer.Properties.RefusedMessages
import CnsServer.Properties.LogLines
