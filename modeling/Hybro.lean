import Hybro.RunStore.Store
import Hybro.RunStore.LeaseLog
import Hybro.RunStore.RecoveryRules
import Hybro.RunStore.Recovery
import Hybro.RunStore.OutboxLog
import Hybro.RunStore.Outbox
import Hybro.Library.Sending
import Hybro.RunStore.SoundRuns
import Hybro.RunStore.ScheduledClaims
import Hybro.Library.TextPattern
import Hybro.Orchestrator.PublicText
import Hybro.Orchestrator.PublicTextCoalescer
import Hybro.Orchestrator.Streaming
import Hybro.Orchestrator.ModelTurn
import Hybro.Kernel.Runtime
import Hybro.Orchestrator.BudgetLedger
import Hybro.Kernel.Checkpoints
import Hybro.Kernel.BudgetRecords
import Hybro.Kernel.Interactions
import Hybro.Kernel.Alone
import Hybro.Kernel.DeclarationSteps
import Hybro.A2ARuntime.Models
import Hybro.A2ARuntime.Ledger
import Hybro.A2ARuntime.LedgerRules
import Hybro.A2ARuntime.Lineage
import Hybro.A2ARuntime.LineageRules
import Hybro.A2ARuntime.ProcessedIds
import Hybro.A2ARuntime.CallStore
import Hybro.A2ARuntime.Cancellation
import Hybro.Kernel.Observation
import Hybro.Kernel.ObservationRules
import Hybro.Kernel.RepeatedObservations
import Hybro.A2ARuntime.Ingress
import Hybro.A2ARuntime.IngressRules
import Hybro.A2ARuntime.Agreement
import Hybro.Delivery.SnapshotService
import Hybro.Delivery.SnapshotRules
import Hybro.Delivery.Snapshots
import Hybro.RoomSync.Reducer
import Hybro.RoomSync.ReducerRules
import Hybro.RoomSync.HandlerRules
import Hybro.RoomSync.Ordering
import Hybro.Library.OrderedMap
import Hybro.MessageStore.Upsert
import Hybro.MessageStore.Conflicts
import Hybro.TurnLifecycle.Fold
import Hybro.TurnLifecycle.Inventory
import Hybro.TurnLifecycle.Closure
import Hybro.TurnLifecycle.Absorption
import Hybro.TurnLifecycle.Dto
import Hybro.TurnSnapshot.Record
import Hybro.TurnSnapshot.Fold
import Hybro.TurnSnapshot.Alike
import Hybro.TurnSnapshot.AlikeEvents
import Hybro.TurnSnapshot.AlikeQuestions
import Hybro.TurnSnapshot.ProperEvents
import Hybro.TurnSnapshot.LiveStream
import Hybro.Delivery.RoomEvents
import Hybro.Delivery.GapFree
import Hybro.Delivery.Deduplication
import Hybro.Delivery.DeduplicationRules
import Hybro.Delivery.TerminalDedup
import Hybro.Library.Raising
import Hybro.Library.RunRecord
import Hybro.A2ARuntime.Contacts
import Hybro.A2ARuntime.Execution
import Hybro.A2ARuntime.CallRecovery
import Hybro.A2ARuntime.LeaseRules
import Hybro.A2ARuntime.Dispatching
import Hybro.A2ARuntime.DispatchRules
import Hybro.A2ARuntime.DispatchThreads
import Hybro.A2ARuntime.ExecutionRules
import Hybro.A2ARuntime.OneDispatch
import Hybro.A2ARuntime.AtMostOnce
import Hybro.Delivery.EventBus
import Hybro.Library.FairLock
import Hybro.Delivery.SSEManager
import Hybro.Delivery.SSEConnection
import Hybro.Delivery.StreamRules
import Hybro.Delivery.AdmissionLocks
import Hybro.Delivery.EventBusRules
import Hybro.Delivery.SSERules
import Hybro.Delivery.Admissions
import Hybro.Orchestrator.ModelRuntime
import Hybro.Orchestrator.ModelRuntimeRules
import Hybro.Orchestrator.ModelRuntimeStream
import Hybro.Orchestrator.AttemptTimeout
import Hybro.Orchestrator.Transcript
import Hybro.Orchestrator.TranscriptFolding
import Hybro.Orchestrator.TranscriptPairing
import Hybro.Library.JsonText
import Hybro.Orchestrator.ContextGroups
import Hybro.Orchestrator.ContextSelection
import Hybro.A2ARuntime.ModelReply
import Hybro.A2ARuntime.Outcomes
import Hybro.A2ARuntime.OutcomeRules
import Hybro.A2ARuntime.ReplyRules
import Hybro.A2ARuntime.ReportedOutcomes
import Hybro.Sessions.DriverRules
import Hybro.Sessions.StoreCalls
import Hybro.Sessions.ClaimRules
import Hybro.Sessions.CallRules
import Hybro.Sessions.ExecutionLease
import Hybro.Library.JsText
import Hybro.StreamingStore.MergeStreamArtifacts
import Hybro.StreamingStore.RedeliveredSnapshots
import Hybro.RoomFiles.ContentStore
import Hybro.RoomFiles.ContentStoreRules
import Hybro.MessageStore.SortedIds
import Hybro.MessageStore.SortedOrder
import Hybro.MessageStore.Questions
import Hybro.TurnLifecycle.Growth
import Hybro.TurnLifecycle.Redelivery
import Hybro.RoomEpochs.Generations
import Hybro.Library.PythonValue
import Hybro.Conversation.CandidateScope
import Hybro.Conversation.CandidateScopeRules
import Hybro.Conversation.StoredScopes
import Hybro.Library.BsonDocument
import Hybro.RecordStores.Stores
import Hybro.RecordStores.LostAcknowledgements
import Hybro.RoomEpochs.Store
import Hybro.Gateway.Assembly
import Hybro.Gateway.CodexInvariant
import Hybro.Gateway.CodexOutcome
import Hybro.Gateway.CodexRules
import Hybro.Gateway.CodexStream
import Hybro.Library.JsonReader
import Hybro.Library.Base64Url
import Hybro.Library.KeysetPages
import Hybro.Conversation.Timeline
import Hybro.Conversation.TimelineCursor
import Hybro.Conversation.TimelineWalk
import Hybro.Library.FailingSteps
import Hybro.Library.JsonDocument
import Hybro.RuntimeFiles.Credentials
import Hybro.RuntimeFiles.CredentialRules
import Hybro.RuntimeFiles.Configuration
import Hybro.RuntimeFiles.Store
import Hybro.RuntimeFiles.StoreRules
import Hybro.RuntimeFiles.CallRules
import Hybro.RuntimeFiles.DocumentRules
import Hybro.RuntimeFiles.Frames
import Hybro.RuntimeFiles.TextFormat
import Hybro.Delivery.Wire
import Hybro.Delivery.WireRules
import Hybro.Gateway.MessageStream
import Hybro.Gateway.MessageRules
import Hybro.Gateway.MessageTurn
import Hybro.Gateway.SseLines
import Hybro.Gateway.SseEvents
import Hybro.Library.Machine
import Hybro.Kernel.DeclarationPass
import Hybro.Eventing.Bus
import Hybro.Eventing.BusRules
