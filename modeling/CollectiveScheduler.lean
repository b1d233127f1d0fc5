import CollectiveScheduler.Foundation.FinMap
import CollectiveScheduler.Foundation.SortUnique
import CollectiveScheduler.Foundation.Runs
import CollectiveScheduler.Foundation.Double
import CollectiveScheduler.Foundation.Codec
import CollectiveScheduler.Foundation.Binary64
import CollectiveScheduler.Foundation.Framing
import CollectiveScheduler.Foundation.Session
import CollectiveScheduler.Foundation.Corruption
import CollectiveScheduler.Foundation.Greedy
import CollectiveScheduler.Foundation.Sorting
import CollectiveScheduler.Foundation.Cursor
import CollectiveScheduler.Foundation.Stream
import CollectiveScheduler.Foundation.Truncation
import CollectiveScheduler.Model.Identity
import CollectiveScheduler.Model.Enums
import CollectiveScheduler.Model.Lifecycle
import CollectiveScheduler.Model.Evidence
import CollectiveScheduler.Model.Policy
import CollectiveScheduler.Model.Request
import CollectiveScheduler.Model.Scheduling
import CollectiveScheduler.Model.Conflict
import CollectiveScheduler.Scheduler.State
import CollectiveScheduler.Scheduler.Readiness
import CollectiveScheduler.Scheduler.Adjudication
import CollectiveScheduler.Scheduler.Ranking
import CollectiveScheduler.Scheduler.Overlap
import CollectiveScheduler.Scheduler.Schedule
import CollectiveScheduler.Scheduler.Operations
import CollectiveScheduler.Scheduler.Rewriting
import CollectiveScheduler.Scheduler.ReadinessPass
import CollectiveScheduler.Scheduler.Round
import CollectiveScheduler.Scheduler.Inversion
import CollectiveScheduler.Scheduler.Fencing
import CollectiveScheduler.Scheduler.RankOrder
import CollectiveScheduler.Scheduler.Renaming
import CollectiveScheduler.Scheduler.RenamedRound
import CollectiveScheduler.Scheduler.Selection
import CollectiveScheduler.Scheduler.Admission
import CollectiveScheduler.Scheduler.Alike
import CollectiveScheduler.Scheduler.Groups
import CollectiveScheduler.Scheduler.Info
import CollectiveScheduler.Persistence.Codec
import CollectiveScheduler.Persistence.Serialize
import CollectiveScheduler.Persistence.Snapshot
import CollectiveScheduler.Persistence.Positional
import CollectiveScheduler.Persistence.Truncation
import CollectiveScheduler.Protocol.Payload
import CollectiveScheduler.Protocol.Frame
import CollectiveScheduler.System.System
import CollectiveScheduler.System.Scenario
import CollectiveScheduler.System.RecordStep
import CollectiveScheduler.System.GrantStep
import CollectiveScheduler.System.Issuance
import CollectiveScheduler.System.GrantTable
import CollectiveScheduler.System.Execution
import CollectiveScheduler.System.World
import CollectiveScheduler.System.Durable
import CollectiveScheduler.System.Barred
import CollectiveScheduler.System.EvidenceStep
import CollectiveScheduler.System.Untouched
import CollectiveScheduler.System.NewGrants
import CollectiveScheduler.System.Saturation
import CollectiveScheduler.System.LastIds
import CollectiveScheduler.System.Provenance
import CollectiveScheduler.System.Race
import CollectiveScheduler.System.Accounts
import CollectiveScheduler.System.Waiting
import CollectiveScheduler.System.FabricStep
import CollectiveScheduler.Coordinator.Coordinator
import CollectiveScheduler.Coordinator.Session
import CollectiveScheduler.Coordinator.Worker
import CollectiveScheduler.Coordinator.Network
import CollectiveScheduler.Coordinator.Served
import CollectiveScheduler.Coordinator.Conversation
import CollectiveScheduler.Coordinator.Steps
import CollectiveScheduler.Coordinator.Site
import CollectiveScheduler.Properties.MutualExclusion
import CollectiveScheduler.Properties.ActiveAccounting
import CollectiveScheduler.Properties.HardEligibility
import CollectiveScheduler.Properties.HandoffInterleaving
import CollectiveScheduler.Properties.TerminalOutcome
import CollectiveScheduler.Properties.CompletionAuthority
import CollectiveScheduler.Properties.InsertionOrder
import CollectiveScheduler.Properties.LifecycleGuard
import CollectiveScheduler.Properties.Recovery
import CollectiveScheduler.Properties.SnapshotRestore
import CollectiveScheduler.Properties.RoundTrip
import CollectiveScheduler.Properties.FencedBoot
import CollectiveScheduler.Properties.Fences
import CollectiveScheduler.Properties.RestoreAtomicity
import CollectiveScheduler.Properties.FenceScope
import CollectiveScheduler.Properties.AuthorityChange
import CollectiveScheduler.Properties.OrphanedExecution
import CollectiveScheduler.Properties.CancelRace
import CollectiveScheduler.Properties.OutstandingGrant
import CollectiveScheduler.Properties.CoordinatorCompletion
import CollectiveScheduler.Properties.Generations
import CollectiveScheduler.Properties.OverlapGroup
import CollectiveScheduler.Properties.ConcurrencyBound
import CollectiveScheduler.Properties.ExclusiveMode
import CollectiveScheduler.Properties.ConflictScan
import CollectiveScheduler.Properties.FrameStream
import CollectiveScheduler.Properties.FrameExact
import CollectiveScheduler.Properties.SessionDelivery
import CollectiveScheduler.Properties.Corruption
import CollectiveScheduler.Properties.CodecRoundTrip
import CollectiveScheduler.Properties.GreedySelection
import CollectiveScheduler.Properties.GroupBandwidth
import CollectiveScheduler.Properties.PriorityMonotonicity
import CollectiveScheduler.Properties.IneligibleRecords
import CollectiveScheduler.Properties.Revalidation
import CollectiveScheduler.Properties.HandoffEffects
import CollectiveScheduler.Properties.FreshGrants
import CollectiveScheduler.Properties.ParticipantIndex
import CollectiveScheduler.Properties.Window
import CollectiveScheduler.Properties.Candidacy
import CollectiveScheduler.Properties.PriorityInversion
import CollectiveScheduler.Properties.EligibilityReport
import CollectiveScheduler.Properties.DeclaredEnums
import CollectiveScheduler.Properties.GenerationReads
import CollectiveScheduler.Properties.BypassGuarantee
import CollectiveScheduler.Properties.ConflictMeaning
import CollectiveScheduler.Properties.ActiveIndex
import CollectiveScheduler.Properties.HostileBytes
import CollectiveScheduler.Properties.FairnessLedger
import CollectiveScheduler.Properties.NoStarvation
import CollectiveScheduler.Properties.IterationOrder
import CollectiveScheduler.Properties.Truncation
import CollectiveScheduler.Properties.Deployment
import CollectiveScheduler.Properties.Restarts
import CollectiveScheduler.Properties.SessionMemory
import CollectiveScheduler.Properties.Revocation
import CollectiveScheduler.Properties.AtMostOnce
