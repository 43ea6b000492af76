import CtrlRecovery.Core.Run
import CtrlRecovery.Core.Table
import CtrlRecovery.Core.Ranking
import CtrlRecovery.Core.Transaction
import CtrlRecovery.Js
import CtrlRecovery.Domain.StateMachine
import CtrlRecovery.Db.OpportunityRepository
import CtrlRecovery.Reconciliation.Interleaving
import CtrlRecovery.Reconciliation.Coverage
import CtrlRecovery.Domain.StatusWriters
import CtrlRecovery.Market.Allocator
import CtrlRecovery.Authority.Gate
import CtrlRecovery.Market.Rounds
import CtrlRecovery.Agents.Daemon
import CtrlRecovery.Execution.Effects
import CtrlRecovery.Execution.Idempotency
import CtrlRecovery.Authority.Pipeline
import CtrlRecovery.Webhooks.Ingestion
import CtrlRecovery.System.Engine
import CtrlRecovery.System.Lifecycle
import CtrlRecovery.System.RecoverySystem
import CtrlRecovery.System.Revenue
import CtrlRecovery.System.TerminalStatus
import CtrlRecovery.Execution.Retries
import CtrlRecovery.Execution.RetryBudget
import CtrlRecovery.Core.HashChain
import CtrlRecovery.Truth.LedgerIntegrity
import CtrlRecovery.Truth.LedgerAppends
import CtrlRecovery.Truth.TamperEvidence
import CtrlRecovery.Truth.AuditExport
import CtrlRecovery.Market.Specification
import CtrlRecovery.Db.Adapter
import CtrlRecovery.Reconciliation.Atomicity
import CtrlRecovery.System.Redelivery
import CtrlRecovery.Routes.Playground
import CtrlRecovery.Webhooks.Handlers
import CtrlRecovery.System.Server
import CtrlRecovery.System.TenantIsolation
import CtrlRecovery.System.RecoveryEvidence
import CtrlRecovery.Db.PgPool
import CtrlRecovery.Security.Jwt
import CtrlRecovery.Security.SessionAuth
import CtrlRecovery.Core.Like
import CtrlRecovery.Security.ApiKeys
import CtrlRecovery.Security.KeyIssuance
import CtrlRecovery.Security.KeyRevocation
import CtrlRecovery.Core.TtlStore
import CtrlRecovery.Security.Authentication
import CtrlRecovery.Security.SessionRevocation
import CtrlRecovery.Routes.Auth
import CtrlRecovery.System.Privileges
import CtrlRecovery.Security.TenantGuard
import CtrlRecovery.Core.SlidingWindow
import CtrlRecovery.Routes.Otp
import CtrlRecovery.Routes.OtpGuard
import CtrlRecovery.Webhooks.Events
import CtrlRecovery.System.EventIsolation
import CtrlRecovery.Webhooks.SignatureSecrets
import CtrlRecovery.Security.Secrets
import CtrlRecovery.Execution.CircuitBreaker
import CtrlRecovery.Cache.CacheManager
import CtrlRecovery.Cache.IdempotencyLock
import CtrlRecovery.Core.Queues
import CtrlRecovery.Queue.JobQueue
import CtrlRecovery.Queue.JobDelivery
import CtrlRecovery.Providers.ClientPool
import CtrlRecovery.Providers.ConnectionFreshness
import CtrlRecovery.Economics.Calibration
import CtrlRecovery.Economics.CalibrationEvidence
import CtrlRecovery.Economics.CalibrationAgreement
import CtrlRecovery.Core.Noninterference
import CtrlRecovery.Economics.CalibrationIsolation
import CtrlRecovery.Reconciliation.Poller
import CtrlRecovery.System.OpenLinks
import CtrlRecovery.Agents.ComplianceCopilot
import CtrlRecovery.Agents.SemanticBridge
import CtrlRecovery.Agents.Mission
import CtrlRecovery.Agents.MissionOrder
import CtrlRecovery.System.ScoreFreshness
import CtrlRecovery.Economics.BanditPolicy
import CtrlRecovery.Reconciliation.Repetition
import CtrlRecovery.Cache.CounterStore
import CtrlRecovery.Market.CapacityPolicy
import CtrlRecovery.Market.CapacityLimits
import CtrlRecovery.Webhooks.RetryWorker
import CtrlRecovery.Webhooks.DeliveryRetries
import CtrlRecovery.Agents.DaemonSchedule
import CtrlRecovery.System.EmergencyStop
import CtrlRecovery.System.KillSwitchPropagation
import CtrlRecovery.Realtime.Broadcaster
import CtrlRecovery.Economics.CausalAttribution
import CtrlRecovery.Agents.MemoryStore
import CtrlRecovery.Agents.LifecycleMonitor
import CtrlRecovery.Core.StraightLine
import CtrlRecovery.Agents.MissionCourse
import CtrlRecovery.Agents.ConcurrencyCoordinator
import CtrlRecovery.Agents.BatchSummary
import CtrlRecovery.Core.Retries
import CtrlRecovery.Queue.JobRetries
import CtrlRecovery.Agents.Learning
import CtrlRecovery.Agents.MissionOutcomes
import CtrlRecovery.Agents.AgentGate
import CtrlRecovery.Agents.HITLManager
import CtrlRecovery.Agents.ToolBudget
import CtrlRecovery.Authority.VerdictSeverity
import CtrlRecovery.Cache.RateLimiter
import CtrlRecovery.Core.Envelope
import CtrlRecovery.Execution.FailureCounting
import CtrlRecovery.Execution.RateLimiter
import CtrlRecovery.Agents.Replay
import CtrlRecovery.Core.Rewriting
import CtrlRecovery.Db.NormalizeSql
import CtrlRecovery.Db.PgStatement
import CtrlRecovery.Db.StatementEffect
import CtrlRecovery.Agents.PlanMonitor
import CtrlRecovery.Agents.ReplanEngine
import CtrlRecovery.Economics.BridgeScores
import CtrlRecovery.Market.BudgetPacer
import CtrlRecovery.Providers.Router
import CtrlRecovery.Agents.Estimators
import CtrlRecovery.Agents.PortfolioAgent
import CtrlRecovery.Core.CodeUnits
import CtrlRecovery.Core.JsonRebuild
import CtrlRecovery.Core.Statistics
import CtrlRecovery.Economics.AntiBlast
import CtrlRecovery.Routes.AuthorityView
import CtrlRecovery.Security.InputSanitizer
import CtrlRecovery.Security.Pii
import CtrlRecovery.Truth.CausalAnalysis
import CtrlRecovery.Agents.IntentSchema
import CtrlRecovery.Agents.ToolRates
import CtrlRecovery.Agents.ContextBuilder
import CtrlRecovery.Agents.LlmRouter
import CtrlRecovery.Core.Quoting
import CtrlRecovery.Core.SchemaScript
import CtrlRecovery.Db.Migrations
import CtrlRecovery.Economics.CausalUplift
import CtrlRecovery.Economics.LearnedEvidence
import CtrlRecovery.Gateway.RateTiers
import CtrlRecovery.Observability.Metrics
import CtrlRecovery.Simulation.ScenarioRunner
import CtrlRecovery.Market.SuccessiveRuns
import CtrlRecovery.Core.EventStream
import CtrlRecovery.Core.EventHub
import CtrlRecovery.Agents.TraceStream
import CtrlRecovery.Agents.DeliberationStream
import CtrlRecovery.Webhooks.Requeue
import CtrlRecovery.Agents.PlanLineage
import CtrlRecovery.Agents.Telemetry
import CtrlRecovery.Execution.BreakerRestarts
