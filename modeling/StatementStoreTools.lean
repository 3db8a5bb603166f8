import StatementStoreTools.Loops
import StatementStoreTools.TimedStreams
import StatementStoreTools.Traces
import StatementStoreTools.SplitWords
import StatementStoreTools.StableSorting
import StatementStoreTools.AttemptChains
import StatementStoreTools.CyclicBarrier
import StatementStoreTools.StatementTypes
import StatementStoreTools.RpcWorld
import StatementStoreTools.LabelledCalls
import StatementStoreTools.OpsCommon
import StatementStoreTools.StreamReads
import StatementStoreTools.DrainAgreement
import StatementStoreTools.MessagePattern
import StatementStoreTools.PatternTexts
import StatementStoreTools.HexParsing
import StatementStoreTools.ExecuteRound
import StatementStoreTools.RingClients
import StatementStoreTools.RingBarrier
import StatementStoreTools.RingRecords
import StatementStoreTools.RingSchedules
import StatementStoreTools.RingReport
import StatementStoreTools.RingBlame
import StatementStoreTools.RingChannels
import StatementStoreTools.RoundOutcome
import StatementStoreTools.DashNames
import StatementStoreTools.UnitNumbers
import StatementStoreTools.LabelledFields
import StatementStoreTools.Tallies
import StatementStoreTools.Chunking
import StatementStoreTools.WriteHistories
import StatementStoreTools.HexDigits
import StatementStoreTools.QuotaStorage
import StatementStoreTools.SetupAllowances
import StatementStoreTools.QuotaReadBack
import StatementStoreTools.RingTopics
import StatementStoreTools.SubscribePhase
import StatementStoreTools.QueryPhase
import StatementStoreTools.OpsCommands
import StatementStoreTools.AssertOnceVerdict
import StatementStoreTools.AssertOnceDiagnostic
import StatementStoreTools.StrictReads
import StatementStoreTools.QueryIsolation
import StatementStoreTools.QuerySummaries
import StatementStoreTools.SubmitPhase
import StatementStoreTools.PropagationPhase
import StatementStoreTools.PropagationMatching
import StatementStoreTools.PeriodicLoop
import StatementStoreTools.LoopTurns
import StatementStoreTools.LoopCounters
import StatementStoreTools.LoopConnections
import StatementStoreTools.LoopDuration
import StatementStoreTools.CycleFreshness
import StatementStoreTools.ExpiryClock
import StatementStoreTools.RingExpiry
import StatementStoreTools.NameTexts
import StatementStoreTools.SubmitExpiry
import StatementStoreTools.ExpiryFreshness
import StatementStoreTools.PhaseAccounts
import StatementStoreTools.PhaseReturns
import StatementStoreTools.DurationTexts
import StatementStoreTools.QueryLines
import StatementStoreTools.RankedRuns
import StatementStoreTools.RingReturns
import StatementStoreTools.RingFailures
import StatementStoreTools.RingCompletion
import StatementStoreTools.RingAttribution
import StatementStoreTools.RingNetwork
import StatementStoreTools.SigningKeys
import StatementStoreTools.RunClient
import StatementStoreTools.BenchMain
import StatementStoreTools.OpsMain
import StatementStoreTools.QuotaHistory
import StatementStoreTools.LoopFreshness
