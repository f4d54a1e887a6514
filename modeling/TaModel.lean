import TaModel.Audit.BuilderReports
import TaModel.Audit.Economics
import TaModel.Audit.Gate
import TaModel.Audit.GateReport
import TaModel.Audit.GateTotal
import TaModel.Audit.GateVerdict
import TaModel.Audit.HonestEvidence
import TaModel.Audit.Replay
import TaModel.Audit.ReplayCases
import TaModel.Audit.ReplayDisplay
import TaModel.Audit.ReplayReport
import TaModel.Audit.ReplayTotal
import TaModel.Audit.Soundness
import TaModel.Audit.Trace
import TaModel.Audit.TraceLinks
import TaModel.Baselines.Deterministic
import TaModel.Baselines.Ledger
import TaModel.Baselines.PointInTime
import TaModel.Contracts.Arithmetic
import TaModel.Contracts.Baselines
import TaModel.Contracts.Canonical
import TaModel.Contracts.CanonicalJson
import TaModel.Contracts.Datasets
import TaModel.Contracts.DecimalContext
import TaModel.Contracts.DecimalLaws
import TaModel.Contracts.DecimalRange
import TaModel.Contracts.Decisions
import TaModel.Contracts.EffectiveWindows
import TaModel.Contracts.Evaluation
import TaModel.Contracts.Execution
import TaModel.Contracts.Features
import TaModel.Contracts.Forecasts
import TaModel.Contracts.InstrumentMaster
import TaModel.Contracts.IsoOrder
import TaModel.Contracts.Json
import TaModel.Contracts.KillSwitch
import TaModel.Contracts.MarketData
import TaModel.Contracts.ModelRegistry
import TaModel.Contracts.ModelValidation
import TaModel.Contracts.Observability
import TaModel.Contracts.PaperAccount
import TaModel.Contracts.PaperTca
import TaModel.Contracts.PayloadLaws
import TaModel.Contracts.RawPayloads
import TaModel.Contracts.RegistryTrail
import TaModel.Contracts.Risk
import TaModel.Contracts.RiskCheck
import TaModel.Contracts.RiskPolicy
import TaModel.Contracts.Scenarios
import TaModel.Contracts.Simulation
import TaModel.Contracts.StreamAccounting
import TaModel.Contracts.StreamEvaluator
import TaModel.Contracts.StreamHealth
import TaModel.Contracts.StringDict
import TaModel.Contracts.Training
import TaModel.Datasets.BuilderRows
import TaModel.Datasets.LabelFrame
import TaModel.Datasets.Snapshots
import TaModel.Evaluation.BaselineGate
import TaModel.Evaluation.Scorecard
import TaModel.Evaluation.SplitScores
import TaModel.Execution.AccountBinding
import TaModel.Execution.ArrivalQuotes
import TaModel.Execution.Association
import TaModel.Execution.Blocking
import TaModel.Execution.CostIdentity
import TaModel.Execution.Gateway
import TaModel.Execution.PaperAccount
import TaModel.Execution.PaperAmounts
import TaModel.Execution.PaperEvents
import TaModel.Execution.PaperLogs
import TaModel.Execution.PaperPartition
import TaModel.Execution.PaperRecords
import TaModel.Execution.PaperTca
import TaModel.Execution.Parity
import TaModel.Features.BarHistory
import TaModel.Features.LiquidityCost
import TaModel.Features.LiquidityPointInTime
import TaModel.Features.PointInTime
import TaModel.Features.Ta
import TaModel.Features.WindowLocality
import TaModel.Library.Agreement
import TaModel.Library.Disclosure
import TaModel.Library.Drawdown
import TaModel.Library.ExponentRange
import TaModel.Library.FileSystem
import TaModel.Library.FileUri
import TaModel.Library.FirstMax
import TaModel.Library.FixedWidth
import TaModel.Library.Grouping
import TaModel.Library.HalfOpenWindows
import TaModel.Library.KeyedLists
import TaModel.Library.LatestEntry
import TaModel.Library.Ledger
import TaModel.Library.MaximalRuns
import TaModel.Library.Occurrences
import TaModel.Library.PercentEncoding
import TaModel.Library.Ranking
import TaModel.Library.RunningMax
import TaModel.Library.Sha256
import TaModel.Library.SignificantDigits
import TaModel.Library.Stamping
import TaModel.Library.StateFold
import TaModel.Library.TailMeans
import TaModel.Library.Tally
import TaModel.Library.View
import TaModel.Normalization.Delivery
import TaModel.Normalization.HistoricalPages
import TaModel.Normalization.Silver
import TaModel.Observability.AlertCompleteness
import TaModel.Observability.PaperReadiness
import TaModel.Observability.ReportTotal
import TaModel.Risk.CapFeasibility
import TaModel.Risk.ConstraintLookups
import TaModel.Risk.Decision
import TaModel.Risk.Engine
import TaModel.Risk.Evaluations
import TaModel.Risk.EvidenceCoverage
import TaModel.Risk.FreshnessScope
import TaModel.Risk.GatedReplay
import TaModel.Risk.HardLimits
import TaModel.Risk.KillSwitchBinding
import TaModel.Risk.KillSwitchCodec
import TaModel.Risk.KillSwitchReads
import TaModel.Risk.KillSwitchRuns
import TaModel.Risk.KillSwitchStore
import TaModel.Risk.KillSwitchTransition
import TaModel.Risk.KillSwitchWrites
import TaModel.Risk.MonotoneDecision
import TaModel.Risk.SizeLimits
import TaModel.Risk.SoftCap
import TaModel.Simulation.Balances
import TaModel.Simulation.BarOrder
import TaModel.Simulation.BarStream
import TaModel.Simulation.Causality
import TaModel.Simulation.Conservation
import TaModel.Simulation.DearerReplay
import TaModel.Simulation.DecimalAttempt
import TaModel.Simulation.DecimalReplay
import TaModel.Simulation.DecimalStep
import TaModel.Simulation.DecimalTotal
import TaModel.Simulation.FillBar
import TaModel.Simulation.FillCosts
import TaModel.Simulation.FillSelection
import TaModel.Simulation.OrderGroups
import TaModel.Simulation.Replay
import TaModel.Simulation.ReplayAborts
import TaModel.Simulation.ReplayLedger
import TaModel.Simulation.ReplayResults
import TaModel.Simulation.ReplayTotal
import TaModel.Simulation.Resumption
import TaModel.Simulation.ScenarioAccounts
import TaModel.Simulation.ScenarioSuite
import TaModel.Simulation.Scenarios
import TaModel.Simulation.Solvency
import TaModel.Simulation.TwoRuns
import TaModel.Simulation.VenueOutage
import TaModel.Simulation.ZeroCost
import TaModel.Storage.Bronze
import TaModel.Storage.BronzeRetry
import TaModel.Storage.BronzeRuns
import TaModel.Strategy.Decisions
import TaModel.Strategy.GateAccounts
import TaModel.Strategy.GateReport
import TaModel.Strategy.NetEdge
import TaModel.Strategy.Sizing
import TaModel.Training.Distribution
import TaModel.Training.FittedLabels
import TaModel.Training.LabelLookahead
import TaModel.Training.Moments
import TaModel.Training.ProbabilisticCandidate
import TaModel.Training.Runner
import TaModel.Training.TrainingTotal
import TaModel.Validation.CandidatePipeline
import TaModel.Validation.DataQuality
import TaModel.Validation.DeliveryGate
import TaModel.Validation.GateTiling
import TaModel.Validation.ModelReport
import TaModel.Validation.ReportInputs
import TaModel.Validation.ReportParts
import TaModel.Validation.ReportSoundness
