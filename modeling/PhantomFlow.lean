import PhantomFlow.Analysis.PatternCache
import PhantomFlow.Bandit.Persistence
import PhantomFlow.Cardinality.MergeGuard
import PhantomFlow.Cardinality.Murmur128
import PhantomFlow.Cardinality.Aggregation
import PhantomFlow.Cardinality.Estimates
import PhantomFlow.Cardinality.VisitorInsights
import PhantomFlow.Cardinality.VisitorPatterns
import PhantomFlow.Cardinality.VisitorWindows
import PhantomFlow.Compression.RoundTrip
import PhantomFlow.Deception.DeceptionService
import PhantomFlow.Ewma.Forecast
import PhantomFlow.Ewma.Rollback
import PhantomFlow.Ewma.Spikes
import PhantomFlow.Frequency.Clearing
import PhantomFlow.Frequency.WindowCounts
import PhantomFlow.Learning.AdaptiveLearning
import PhantomFlow.Library.JsWords
import PhantomFlow.Managers.PeriodicTasks
import PhantomFlow.Markov.Chronology
import PhantomFlow.Markov.Novelty
import PhantomFlow.Markov.Persistence
import PhantomFlow.Markov.Predictions
import PhantomFlow.Markov.Queries
import PhantomFlow.Markov.Timings
import PhantomFlow.Markov.Validation
import PhantomFlow.Metrics.BatchTimer
import PhantomFlow.Metrics.Conservation
import PhantomFlow.Network.WireFormat
import PhantomFlow.RateLimit.Blocks
import PhantomFlow.RateLimit.Emergency
import PhantomFlow.RateLimit.EventAnalytics
import PhantomFlow.RateLimit.Hybrid
import PhantomFlow.RateLimit.Interleaving
import PhantomFlow.RateLimit.Isolation
import PhantomFlow.RateLimit.PolicyStore
import PhantomFlow.RateLimit.Remaining
import PhantomFlow.RateLimit.ResetTimes
import PhantomFlow.RateLimit.RetryAfter
import PhantomFlow.RateLimit.StoredMetrics
import PhantomFlow.RateLimit.TokenBound
import PhantomFlow.RateLimit.TopViolators
import PhantomFlow.RateLimit.UserAdjustment
import PhantomFlow.Response.BlockDuration
import PhantomFlow.Response.Escalation
import PhantomFlow.Retention.DataRetentionService
import PhantomFlow.Retention.PolicyUpdate
import PhantomFlow.Sketch.ErrorBound
import PhantomFlow.Sketch.DoubleCounts
import PhantomFlow.Sketch.MergeGuard
import PhantomFlow.Sketch.Murmur
import PhantomFlow.Sketch.OptimalConfig
import PhantomFlow.Soar.ExactlyOnce
import PhantomFlow.Soar.PlaybookBandit
import PhantomFlow.Storage.Deadlock
import PhantomFlow.Storage.Recency
import PhantomFlow.Storage.Statistics
import PhantomFlow.Threading.WorkerPool
import PhantomFlow.Traffic.TrafficStores
import PhantomFlow.Markov.Durations
import PhantomFlow.Markov.SizeBounds
import PhantomFlow.Ewma.Levels
import PhantomFlow.Ewma.ConstantTraffic
import PhantomFlow.Ewma.VolatilityRegimes
import PhantomFlow.Ewma.LoneOutliers
import PhantomFlow.Ewma.LevelShifts
import PhantomFlow.Ewma.Seasonality
import PhantomFlow.Library.Utf8
import PhantomFlow.Security.SecurityEngine
import PhantomFlow.Security.TextSlices
import PhantomFlow.Compression.CorruptInput
import PhantomFlow.Compression.StreamFrames
import PhantomFlow.Library.Panics
import PhantomFlow.Network.CheckedParser
import PhantomFlow.Network.LosslessParsing
import PhantomFlow.Library.ExpiringStore
import PhantomFlow.Response.ActionIsolation
import PhantomFlow.Response.FixedWindow
import PhantomFlow.Behavior.BehavioralAnalyzer
import PhantomFlow.Behavior.SessionTiming
import PhantomFlow.Response.AdminAlerts
import PhantomFlow.Traffic.TrafficRates
import PhantomFlow.Analysis.RelationshipAnalyzer
import PhantomFlow.Analysis.SearchRules
import PhantomFlow.Analysis.RelatedIps
import PhantomFlow.Analysis.InsertionOrder
import PhantomFlow.Storage.Expiry
import PhantomFlow.Logs.TimeRanges
import PhantomFlow.Network.ProtocolDetection
import PhantomFlow.Security.Validator
import PhantomFlow.Soar.PlaybookParameters
import PhantomFlow.Detection.SigmaNeedles
import PhantomFlow.Cardinality.Ranks
import PhantomFlow.Ewma.LeastSquares
import PhantomFlow.Sketch.LatencyHistogram
import PhantomFlow.Traffic.TrafficBaselines
import PhantomFlow.Analysis.RelationshipRisk
import PhantomFlow.Library.Factors
import PhantomFlow.Risk.RiskScoringEngine
import PhantomFlow.Risk.ThreatScores
import PhantomFlow.Library.RedisList
import PhantomFlow.Deception.EventLog
import PhantomFlow.Storage.Coherence
import PhantomFlow.Storage.Victims
import PhantomFlow.Graph.GNNExport
import PhantomFlow.Auth.Accounts
import PhantomFlow.Auth.Access
import PhantomFlow.Library.MostCommon
import PhantomFlow.Ewma.Windows
import PhantomFlow.Ewma.Consensus
import PhantomFlow.Network.RateLimiters
import PhantomFlow.Library.PrunedLog
import PhantomFlow.Frequency.AnomalyDetector
import PhantomFlow.Frequency.Sustained
import PhantomFlow.Bandit.Reputation
import PhantomFlow.Threading.PoolDrop
