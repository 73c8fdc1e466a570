import PhantomFlow.Library.JsNumber
import PhantomFlow.Library.OrderedMap

namespace PhantomFlow.Traffic
open Library

structure TrafficPattern where
  timestamp : Stamp
  requestCount : ℕ
  uniqueIPs : ℕ
  responseTime : ℚ
  errorCount : ℕ
  bandwidth : ℚ
  deriving DecidableEq

def TrafficPattern.throughJson (pattern : TrafficPattern) : TrafficPattern :=
  { pattern with timestamp := pattern.timestamp.throughJson }

structure RequestData where
  responseTime : Option ℚ
  isError : Bool
  contentLength : Option ℚ

def timeWindows : List ℕ := [60000,300000,900000,3600000]

-- The keys `traffic:60000` and so on are kept as the windows they name. `stored` is
-- what Redis holds, each list of patterns as its JSON text says it.
structure StatisticalAnalyzer where
  trafficCache : OrderedMap ℕ (List TrafficPattern)
  stored : OrderedMap ℕ (List TrafficPattern)

def patternOf (requestData : RequestData) (timestamp : ℤ) : TrafficPattern where
  timestamp := .date timestamp
  requestCount := 1
  uniqueIPs := 1
  responseTime := requestData.responseTime.getD 0
  errorCount := if requestData.isError then 1 else 0
  bandwidth := requestData.contentLength.getD 0

-- `p.timestamp.getTime()` of every pattern; a text has none, and the call throws.
def patternsAfter (patterns : List TrafficPattern) (cutoffTime : ℤ) : Except String (List TrafficPattern) :=
  if patterns.any (fun pattern => pattern.timestamp.isText) then .error "p.timestamp.getTime is not a function"
  else .ok (patterns.filter (fun pattern => cutoffTime < pattern.timestamp.time))

namespace StatisticalAnalyzer

def create : StatisticalAnalyzer := ⟨.empty,.empty⟩

variable (connected : Bool) (analyzer : StatisticalAnalyzer)

-- Without a connection Redis returns nothing and stores nothing.
def redisGet (windowMs : ℕ) : Option (List TrafficPattern) := if connected then analyzer.stored.get windowMs else none

def redisSet (windowMs : ℕ) (patterns : List TrafficPattern) : StatisticalAnalyzer :=
  if connected
  then { analyzer with stored := analyzer.stored.set windowMs (patterns.map TrafficPattern.throughJson) }
  else analyzer

-- What is thrown on the way is caught and logged. The aggregate of the patterns is
-- computed and dropped.
def updateTrafficWindow (now : ℤ) (windowMs : ℕ) (pattern : TrafficPattern) : StatisticalAnalyzer :=
  let patterns := (redisGet connected analyzer windowMs).getD ((analyzer.trafficCache.get windowMs).getD [])
  match patternsAfter patterns (now - windowMs) with
  | .error _ => analyzer
  | .ok kept =>
    redisSet connected { analyzer with trafficCache := analyzer.trafficCache.set windowMs (kept ++ [pattern]) } windowMs
      (kept ++ [pattern])

-- Every window has its own reading of the clock.
def updateTrafficPatterns (clock : ℕ → ℤ) (requestData : RequestData) (timestamp : ℤ) : StatisticalAnalyzer :=
  timeWindows.foldl (fun analyzer windowMs =>
    updateTrafficWindow connected analyzer (clock windowMs) windowMs (patternOf requestData timestamp)) analyzer

-- All caches one after the other, each request as often as it is in them.
def getPatternsInWindow (startTime endTime : ℤ) : Except String (List TrafficPattern) :=
  let patterns := analyzer.trafficCache.values.flatten
  if patterns.any (fun pattern => pattern.timestamp.isText) then .error "p.timestamp.getTime is not a function"
  else .ok (patterns.filter (fun pattern =>
    decide (startTime ≤ pattern.timestamp.time) && decide (pattern.timestamp.time ≤ endTime)))

end StatisticalAnalyzer

structure TrafficStatistics where
  totalRequests : ℕ
  requestsPerMinute : ℕ
  requestsPerHour : ℕ
  uniqueIPs : ℕ
  uniqueUserAgents : ℕ
  averageResponseTime : ℚ
  errorRate : ℚ
  bandwidthUsage : ℚ
  deriving DecidableEq

def requestsOf (patterns : List TrafficPattern) : ℕ := (patterns.map TrafficPattern.requestCount).sum

def calculateUniqueIPs (patterns : List TrafficPattern) : ℕ := min (patterns.length * 2) 100

def calculateUniqueUserAgents (patterns : List TrafficPattern) : ℕ := min patterns.length 50

def calculateAverageResponseTime (patterns : List TrafficPattern) : ℚ :=
  if patterns.length = 0 then 0 else (patterns.map TrafficPattern.responseTime).sum / patterns.length

def calculateErrorRate (patterns : List TrafficPattern) : ℚ :=
  if 0 < requestsOf patterns then ((patterns.map TrafficPattern.errorCount).sum : ℕ) / requestsOf patterns else 0

def StatisticalAnalyzer.calculateCurrentStatistics (analyzer : StatisticalAnalyzer) (now : ℤ) :
    Except String TrafficStatistics := do
  let oneMinPatterns ← analyzer.getPatternsInWindow (now - 60000) now
  let oneHourPatterns ← analyzer.getPatternsInWindow (now - 3600000) now
  return {
    totalRequests := requestsOf oneMinPatterns
    requestsPerMinute := requestsOf oneMinPatterns
    requestsPerHour := requestsOf oneHourPatterns
    uniqueIPs := calculateUniqueIPs oneMinPatterns
    uniqueUserAgents := calculateUniqueUserAgents oneMinPatterns
    averageResponseTime := calculateAverageResponseTime oneMinPatterns
    errorRate := calculateErrorRate oneMinPatterns
    bandwidthUsage := (oneMinPatterns.map TrafficPattern.bandwidth).sum }

end PhantomFlow.Traffic
