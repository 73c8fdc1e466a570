import PhantomFlow.Cardinality.HyperLogLog

namespace PhantomFlow.Cardinality
open Library

inductive TrackingType where
  | ips | sessions | user_agents | locations | paths
  deriving DecidableEq

inductive UseCase where
  | ip_tracking | session_tracking | visitor_tracking | path_tracking | general
  deriving DecidableEq

structure VisitorTrackingConfig where
  trackIPs : Bool
  trackSessions : Bool
  trackUserAgents : Bool
  trackGeolocation : Bool
  trackPaths : Bool
  timeWindows : List ℚ
  enabled : Bool

structure VisitorRequest where
  ipAddress : Option String
  sessionId : Option String
  userAgent : Option String
  country : Option String
  region : Option String
  city : Option String
  path : Option String
  timestamp : Option ℤ

-- `toLowerCase`, and the `pathname` of a URL, which is not one for every text.
structure TextFunctions where
  toLowerCase : String → String
  pathname : String → Option String

def given (text : Option String) : Option String := text.filter (· != "")

section Items
variable (text : TextFunctions)

def isSpace (c : Char) : Bool :=
  c ∈ [' ','\t','\n','\r','\u000b','\u000c','\u00a0','\u1680','\u2028','\u2029','\u202f','\u205f','\u3000','\ufeff'] ||
    ('\u2000' ≤ c && c ≤ '\u200a')

def isVersion (c : Char) : Bool := c.isDigit || c == '.'

-- `/\/[\d.]+/g`: a slash goes with the version that follows it.
def removeVersions (inside : Bool) : List Char → List Char
  | [] => []
  | c :: rest =>
    if inside && isVersion c then removeVersions true rest
    else if c == '/' && rest.head?.any isVersion then removeVersions true rest
    else c :: removeVersions false rest

def collapseSpaces (inside : Bool) : List Char → List Char
  | [] => []
  | c :: rest =>
    if isSpace c then (if inside then collapseSpaces true rest else ' ' :: collapseSpaces true rest)
    else c :: collapseSpaces false rest

def trim (characters : List Char) : List Char :=
  ((characters.dropWhile isSpace).reverse.dropWhile isSpace).reverse

def normalizeUserAgent (userAgent : String) : String :=
  text.toLowerCase (String.ofList (trim (collapseSpaces false (removeVersions false userAgent.toList))))

def normalizePath (path : String) : String :=
  text.toLowerCase ((text.pathname path).getD (String.ofList (path.toList.takeWhile (· != '?'))))

def buildLocationKey (country : String) (region city : Option String) : String :=
  text.toLowerCase (String.intercalate "|" ([country] ++ (given region).toList ++ (given city).toList))

def trackedItems (config : VisitorTrackingConfig) (requestData : VisitorRequest) : List (TrackingType × String) :=
  if config.enabled = false then []
  else
    (if config.trackIPs then (given requestData.ipAddress).toList.map (fun ip => (.ips,ip)) else []) ++
    (if config.trackSessions then (given requestData.sessionId).toList.map (fun session => (.sessions,session)) else []) ++
    (if config.trackUserAgents
      then (given requestData.userAgent).toList.map (fun userAgent => (.user_agents,normalizeUserAgent text userAgent))
      else []) ++
    (if config.trackGeolocation
      then (given requestData.country).toList.map (fun country =>
        (.locations,buildLocationKey text country requestData.region requestData.city))
      else []) ++
    (if config.trackPaths then (given requestData.path).toList.map (fun path => (.paths,normalizePath text path)) else [])

end Items

abbrev WindowMap (K : Type) := OrderedMap ℚ (HyperLogLog K)

structure VisitorTracker (K : Type) where
  config : VisitorTrackingConfig
  hlls : OrderedMap TrackingType (HyperLogLog K)
  timeWindowData : OrderedMap TrackingType (WindowMap K)

structure VisitorMetrics (K : Type) where
  start : ℚ
  finish : ℚ
  duration : ℚ
  total : JsNumber K
  ips : JsNumber K
  sessions : JsNumber K
  userAgents : JsNumber K
  locations : JsNumber K
  paths : JsNumber K
  growthRate : K
  confidence : K

def isWithinTimeWindow (now timestamp : ℤ) (windowMs : ℚ) : Bool := decide ((now : ℚ) - windowMs ≤ timestamp)

namespace VisitorTracker
variable {K : Type} [Field K] [LinearOrder K]

-- The configurations come from the environment.
variable (getHLLConfigForUseCase : UseCase → HyperLogLogConfig)

def initializeTimeWindows (timeWindows : List ℚ) : Except String (WindowMap K) :=
  timeWindows.foldlM (fun windowMap window => do
    let hll ← HyperLogLog.create (getHLLConfigForUseCase .general)
    return windowMap.set window hll) .empty

def initializeType (tracker : VisitorTracker K) (trackingType : TrackingType) (useCase : UseCase) :
    Except String (VisitorTracker K) := do
  let hll ← HyperLogLog.create (getHLLConfigForUseCase useCase)
  let windows ← initializeTimeWindows getHLLConfigForUseCase tracker.config.timeWindows
  return { tracker with
    hlls := tracker.hlls.set trackingType hll
    timeWindowData := tracker.timeWindowData.set trackingType windows }

def trackedTypes (config : VisitorTrackingConfig) : List (TrackingType × UseCase) :=
  (if config.trackIPs then [(.ips,.ip_tracking)] else []) ++
  (if config.trackSessions then [(.sessions,.session_tracking)] else []) ++
  (if config.trackUserAgents then [(.user_agents,.general)] else []) ++
  (if config.trackGeolocation then [(.locations,.general)] else []) ++
  (if config.trackPaths then [(.paths,.path_tracking)] else [])

-- `initializeHLLs`; a configuration that is refused makes the constructor throw.
def create (config : VisitorTrackingConfig) : Except String (VisitorTracker K) :=
  (trackedTypes config).foldlM (fun tracker entry => initializeType getHLLConfigForUseCase tracker entry.1 entry.2)
    ⟨config,.empty,.empty⟩

variable (text : TextFunctions) (tracker : VisitorTracker K)

def addToTracking (now timestamp : ℤ) (tracker : VisitorTracker K) (entry : TrackingType × String) : VisitorTracker K :=
  { tracker with
    hlls := match tracker.hlls.get entry.1 with
      | some hll => tracker.hlls.set entry.1 (hll.add entry.2)
      | none => tracker.hlls
    timeWindowData := match tracker.timeWindowData.get entry.1 with
      | some timeWindows => tracker.timeWindowData.set entry.1 (timeWindows.map (fun windowSize windowHLL =>
          if isWithinTimeWindow now timestamp windowSize then windowHLL.add entry.2 else windowHLL))
      | none => tracker.timeWindowData }

def trackVisitor (now : ℤ) (requestData : VisitorRequest) : VisitorTracker K :=
  (trackedItems text tracker.config requestData).foldl (addToTracking now (requestData.timestamp.getD now)) tracker

def clear : VisitorTracker K :=
  { tracker with
    hlls := tracker.hlls.map (fun _ hll => hll.clear)
    timeWindowData := tracker.timeWindowData.map (fun _ windowMap => windowMap.map (fun _ windowHLL => windowHLL.clear)) }

-- The instances made at construction stay as they are.
def updateConfiguration (config : VisitorTrackingConfig) : VisitorTracker K := { tracker with config }

section Queries
variable [FloorRing K] (math : JsMath K)

-- `timeWindowMs && this.timeWindowData.has(trackingType)`; the count is kept in the
-- instance's own metrics.
def getCardinality (trackingType : TrackingType) (timeWindowMs : Option ℚ) :
    Option (CardinalityEstimate K) × VisitorTracker K :=
  match timeWindowMs.filter (· ≠ 0),tracker.timeWindowData.get trackingType with
  | some window,some windowMap =>
    match windowMap.get window with
    | some windowHLL =>
      let counted := windowHLL.count math
      (some counted.1,{ tracker with
        timeWindowData := tracker.timeWindowData.set trackingType (windowMap.set window counted.2) })
    | none => (none,tracker)
  | _,_ =>
    match tracker.hlls.get trackingType with
    | some hll =>
      let counted := hll.count math
      (some counted.1,{ tracker with hlls := tracker.hlls.set trackingType counted.2 })
    | none => (none,tracker)

def recordCount (metrics : VisitorMetrics K) (trackingType : TrackingType) (estimate : CardinalityEstimate K) :
    VisitorMetrics K :=
  let confident := { metrics with confidence := max metrics.confidence estimate.confidence }
  match trackingType with
  | .ips => { confident with ips := estimate.count }
  | .sessions => { confident with sessions := estimate.count }
  | .user_agents => { confident with userAgents := estimate.count }
  | .locations => { confident with locations := estimate.count }
  | .paths => { confident with paths := estimate.count }

def populateMetricsForType (timeWindowMs : Option ℚ) (populated : VisitorMetrics K × VisitorTracker K)
    (trackingType : TrackingType) : VisitorMetrics K × VisitorTracker K :=
  let counted := populated.2.getCardinality math trackingType timeWindowMs
  (match counted.1 with
    | some estimate => recordCount populated.1 trackingType estimate
    | none => populated.1,counted.2)

-- The growth rate is a placeholder of the source.
def getVisitorMetrics (now : ℤ) (timeWindowMs : Option ℚ) : VisitorMetrics K × VisitorTracker K :=
  let window := timeWindowMs.filter (· ≠ 0)
  let metrics : VisitorMetrics K :=
    { start := (window.map (fun windowMs => (now : ℚ) - windowMs)).getD 0
      finish := now
      duration := window.getD now
      total := .finite 0
      ips := .finite 0
      sessions := .finite 0
      userAgents := .finite 0
      locations := .finite 0
      paths := .finite 0
      growthRate := 0
      confidence := 0 }
  let populated := [TrackingType.ips,.sessions,.user_agents,.locations,.paths].foldl
    (populateMetricsForType math timeWindowMs) (metrics,tracker)
  ({ populated.1 with total := populated.1.ips },populated.2)

end Queries
end VisitorTracker

inductive TrackerEvent where
  | trackVisitor (now : ℤ) (requestData : VisitorRequest)
  | getCardinality (trackingType : TrackingType) (timeWindowMs : Option ℚ)
  | getVisitorMetrics (now : ℤ) (timeWindowMs : Option ℚ)
  | clear
  | updateConfiguration (config : VisitorTrackingConfig)

inductive TrackerReply (K : Type) where
  | cardinality (estimate : Option (CardinalityEstimate K))
  | metrics (metrics : VisitorMetrics K)
  | done

def trackerStep [Field K] [LinearOrder K] [FloorRing K] (text : TextFunctions) (math : JsMath K)
    (tracker : VisitorTracker K) : TrackerEvent → VisitorTracker K × TrackerReply K
  | .trackVisitor now requestData => (tracker.trackVisitor text now requestData,.done)
  | .getCardinality trackingType timeWindowMs =>
    let answered := tracker.getCardinality math trackingType timeWindowMs
    (answered.2,.cardinality answered.1)
  | .getVisitorMetrics now timeWindowMs =>
    let answered := tracker.getVisitorMetrics math now timeWindowMs
    (answered.2,.metrics answered.1)
  | .clear => (tracker.clear,.done)
  | .updateConfiguration config => (tracker.updateConfiguration config,.done)

end PhantomFlow.Cardinality
