import Mathlib.Data.Int.Notation
import Mathlib.Data.List.Infix
import PhantomFlow.Library.StableSort
import PhantomFlow.Markov.MarkovChain

namespace PhantomFlow.Markov
open Library

structure RequestData (K : Type) where
  method : Option String
  path : Option String
  statusCode : Option ℤ
  userAgent : Option String
  ipAddress : Option String
  sessionId : Option String
  userId : Option String
  timestamp : Option ℤ
  duration : Option K
  riskScore : Option K
  contentType : Option String
  bodyQuery : Bool

structure SessionState (K : Type) extends BehavioralState K where
  sessionId : Option String
  userId : Option String
  riskScore : Option K

structure StateSequence (K : Type) where
  states : List (SessionState K)
  sessionId : String
  userId : Option String
  startTime : ℤ
  endTime : ℤ
  totalDuration : ℤ
  isComplete : Bool
  riskScore : Option K

inductive CompressionAlgorithm where
  | frequency | recency | importance | hybrid
  deriving DecidableEq

structure StateCompressionConfig (K : Type) where
  enabled : Bool
  compressionRatio : K
  compressionAlgorithm : CompressionAlgorithm

def orDefault (value : Option String) (default : String) : String :=
  match value with
  | some text => if text = "" then default else text
  | none => default

def isTruthy (value : Option String) : Bool := orDefault value "" != ""

def includes (text pattern : String) : Bool := decide (pattern.toList <:+: text.toList)
def startsWith (text pattern : String) : Bool := pattern.toList.isPrefixOf text.toList
def endsWith (text pattern : String) : Bool := pattern.toList.isSuffixOf text.toList

-- The patterns and the searched words are ASCII, so ignoring case is lowering the
-- ASCII letters of the text.
def lowered (text : String) : String := String.ofList (text.toList.map Char.toLower)

def actionPatterns : List (BehavioralActionType × (String → Bool)) :=
  [(.back_button,fun path => endsWith path "/back" || includes path "history.back"),
   (.refresh,fun path => endsWith path "/refresh" || includes path "reload"),
   (.redirect,fun path => includes path "/redirect"),
   (.scroll,fun path => includes path "/scroll" || includes path "pagination"),
   (.click,fun path => includes path "/click" || includes path "button" || includes path "link"),
   (.rate_limit_hit,fun path => includes path "/rate-limit" || includes path "429"),
   (.captcha_challenge,fun path => includes path "/captcha" || includes path "challenge"),
   (.blocked_request,fun path => includes path "/blocked" || includes path "denied")]

section Request
variable (data : RequestData K)

def determineAction : BehavioralActionType :=
  let path := orDefault data.path ""
  let method := orDefault data.method "GET"
  let statusCode := if data.statusCode.getD 0 = 0 then 200 else data.statusCode.getD 0
  if 400 ≤ statusCode then
    if statusCode = 404 then .error_404
    else if statusCode = 403 then .error_403
    else if 500 ≤ statusCode then .error_500
    else .error_404
  else if includes path "/auth/" || includes path "/login" then
    if method = "POST" then (if statusCode = 200 then .login_success else .login_failure) else .login_attempt
  else if includes path "/logout" then .logout
  else if startsWith path "/api/" then .api_call
  else if includes path "/search" || data.bodyQuery then .search
  else if method = "POST" ∧ includes path "/api/" = false then .form_submit
  else if includes path "/download" || includes path ".pdf" || includes path ".zip" then .download
  else if method = "POST" ∧ (includes path "/upload" || includes (data.contentType.getD "") "multipart") = true
  then .upload
  else if method = "GET" then
    match actionPatterns.find? (fun pattern => pattern.2 (lowered path)) with
    | some pattern => pattern.1
    | none => .page_view
  else if method = "PUT" ∨ method = "PATCH" then .form_submit
  else if method = "DELETE" then .api_call
  else .page_view

-- The custom rules in the order they were set; `high_frequency` never fires.
def contextRules : List BehavioralContext :=
  [if startsWith (data.ipAddress.getD "") "10.0.0." || includes (data.ipAddress.getD "") "suspicious"
    then .suspicious else .normal,
   if includes (data.path.getD "") "/admin" || includes (data.path.getD "") "/privileged" ||
      includes (data.userId.getD "") "admin" then .privileged else .normal,
   if !isTruthy data.userId && !isTruthy data.sessionId then .anonymous else .normal,
   if ["bot","crawler","spider"].any (fun word => includes (lowered (data.userAgent.getD "")) word)
    then .suspicious else .normal,
   .normal]

def riskContext [Field K] [LinearOrder K] : Option BehavioralContext :=
  match data.riskScore with
  | some riskScore =>
    if lit (8/10) < riskScore then some .suspicious
    else if lit (6/10) < riskScore then some .restricted
    else none
  | none => none

def determineContext [Field K] [LinearOrder K] : BehavioralContext :=
  match (contextRules data).find? (fun context => context ≠ .normal) with
  | some context => context
  | none => (riskContext data).getD (if isTruthy data.userId then .authenticated else .normal)

def createBehavioralState [Field K] [LinearOrder K] (now : ℤ) : SessionState K where
  action := determineAction data
  context := determineContext data
  timestamp := data.timestamp.getD now
  duration := data.duration
  sessionId := data.sessionId
  userId := data.userId
  riskScore := data.riskScore

end Request

def getDefaultCompressionConfig [Field K] : StateCompressionConfig K := ⟨true,lit (7/10),.hybrid⟩

def importanceScore : BehavioralActionType → ℕ
  | .login_success => 10 | .login_failure => 9 | .logout => 8
  | .error_500 => 7 | .error_403 => 6 | .error_404 => 5
  | .suspicious_activity => 10 | .blocked_request => 8
  | .form_submit => 6 | .api_call => 5 | .search => 4
  | .page_view => 2 | .click => 1 | .scroll => 1
  | .idle => 0 | .active => 1 | .focus_lost => 1 | .focus_gained => 1
  | .page_exit => 3 | .redirect => 2 | .back_button => 2 | .refresh => 2
  | .download => 4 | .upload => 5 | .rate_limit_hit => 7
  | .captcha_challenge => 6 | .session_timeout => 5 | .tab_switch => 1
  | .login_attempt => 9 | .timeout => 6 | .network_error => 6

-- `slice(0, stop)`: a negative stop counts from the end.
def sliceLength (length : ℕ) (stop : ℤ) : ℕ := if stop < 0 then (length + stop).toNat else stop.toNat

section Compression
variable {K : Type} [Field K] [LinearOrder K]

def SessionState.key (state : SessionState K) : StateKey := MarkovChain.keyOf state.toBehavioralState

def frequency (states : List (SessionState K)) (state : SessionState K) : ℕ :=
  states.countP (fun other => other.key = state.key)

-- Sorted in place, and cut without sorting back.
def compressBy (score : SessionState K → K) (states : List (SessionState K)) (targetLength : ℤ) :
    List (SessionState K) :=
  (sortByScore score states).take (sliceLength states.length targetLength)

def compressByFrequency (states : List (SessionState K)) (targetLength : ℤ) : List (SessionState K) :=
  compressBy (fun state => (frequency states state : K)) states targetLength

def compressByRecency (states : List (SessionState K)) (targetLength : ℤ) : List (SessionState K) :=
  compressBy (fun state => (state.timestamp : K)) states targetLength

def compressByImportance (states : List (SessionState K)) (targetLength : ℤ) : List (SessionState K) :=
  compressBy (fun state => (importanceScore state.action : K)) states targetLength

def recency (now : ℤ) (state : SessionState K) : K :=
  max 0 (1 - ((now - state.timestamp : ℤ) : K) / lit (24 * 60 * 60 * 1000))

def hybridScore (now : ℤ) (state : SessionState K) : K :=
  importanceScore state.action * lit (7/10) + recency now state * lit (3/10)

def compressByHybrid (now : ℤ) (states : List (SessionState K)) (targetLength : ℤ) : List (SessionState K) :=
  compressBy (hybridScore now) states targetLength

variable [FloorRing K] (config : StateCompressionConfig K)

def targetLength (originalLength : ℕ) : ℤ := ⌊originalLength * config.compressionRatio⌋

def compressSequence (now : ℤ) (states : List (SessionState K)) : List (SessionState K) :=
  if config.enabled = false ∨ (states.length : ℤ) ≤ targetLength config states.length then states
  else
    match config.compressionAlgorithm with
    | .frequency => compressByFrequency states (targetLength config states.length)
    | .recency => compressByRecency states (targetLength config states.length)
    | .importance => compressByImportance states (targetLength config states.length)
    | .hybrid => compressByHybrid now states (targetLength config states.length)

abbrev StateHistory (K : Type) := OrderedMap String (StateSequence K)

def SessionState.session (state : SessionState K) : String := orDefault state.sessionId "unknown"

def openSequence (state : SessionState K) : StateSequence K where
  states := []
  sessionId := state.session
  userId := state.userId
  startTime := state.timestamp
  endTime := state.timestamp
  totalDuration := 0
  isComplete := false
  riskScore := none

def appendState (now : ℤ) (sequence : StateSequence K) (state : SessionState K) : StateSequence K :=
  let states := sequence.states ++ [state]
  { sequence with
    states := if config.enabled = true ∧ 100 < states.length then compressSequence config now states else states
    endTime := state.timestamp
    totalDuration := state.timestamp - sequence.startTime
    riskScore := match state.riskScore with
      | some riskScore => some (max (sequence.riskScore.getD 0) riskScore)
      | none => sequence.riskScore }

def addToSequence (history : StateHistory K) (call : SessionState K × ℤ) : StateHistory K × StateSequence K :=
  let sequence := (history.get call.1.session).getD (openSequence call.1)
  let updated := appendState config call.2 sequence call.1
  (history.set call.1.session updated,updated)

end Compression
end PhantomFlow.Markov
