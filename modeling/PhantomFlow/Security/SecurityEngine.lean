import Mathlib.Data.List.Destutter
import Mathlib.Data.List.Sort
import PhantomFlow.Analysis.PatternMatcher
import PhantomFlow.Library.Averages
import PhantomFlow.Library.Fallible
import PhantomFlow.Library.Utf8

namespace PhantomFlow.Security
open Library Analysis

inductive ThreatCategory where
  | sqlInjection | crossSiteScripting | pathTraversal | commandInjection | bufferOverflow | maliciousPayload
  | botActivity | bruteForce | dDoS | dataExfiltration | reconnaissance | malware | phishing | anomalousTraffic | unknown
  deriving DecidableEq

-- The order of declaration.
def ThreatCategory.rank : ThreatCategory → ℕ
  | .sqlInjection => 0
  | .crossSiteScripting => 1
  | .pathTraversal => 2
  | .commandInjection => 3
  | .bufferOverflow => 4
  | .maliciousPayload => 5
  | .botActivity => 6
  | .bruteForce => 7
  | .dDoS => 8
  | .dataExfiltration => 9
  | .reconnaissance => 10
  | .malware => 11
  | .phishing => 12
  | .anomalousTraffic => 13
  | .unknown => 14

inductive ThreatSeverity where
  | low | medium | high | critical
  deriving DecidableEq

inductive RiskLevel where
  | minimal | low | medium | high | critical
  deriving DecidableEq

def RiskLevel.rank : RiskLevel → ℕ
  | .minimal => 0
  | .low => 1
  | .medium => 2
  | .high => 3
  | .critical => 4

inductive RecommendedAction where
  | allow | monitor | challenge | rateLimit | block | quarantine | alert
  deriving DecidableEq

def RecommendedAction.rank : RecommendedAction → ℕ
  | .allow => 0
  | .monitor => 1
  | .challenge => 2
  | .rateLimit => 3
  | .block => 4
  | .quarantine => 5
  | .alert => 6

structure ThreatSignature where
  id : String
  name : String
  pattern : String
  category : ThreatCategory
  severity : ThreatSeverity
  confidence : ℚ
  enabled : Bool

structure SignatureMatch where
  signatureId : String
  signatureName : String
  category : ThreatCategory
  severity : ThreatSeverity
  confidence : ℚ
  matchedContent : String
  position : ℕ
  context : String

structure SecurityAnalysisRequest where
  requestId : String
  userAgent : String
  requestPath : String
  requestBody : List UInt8

structure UserProfilingResult where
  userTrustScore : ℚ
  profileMatchScore : ℚ
  behavioralDeviation : ℚ
  historicalThreatScore : ℚ

structure BehavioralAnalysisResult where
  behaviorScore : ℚ
  isAnomalous : Bool
  patternConsistency : ℚ
  userProfiling : UserProfilingResult

structure ReputationAnalysisResult where
  reputationScore : ℚ
  geographicRisk : ℚ
  asnRisk : ℚ

structure AnomalyDetectionResult where
  anomalyScore : ℚ
  isAnomalous : Bool

structure AnalysisDetails where
  signatureMatches : List SignatureMatch
  behavioralAnalysis : BehavioralAnalysisResult
  reputationAnalysis : ReputationAnalysisResult
  anomalyDetection : AnomalyDetectionResult

structure SecurityAnalysisResult where
  requestId : String
  threatScore : ℚ
  riskLevel : RiskLevel
  confidence : ℚ
  threatTypes : List ThreatCategory
  recommendedAction : RecommendedAction
  analysisDetails : AnalysisDetails

structure SecurityEngine where
  threatSignatures : List ThreatSignature

-- `str::find`: the byte offset of the first occurrence.
def findPattern : List Char → List Char → Option ℕ
  | [],pattern => if pattern = [] then some 0 else none
  | c :: rest,pattern =>
    if pattern.isPrefixOf (c :: rest) then some 0 else (findPattern rest pattern).map (c.utf8Size + ·)

def contains (content pattern : String) : Bool := (findPattern content.toList pattern.toList).isSome

def contentToCheck (request : SecurityAnalysisRequest) : String :=
  request.requestPath ++ " " ++ request.userAgent ++ " " ++ fromUtf8Lossy request.requestBody

-- The first hundred bytes; `none` where the slice panics.
def contextOf (content : String) : Option String := sliceBytes content 0 (min 100 content.utf8ByteSize)

def matchOf (signature : ThreatSignature) (content context : String) : SignatureMatch where
  signatureId := signature.id
  signatureName := signature.name
  category := signature.category
  severity := signature.severity
  confidence := signature.confidence
  matchedContent := signature.pattern
  position := (findPattern content.toList signature.pattern.toList).getD 0
  context

def matchSignature (signature : ThreatSignature) (request : SecurityAnalysisRequest) : Option (Option SignatureMatch) :=
  let content := contentToCheck request
  if contains content signature.pattern
  then (contextOf content).map (fun context => some (matchOf signature content context))
  else some none

def ThreatSeverity.weight : ThreatSeverity → ℚ
  | .critical => 9/10
  | .high => 7/10
  | .medium => 5/10
  | .low => 3/10

def analyzeBehavior (_ : SecurityAnalysisRequest) : BehavioralAnalysisResult := ⟨0,false,1,⟨1,1,0,0⟩⟩

def analyzeReputation (_ : SecurityAnalysisRequest) : ReputationAnalysisResult := ⟨0,0,0⟩

def analyzeAnomalies (_ : SecurityAnalysisRequest) : AnomalyDetectionResult := ⟨0,false⟩

section Scores
variable (signatureMatches : List SignatureMatch) (behavioral : BehavioralAnalysisResult)
  (reputation : ReputationAnalysisResult) (anomaly : AnomalyDetectionResult)

def calculateThreatScore : ℚ :=
  let signatureScore := (signatureMatches.map (fun entry => entry.severity.weight)).sum / (max signatureMatches.length 1 : ℕ)
  min (signatureScore * (3/10) + behavioral.behaviorScore * (25/100) + reputation.reputationScore * (25/100) +
    anomaly.anomalyScore * (2/10)) 1

def calculateConfidence : ℚ :=
  let signatureConfidence := (signatureMatches.map SignatureMatch.confidence).sum / (max signatureMatches.length 1 : ℕ)
  let behavioralConfidence := 1 - behavioral.userProfiling.behavioralDeviation
  let reputationConfidence := 1 - |reputation.reputationScore|
  let anomalyConfidence := 1 - anomaly.anomalyScore
  min (signatureConfidence * (3/10) + behavioralConfidence * (25/100) + reputationConfidence * (25/100) +
    anomalyConfidence * (2/10)) 1

def identifyThreatTypes : List ThreatCategory :=
  ((signatureMatches.map SignatureMatch.category).insertionSort (fun one two => one.rank ≤ two.rank)).destutter (· ≠ ·)

end Scores

def determineRiskLevel (threatScore : ℚ) : RiskLevel :=
  if 9/10 ≤ threatScore then .critical
  else if 7/10 ≤ threatScore then .high
  else if 5/10 ≤ threatScore then .medium
  else if 3/10 ≤ threatScore then .low
  else .minimal

def determineRecommendedAction : RiskLevel → RecommendedAction
  | .critical => .quarantine
  | .high => .block
  | .medium => .challenge
  | .low => .monitor
  | .minimal => .allow

namespace SecurityEngine

-- `initialize_default_signatures`
def new : SecurityEngine where
  threatSignatures := [
    ⟨"sql_injection_union","SQL Injection - UNION Attack","UNION SELECT",.sqlInjection,.high,9/10,true⟩,
    ⟨"xss_script_tag","Cross-Site Scripting - Script Tag","<script",.crossSiteScripting,.medium,8/10,true⟩,
    ⟨"path_traversal_dotdot","Path Traversal - Directory Traversal","../",.pathTraversal,.high,85/100,true⟩]

variable (engine : SecurityEngine) (request : SecurityAnalysisRequest)

-- The parallel loop keeps the order; one panic is the panic of the whole.
def analyzeSignatures : Option (List SignatureMatch) :=
  ((engine.threatSignatures.filter ThreatSignature.enabled).mapM (fun signature => matchSignature signature request)).map
    (fun results => results.filterMap id)

def analyzeRequest : Option SecurityAnalysisResult :=
  (engine.analyzeSignatures request).map (fun signatureMatches =>
    let behavioral := analyzeBehavior request
    let reputation := analyzeReputation request
    let anomaly := analyzeAnomalies request
    let threatScore := calculateThreatScore signatureMatches behavioral reputation anomaly
    let riskLevel := determineRiskLevel threatScore
    { requestId := request.requestId
      threatScore
      riskLevel
      confidence := calculateConfidence signatureMatches behavioral reputation anomaly
      threatTypes := identifyThreatTypes signatureMatches
      recommendedAction := determineRecommendedAction riskLevel
      analysisDetails := ⟨signatureMatches,behavioral,reputation,anomaly⟩ })

end SecurityEngine

def patternFound (request : SecurityAnalysisRequest) (signature : ThreatSignature) : Bool :=
  contains (contentToCheck request) signature.pattern

def matching (signatures : List ThreatSignature) (request : SecurityAnalysisRequest) : List ThreatSignature :=
  (signatures.filter ThreatSignature.enabled).filter (patternFound request)

section Matching
variable {signatures : List ThreatSignature} {request : SecurityAnalysisRequest}

theorem matchSignature_cases (signature : ThreatSignature) (request : SecurityAnalysisRequest) :
    (patternFound request signature = false ∧ matchSignature signature request = some none) ∨
      (patternFound request signature = true ∧
        matchSignature signature request = (contextOf (contentToCheck request)).map (fun context =>
          some (matchOf signature (contentToCheck request) context))) := by
  cases here : contains (contentToCheck request) signature.pattern with
  | false => exact Or.inl ⟨here,by simp [matchSignature,here]⟩
  | true => exact Or.inr ⟨here,by simp [matchSignature,here]⟩

theorem mapM_weights (matched : signatures.mapM (fun signature => matchSignature signature request) = some results) :
    (results.filterMap id).map (fun entry => entry.severity.weight) =
      (signatures.filter (patternFound request)).map (fun signature => signature.severity.weight) := by
  induction signatures generalizing results with
  | nil =>
      cases matched
      rfl
  | cons signature rest ih =>
      rw [List.mapM_cons] at matched
      obtain ⟨first,here,later⟩ := Option.bind_eq_some_iff.mp matched
      obtain ⟨more,tail,same⟩ := Option.bind_eq_some_iff.mp later
      cases same
      have after := ih tail
      rcases matchSignature_cases signature request with ⟨absent,none⟩ | ⟨present,some'⟩
      · rw [none] at here
        cases here
        rw [List.filter_cons_of_neg (by rw [absent]; decide)]
        exact after
      · rw [some'] at here
        obtain ⟨context,_,rfl⟩ := Option.map_eq_some_iff.mp here
        rw [List.filter_cons_of_pos present]
        exact congrArg (signature.severity.weight :: ·) after

theorem matchSignature_isSome_iff (signature : ThreatSignature) (request : SecurityAnalysisRequest) :
    (matchSignature signature request).isSome = true ↔
      patternFound request signature = false ∨ (contextOf (contentToCheck request)).isSome = true := by
  rcases matchSignature_cases signature request with ⟨absent,none⟩ | ⟨present,some'⟩
  · rw [none]
    exact ⟨fun _ => Or.inl absent,fun _ => rfl⟩
  · rw [some',Option.isSome_map,present]
    exact (or_iff_right (by decide)).symm

theorem matches_isSome_iff : (signatures.mapM (fun signature => matchSignature signature request)).isSome = true ↔
    (contextOf (contentToCheck request)).isSome = true ∨ signatures.filter (patternFound request) = [] := by
  rw [mapM_isSome_iff,List.filter_eq_nil_iff]
  constructor
  · intro all
    by_cases cut : (contextOf (contentToCheck request)).isSome = true
    · exact Or.inl cut
    · right
      intro signature listed present
      rcases (matchSignature_isSome_iff signature request).mp (all signature listed) with absent | shown
      · rw [absent] at present
        cases present
      · exact cut shown
  · rintro (cut | none) signature listed
    · exact (matchSignature_isSome_iff signature request).mpr (Or.inr cut)
    · exact (matchSignature_isSome_iff signature request).mpr (Or.inl (Bool.eq_false_iff.mpr (none signature listed)))

end Matching

theorem weight_le (severity : ThreatSeverity) : severity.weight ≤ 9/10 := by
  cases severity <;> norm_num [ThreatSeverity.weight]

def weightsOf (signatures : List ThreatSignature) (request : SecurityAnalysisRequest) : List ℚ :=
  (matching signatures request).map (fun signature => signature.severity.weight)

theorem average_weightsOf_le (signatures : List ThreatSignature) (request : SecurityAnalysisRequest) :
    average (weightsOf signatures request) ≤ 9/10 := by
  by_cases none : weightsOf signatures request = []
  · rw [none]
    norm_num [average]
  · apply average_le none
    intro weight listed
    obtain ⟨signature,_,rfl⟩ := List.mem_map.mp listed
    exact weight_le signature.severity

theorem average_guarded (weights : List ℚ) : weights.sum / (max weights.length 1 : ℕ) = average weights := by
  cases weights with
  | nil => simp [average]
  | cons weight rest => rw [average,List.length_cons,Nat.max_eq_left (Nat.succ_pos _)]

theorem analyzeRequest_spec (engine : SecurityEngine) (analysed : engine.analyzeRequest request = some result) :
    result.threatScore = average (weightsOf engine.threatSignatures request) * (3/10) ∧ result.riskLevel = .minimal ∧
      result.recommendedAction = .allow := by
  obtain ⟨matches',signatures,rfl⟩ := Option.map_eq_some_iff.mp analysed
  obtain ⟨results,matched,rfl⟩ := Option.map_eq_some_iff.mp signatures
  have weights := mapM_weights matched
  have small := average_weightsOf_le engine.threatSignatures request
  have score : calculateThreatScore (results.filterMap id) (analyzeBehavior request) (analyzeReputation request)
      (analyzeAnomalies request) = average (weightsOf engine.threatSignatures request) * (3/10) := by
    have guarded := average_guarded (weightsOf engine.threatSignatures request)
    have length : (results.filterMap id).length = (weightsOf engine.threatSignatures request).length := by
      rw [weightsOf,matching,← weights,List.length_map]
    rw [calculateThreatScore]
    simp only [length]
    rw [weights,← matching,← weightsOf,guarded]
    simp only [analyzeBehavior,analyzeReputation,analyzeAnomalies,zero_mul,add_zero]
    apply min_eq_left
    linarith
  have risk : determineRiskLevel (average (weightsOf engine.threatSignatures request) * (3/10)) = .minimal := by
    rw [determineRiskLevel,if_neg (by linarith),if_neg (by linarith),if_neg (by linarith),if_neg (by linarith)]
  refine ⟨score,?_,?_⟩
  · simp only [score,risk]
  · simp only [score,risk]
    rfl

theorem analyzeRequest_isSome_iff (engine : SecurityEngine) (request : SecurityAnalysisRequest) :
    (engine.analyzeRequest request).isSome = true ↔ (contextOf (contentToCheck request)).isSome = true ∨
      matching engine.threatSignatures request = [] := by
  rw [SecurityEngine.analyzeRequest,SecurityEngine.analyzeSignatures,Option.isSome_map,Option.isSome_map,matches_isSome_iff]
  exact Iff.rfl

def HeedsCritical (signatures : List ThreatSignature) (request : SecurityAnalysisRequest) : Prop :=
  ∀ result, (SecurityEngine.mk signatures).analyzeRequest request = some result →
    (∃ signature ∈ matching signatures request, signature.severity = .critical) → result.recommendedAction ≠ .allow

def NeverLowers (before after : List ThreatSignature) (signature : ThreatSignature) (request : SecurityAnalysisRequest) :
    Prop :=
  ∀ less more, (SecurityEngine.mk (before ++ after)).analyzeRequest request = some less →
    (SecurityEngine.mk (before ++ signature :: after)).analyzeRequest request = some more →
    less.threatScore ≤ more.threatScore ∧ less.riskLevel.rank ≤ more.riskLevel.rank ∧
      less.recommendedAction.rank ≤ more.recommendedAction.rank

theorem heedsCritical_iff (signatures : List ThreatSignature) (request : SecurityAnalysisRequest) :
    HeedsCritical signatures request ↔ contextOf (contentToCheck request) = none ∨
      ∀ signature ∈ matching signatures request, signature.severity ≠ .critical := by
  have answered := analyzeRequest_isSome_iff (SecurityEngine.mk signatures) request
  constructor
  · intro heeds
    cases cut : contextOf (contentToCheck request) with
    | none => exact Or.inl rfl
    | some context =>
        right
        intro signature listed critical
        rw [cut] at answered
        obtain ⟨result,analysed⟩ := Option.isSome_iff_exists.mp (answered.mpr (Or.inl rfl))
        exact heeds result analysed ⟨signature,listed,critical⟩ (analyzeRequest_spec _ analysed).2.2
  · intro excused result analysed critical
    obtain ⟨signature,listed,severe⟩ := critical
    rcases excused with uncut | mild
    · rw [uncut,analysed] at answered
      rcases answered.mp rfl with cut | none
      · cases cut
      · have empty : matching signatures request = [] := none
        rw [empty] at listed
        cases listed
    · exact absurd severe (mild signature listed)

-- The mean falls with every weight below it.
theorem average_le_snoc_iff (weights : List ℚ) (weight : ℚ) :
    average weights ≤ average (weights ++ [weight]) ↔ average weights ≤ weight := by
  have count : (0 : ℚ) < weights.length + 1 := by positivity
  rw [average_append,le_div_iff₀ count,mul_add,mul_one,add_le_add_iff_left]

theorem weightsOf_insert (before after : List ThreatSignature) (enabled : signature.enabled = true)
    (present : patternFound request signature = true) :
    (weightsOf (before ++ signature :: after) request).Perm
      (weightsOf (before ++ after) request ++ [signature.severity.weight]) := by
  have inserted : matching (before ++ signature :: after) request =
      matching before request ++ signature :: matching after request := by
    rw [matching,List.filter_append,List.filter_append,List.filter_cons_of_pos enabled,List.filter_cons_of_pos present]
    rfl
  have joined : matching (before ++ after) request = matching before request ++ matching after request := by
    rw [matching,List.filter_append,List.filter_append]
    rfl
  have moved : (matching before request ++ signature :: matching after request).Perm
      (matching (before ++ after) request ++ [signature]) := by
    rw [joined]
    exact List.perm_middle.trans (List.perm_append_singleton signature _).symm
  have mapped := moved.map (fun entry => entry.severity.weight)
  rw [← inserted,List.map_append] at mapped
  exact mapped

theorem neverLowers_iff (before after : List ThreatSignature) (enabled : signature.enabled = true)
    (present : patternFound request signature = true) :
    NeverLowers before after signature request ↔ contextOf (contentToCheck request) = none ∨
      average (weightsOf (before ++ after) request) ≤ signature.severity.weight := by
  have mean := average_perm (weightsOf_insert before after enabled present)
  have rises := average_le_snoc_iff (weightsOf (before ++ after) request) signature.severity.weight
  rw [← mean] at rises
  constructor
  · intro lowers
    cases cut : contextOf (contentToCheck request) with
    | none => exact Or.inl rfl
    | some context =>
        have answered (signatures : List ThreatSignature) :
            ∃ result, (SecurityEngine.mk signatures).analyzeRequest request = some result := by
          apply Option.isSome_iff_exists.mp
          rw [analyzeRequest_isSome_iff,cut]
          exact Or.inl rfl
        obtain ⟨less,first⟩ := answered (before ++ after)
        obtain ⟨more,second⟩ := answered (before ++ signature :: after)
        have scores := (lowers less more first second).1
        rw [(analyzeRequest_spec _ first).1,(analyzeRequest_spec _ second).1] at scores
        exact Or.inr (rises.mp (le_of_mul_le_mul_right scores (by norm_num)))
  · intro excused less more first second
    obtain ⟨lessScore,lessRisk,lessAction⟩ := analyzeRequest_spec _ first
    obtain ⟨moreScore,moreRisk,moreAction⟩ := analyzeRequest_spec _ second
    rw [lessRisk,moreRisk,lessAction,moreAction,lessScore,moreScore]
    refine ⟨?_,le_refl _,le_refl _⟩
    rcases excused with uncut | above
    · have answered := (analyzeRequest_isSome_iff (SecurityEngine.mk (before ++ signature :: after)) request).mp
        (by rw [second]; rfl)
      rw [uncut] at answered
      have listed : signature ∈ matching (before ++ signature :: after) request :=
        List.mem_filter.mpr ⟨List.mem_filter.mpr ⟨by simp,enabled⟩,present⟩
      rcases answered with cut | none
      · cases cut
      · exact absurd none (List.ne_nil_of_mem listed)
    · exact mul_le_mul_of_nonneg_right (rises.mpr above) (by norm_num)

theorem signature_matches_exact (signatures : List ThreatSignature) (request : SecurityAnalysisRequest) :
    (HeedsCritical signatures request ↔ contextOf (contentToCheck request) = none ∨
      ∀ signature ∈ matching signatures request, signature.severity ≠ .critical) ∧
    ∀ before after signature, before ++ after = signatures → signature.enabled = true →
      patternFound request signature = true →
      (NeverLowers before after signature request ↔ contextOf (contentToCheck request) = none ∨
        average (weightsOf signatures request) ≤ signature.severity.weight) := by
  refine ⟨heedsCritical_iff signatures request,?_⟩
  intro before after signature parts enabled present
  rw [← parts]
  exact neverLowers_iff before after enabled present

def criticalSignature : ThreatSignature :=
  ⟨"shell","Shell command","/bin/sh",.commandInjection,.critical,9/10,true⟩

def shellRequest : SecurityAnalysisRequest := ⟨"1","curl","/run?cmd=/bin/sh",[]⟩

def parameterSignature : ThreatSignature :=
  ⟨"cmd","Command parameter","cmd=",.commandInjection,.low,5/10,true⟩

-- Both are found. The critical one raises what the low one scores, and not the other way
-- round.
theorem signature_matches_exact_shell : NeverLowers [parameterSignature] [] criticalSignature shellRequest ∧
    ¬NeverLowers [criticalSignature] [] parameterSignature shellRequest := by
  have low : matching [parameterSignature] shellRequest = [parameterSignature] := rfl
  have critical : matching [criticalSignature] shellRequest = [criticalSignature] := rfl
  constructor
  · refine ((signature_matches_exact [parameterSignature] shellRequest).2 [parameterSignature] [] criticalSignature rfl
      rfl (by decide)).mpr (Or.inr ?_)
    rw [weightsOf,low]
    norm_num [average,criticalSignature,parameterSignature,ThreatSeverity.weight]
  · rw [(signature_matches_exact [criticalSignature] shellRequest).2 [criticalSignature] [] parameterSignature rfl rfl
      (by decide),weightsOf,critical]
    rintro (uncut | raises)
    · exact absurd uncut (by decide)
    · norm_num [average,criticalSignature,parameterSignature,ThreatSeverity.weight] at raises

-- The only signature is critical and found, and the request is allowed.
theorem critical_match_allowed : ¬HeedsCritical [criticalSignature] shellRequest := by
  rw [heedsCritical_iff]
  rintro (uncut | mild)
  · exact absurd uncut (by decide)
  · have present : patternFound shellRequest criticalSignature = true := by decide
    exact mild criticalSignature (List.mem_filter.mpr ⟨List.mem_filter.mpr ⟨List.mem_singleton_self _,rfl⟩,present⟩) rfl

end PhantomFlow.Security
