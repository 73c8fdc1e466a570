import Mathlib.Algebra.BigOperators.Group.List.Basic
import Mathlib.Data.List.Sort
import PhantomFlow.Library.JsNumber
import PhantomFlow.Library.OrderedMap

namespace PhantomFlow.Markov
open Library

inductive BehavioralActionType where
  | page_view | page_exit | redirect | back_button | refresh | scroll
  | login_attempt | login_success | login_failure | logout | session_timeout
  | search | click | form_submit | download | upload | api_call
  | error_404 | error_500 | error_403 | timeout | network_error
  | rate_limit_hit | suspicious_activity | blocked_request | captcha_challenge
  | idle | active | focus_lost | focus_gained | tab_switch
  deriving DecidableEq

def BehavioralActionType.text : BehavioralActionType → String
  | .page_view => "page_view" | .page_exit => "page_exit" | .redirect => "redirect"
  | .back_button => "back_button" | .refresh => "refresh" | .scroll => "scroll"
  | .login_attempt => "login_attempt" | .login_success => "login_success" | .login_failure => "login_failure"
  | .logout => "logout" | .session_timeout => "session_timeout" | .search => "search" | .click => "click"
  | .form_submit => "form_submit" | .download => "download" | .upload => "upload" | .api_call => "api_call"
  | .error_404 => "error_404" | .error_500 => "error_500" | .error_403 => "error_403" | .timeout => "timeout"
  | .network_error => "network_error" | .rate_limit_hit => "rate_limit_hit"
  | .suspicious_activity => "suspicious_activity" | .blocked_request => "blocked_request"
  | .captcha_challenge => "captcha_challenge" | .idle => "idle" | .active => "active"
  | .focus_lost => "focus_lost" | .focus_gained => "focus_gained" | .tab_switch => "tab_switch"

inductive BehavioralContext where
  | normal | suspicious | authenticated | anonymous | privileged | restricted
  deriving DecidableEq

def BehavioralContext.text : BehavioralContext → String
  | .normal => "normal" | .suspicious => "suspicious" | .authenticated => "authenticated"
  | .anonymous => "anonymous" | .privileged => "privileged" | .restricted => "restricted"

structure BehavioralState (K : Type) where
  action : BehavioralActionType
  context : BehavioralContext
  timestamp : ℤ
  duration : Option K

-- The encoder key `action:context`, kept as the pair it is made of.
abbrev StateKey := BehavioralActionType × BehavioralContext

def keyText (key : StateKey) : String := key.1.text ++ ":" ++ key.2.text

-- A state code `S12` is its number and a context `S3|S12` the list of its codes;
-- the texts determine them.
abbrev Code := ℕ

def codeText (code : Code) : String := "S" ++ toString code
def contextText (context : List Code) : String := String.intercalate "|" (context.map codeText)

structure StateTransition (K : Type) where
  source : List Code
  target : Code
  probability : JsonNumber K
  count : ℕ
  lastSeen : ℤ
  confidence : K
  avgDuration : K
  minDuration : JsonNumber K
  maxDuration : K
  contexts : List BehavioralContext
  deriving DecidableEq

abbrev Row (K : Type) := OrderedMap Code (StateTransition K)

structure TransitionMatrix (K : Type) where
  states : List Code
  transitions : OrderedMap (List Code) (Row K)
  totalTransitions : ℕ
  lastUpdated : ℤ
  deriving DecidableEq

inductive MarkovOrder where
  | first | second | third
  deriving DecidableEq

def MarkovOrder.value : MarkovOrder → ℕ
  | .first => 1
  | .second => 2
  | .third => 3

structure MarkovChainConfig (K : Type) where
  order : MarkovOrder
  smoothingParameter : K
  pruningThreshold : ℚ
  maxStates : ℚ
  memoryLimit : ℚ
  deriving DecidableEq

structure MarkovChain (K : Type) where
  config : MarkovChainConfig K
  transitionMatrix : TransitionMatrix K
  stateEncoder : OrderedMap StateKey Code
  stateDecoder : OrderedMap Code StateKey
  stateCounter : ℕ
  deriving DecidableEq

inductive RiskLevel where
  | low | medium | high | critical
  deriving DecidableEq

structure PredictedState (K : Type) where
  state : String
  probability : JsonNumber K
  confidence : K
  historicalCount : ℕ
  avgDuration : K
  riskLevel : RiskLevel
  contexts : List BehavioralContext
  deriving DecidableEq

structure SequencePrediction (K : Type) where
  nextStates : List (PredictedState K)
  predictionConfidence : JsNumber K
  anomalyScore : JsNumber K
  isAnomalous : Bool
  reasoning : List String
  alternatives : List String
  deriving DecidableEq

inductive ViolationType where
  | impossible_transition | timing_violation | order_violation
  deriving DecidableEq

structure Violation where
  type : ViolationType
  description : String
  severity : RiskLevel
  position : ℕ
  actual : String
  deriving DecidableEq

structure SequenceValidationResult (K : Type) where
  isValid : Bool
  confidence : K
  violations : List Violation
  suggestions : List String
  deriving DecidableEq

structure Statistics where
  totalStates : ℕ
  totalTransitions : ℕ
  averageTransitionsPerState : ℚ
  memoryUsage : ℕ
  lastUpdated : ℤ
  deriving DecidableEq

def initializeTransitionMatrix (now : ℤ) : TransitionMatrix K := ⟨[],.empty,0,now⟩

namespace MarkovChain

def create (config : MarkovChainConfig K) (now : ℤ) : MarkovChain K :=
  ⟨config,initializeTransitionMatrix now,.empty,.empty,0⟩

variable {K : Type} (chain : MarkovChain K)

def clear (now : ℤ) : MarkovChain K := create chain.config now

def keyOf (state : BehavioralState K) : StateKey := (state.action,state.context)

-- An unseen state is registered by whoever encodes it.
def encodeState (state : BehavioralState K) : Code × MarkovChain K :=
  match chain.stateEncoder.get (keyOf state) with
  | some code => (code,chain)
  | none =>
    let code := chain.stateCounter
    let states := chain.transitionMatrix.states
    (code,{ chain with
      stateCounter := chain.stateCounter + 1
      stateEncoder := chain.stateEncoder.set (keyOf state) code
      stateDecoder := chain.stateDecoder.set code (keyOf state)
      transitionMatrix := { chain.transitionMatrix with
        states := if code ∈ states then states else states ++ [code] } })

def encodeStates (chain : MarkovChain K) : List (BehavioralState K) → List Code × MarkovChain K
  | [] => ([],chain)
  | state :: rest =>
    let first := chain.encodeState state
    let others := first.2.encodeStates rest
    (first.1 :: others.1,others.2)

theorem encodeState_transitions (state : BehavioralState K) :
    (chain.encodeState state).2.config = chain.config ∧
      (chain.encodeState state).2.transitionMatrix.transitions = chain.transitionMatrix.transitions := by
  unfold encodeState
  split <;> exact ⟨rfl,rfl⟩

theorem encodeStates_transitions (chain : MarkovChain K) (states : List (BehavioralState K)) :
    (chain.encodeStates states).2.config = chain.config ∧
      (chain.encodeStates states).2.transitionMatrix.transitions = chain.transitionMatrix.transitions := by
  induction states generalizing chain with
  | nil => exact ⟨rfl,rfl⟩
  | cons state rest ih =>
      obtain ⟨config,transitions⟩ := chain.encodeState_transitions state
      obtain ⟨config',transitions'⟩ := ih (chain.encodeState state).2
      exact ⟨config'.trans config,transitions'.trans transitions⟩

def decodeState (code : Code) : String :=
  match chain.stateDecoder.get code with
  | some key => keyText key
  | none => codeText code

def buildContext (codes : List Code) (startIndex : ℕ) : List Code :=
  (codes.drop startIndex).take chain.config.order.value

def calculateMemoryUsage : ℕ :=
  chain.transitionMatrix.states.length * 50 +
    (chain.transitionMatrix.transitions.values.map (fun row => row.size * 200)).sum

def shouldPrune : Bool :=
  decide (chain.config.maxStates < chain.transitionMatrix.states.length) ||
    decide (chain.config.memoryLimit < chain.calculateMemoryUsage)

def keeps (transition : StateTransition K) : Bool :=
  !decide ((transition.count : ℚ) < chain.config.pruningThreshold)

-- Rare transitions go, and rows that become empty; the other probabilities stay.
def pruneTransitions : MarkovChain K :=
  { chain with transitionMatrix := { chain.transitionMatrix with
    transitions := (chain.transitionMatrix.transitions.map (fun _ row =>
      row.filter (fun _ transition => chain.keeps transition))).filter (fun _ row => decide (row.size ≠ 0)) } }

def getStatistics : Statistics :=
  let totalStates := chain.transitionMatrix.states.length
  let totalTransitions := (chain.transitionMatrix.transitions.values.map OrderedMap.size).sum
  { totalStates
    totalTransitions
    averageTransitionsPerState := if 0 < totalStates then totalTransitions / totalStates else 0
    memoryUsage := chain.calculateMemoryUsage
    lastUpdated := chain.transitionMatrix.lastUpdated }

variable [Field K] [LinearOrder K]

section Learning
variable (math : JsMath K) (now : ℤ)

def newTransition (source : List Code) (target : Code) : StateTransition K where
  source
  target
  probability := .number (.finite 0)
  count := 0
  lastSeen := now
  confidence := 0
  avgDuration := 0
  minDuration := .number .posInf
  maxDuration := 0
  contexts := []

def recordDuration (transition : StateTransition K) (duration : K) : StateTransition K :=
  if 0 < duration then
    { transition with
      avgDuration := (transition.avgDuration * (transition.count - 1) + duration) / transition.count
      minDuration := .number (transition.minDuration.toNumber.min (.finite duration))
      maxDuration := max transition.maxDuration duration }
  else transition

def observe (transition : StateTransition K) (state : BehavioralState K) : StateTransition K :=
  let counted := { transition with count := transition.count + 1, lastSeen := now }
  let timed := recordDuration counted (state.duration.getD 0)
  { timed with
    contexts := if state.context ∈ timed.contexts then timed.contexts else timed.contexts ++ [state.context] }

def calculateRecencyFactor (lastSeen : ℤ) : K :=
  math.exp (-(((now - lastSeen : ℤ) : K) / lit (1000 * 60 * 60)) / lit (24 * 7))

def totalCount (row : Row K) : ℕ := (row.values.map StateTransition.count).sum

-- Laplace smoothing over the whole row.
def updateProbabilities (row : Row K) : Row K :=
  let denominator := totalCount row + chain.config.smoothingParameter * row.size
  row.map (fun _ transition =>
    { transition with
      probability := .number (.div (transition.count + chain.config.smoothingParameter) denominator)
      confidence := min (lit (95/100))
        ((transition.count / lit 100) * calculateRecencyFactor math now transition.lastSeen) })

theorem updateProbabilities_counts (row : Row K) :
    (chain.updateProbabilities math now row).values.map StateTransition.count = row.values.map StateTransition.count := by
  rw [updateProbabilities,OrderedMap.values_map,List.map_map]
  rfl

theorem totalCount_updateProbabilities (row : Row K) :
    totalCount (chain.updateProbabilities math now row) = totalCount row :=
  congrArg List.sum (chain.updateProbabilities_counts math now row)

theorem size_updateProbabilities (row : Row K) : (chain.updateProbabilities math now row).size = row.size := by
  simp [updateProbabilities,OrderedMap.map,OrderedMap.size]

theorem observe_count (transition : StateTransition K) (state : BehavioralState K) :
    (observe now transition state).count = transition.count + 1 := by
  simp only [observe,recordDuration]
  split <;> rfl

def updateTransition (context : List Code) (nextState : Code) (state : BehavioralState K) : MarkovChain K :=
  let transitions := chain.transitionMatrix.transitions
  let row := (transitions.get context).getD .empty
  let transition := (row.get nextState).getD (newTransition now context nextState)
  { chain with transitionMatrix := { chain.transitionMatrix with
    transitions := transitions.set context
      (chain.updateProbabilities math now (row.set nextState (observe now transition state))) } }

-- One window of the encoded sequence: `order` codes of context and the state after
-- them.
def learnWindow (codes : List Code) (sequence : List (BehavioralState K)) (chain : MarkovChain K) (i : ℕ) :
    MarkovChain K :=
  match codes[i + chain.config.order.value]?,sequence[i + chain.config.order.value]? with
  | some nextState,some state => chain.updateTransition math now (chain.buildContext codes i) nextState state
  | _,_ => chain

-- Everything of `learnSequence` up to the pruning test.
def recordSequence (sequence : List (BehavioralState K)) : MarkovChain K :=
  let encoded := chain.encodeStates sequence
  let learned := (List.range (sequence.length - chain.config.order.value)).foldl
    (learnWindow math now encoded.1 sequence) encoded.2
  { learned with transitionMatrix := { learned.transitionMatrix with
    totalTransitions := learned.transitionMatrix.totalTransitions + 1
    lastUpdated := now } }

theorem learnWindows_keep (holds : MarkovChain K → Prop)
    (update : ∀ chain context nextState state, holds chain →
      holds (updateTransition chain math now context nextState state))
    (codes : List Code) (sequence : List (BehavioralState K)) (positions : List ℕ) (start : holds chain) :
    holds (positions.foldl (learnWindow math now codes sequence) chain) := by
  induction positions generalizing chain with
  | nil => exact start
  | cons i rest ih =>
      apply ih
      unfold learnWindow
      split
      · exact update _ _ _ _ start
      · exact start

theorem recordSequence_encoder (chain : MarkovChain K) (sequence : List (BehavioralState K)) :
    (chain.recordSequence math now sequence).stateEncoder = (chain.encodeStates sequence).2.stateEncoder ∧
      (chain.recordSequence math now sequence).stateCounter = (chain.encodeStates sequence).2.stateCounter ∧
      (chain.recordSequence math now sequence).transitionMatrix.states =
        (chain.encodeStates sequence).2.transitionMatrix.states := by
  let registered (learned : MarkovChain K) : Prop :=
    learned.stateEncoder = (chain.encodeStates sequence).2.stateEncoder ∧
      learned.stateCounter = (chain.encodeStates sequence).2.stateCounter ∧
      learned.transitionMatrix.states = (chain.encodeStates sequence).2.transitionMatrix.states
  have windows := (chain.encodeStates sequence).2.learnWindows_keep math now registered (fun _ _ _ _ kept => kept)
    (chain.encodeStates sequence).1 sequence (List.range (sequence.length - chain.config.order.value)) ⟨rfl,rfl,rfl⟩
  exact windows

def learnSequence (sequence : List (BehavioralState K)) : MarkovChain K :=
  if sequence.length < chain.config.order.value + 1 then chain
  else
    let recorded := chain.recordSequence math now sequence
    if recorded.shouldPrune then recorded.pruneTransitions else recorded

theorem learnSequence_keeps (holds : MarkovChain K → Prop) {sequence : List (BehavioralState K)} (start : holds chain)
    (recorded : holds (chain.recordSequence math now sequence))
    (pruned : holds (chain.recordSequence math now sequence).pruneTransitions) :
    holds (chain.learnSequence math now sequence) := by
  unfold learnSequence
  split
  · exact start
  · dsimp only
    split
    · exact pruned
    · exact recorded

end Learning

section Queries
variable (math : JsMath K)

def calculateRiskLevel (transition : StateTransition K) : RiskLevel :=
  if .suspicious ∈ transition.contexts then .critical
  else if .restricted ∈ transition.contexts then .high
  else if transition.probability.toNumber.lt (.finite (lit (1/10))) then .medium
  else .low

def calculateAnomalyScore (predictions : List (PredictedState K)) : JsNumber K :=
  match predictions with
  | [] => .finite 1
  | top :: _ =>
    let entropy := predictions.foldl (fun sum prediction =>
      let probability := prediction.probability.toNumber
      if (JsNumber.finite 0).lt probability
      then sum.add (probability.mul (probability.logarithm math.log2)).neg
      else sum) (JsNumber.finite 0)
    let spread := entropy.quotient ((JsNumber.finite (predictions.length : K)).logarithm math.log2)
    (JsNumber.finite 1).min (spread.add ((JsNumber.finite 1).add top.probability.toNumber.neg))

def getDefaultPrediction (reason : String) : SequencePrediction K :=
  ⟨[],.finite 0,.finite (lit (1/2)),false,[reason],[]⟩

def checkTimingViolation (state1 state2 : BehavioralState K) : Option Violation :=
  let timeDiff := state2.timestamp - state1.timestamp
  if timeDiff < 100 then
    some ⟨.timing_violation,"Events too close together: " ++ toString timeDiff ++ "ms",.medium,0,
      toString timeDiff ++ "ms"⟩
  else none

def predictions (row : Row K) : List (PredictedState K) :=
  (row.entries.map (fun entry =>
    { state := chain.decodeState entry.1
      probability := entry.2.probability
      confidence := entry.2.confidence
      historicalCount := entry.2.count
      avgDuration := entry.2.avgDuration
      riskLevel := calculateRiskLevel entry.2
      contexts := entry.2.contexts })).insertionSort (fun a b =>
        a.probability.toNumber.lt b.probability.toNumber = false)

variable [FloorRing K]

def generateReasoning (predictions : List (PredictedState K)) : List String :=
  match predictions with
  | [] => ["No historical data for this behavior sequence"]
  | top :: _ =>
    ["Based on " ++ toString top.historicalCount ++ " similar sequences",
      "Confidence: " ++ JsNumber.toFixedNumber 1 (top.confidence * lit 100) ++ "%"] ++
    if top.probability.toNumber.lt (.finite (lit (3/10))) then ["Low probability indicates unusual behavior"] else []

def predictFrom (row : Row K) : SequencePrediction K :=
  match chain.predictions row with
  | [] => getDefaultPrediction "No learned transitions for this context"
  | top :: rest =>
    let sortedTransitions := top :: rest
    let totalProbability := sortedTransitions.foldl (fun sum prediction =>
      sum.add prediction.probability.toNumber) (JsNumber.finite 0)
    let anomalyScore := calculateAnomalyScore math sortedTransitions
    { nextStates := sortedTransitions.take 5
      predictionConfidence :=
        if (JsNumber.finite 0).lt totalProbability then top.probability.toNumber.quotient totalProbability
        else .finite 0
      anomalyScore
      isAnomalous := (JsNumber.finite (lit (7/10))).lt anomalyScore
      reasoning := generateReasoning sortedTransitions
      alternatives := [] }

def predictNext (recentStates : List (BehavioralState K)) : SequencePrediction K × MarkovChain K :=
  let order := chain.config.order.value
  if recentStates.length < order then (getDefaultPrediction "Insufficient context for prediction",chain)
  else
    let encoded := chain.encodeStates (recentStates.drop (recentStates.length - order))
    (match encoded.2.transitionMatrix.transitions.get encoded.1 with
      | none => getDefaultPrediction "No learned transitions for this context"
      | some row => encoded.2.predictFrom math row,encoded.2)

-- The check of one window. `toFixed` throws on a probability that is `null`.
def checkTransition (codes : List Code) (i : ℕ) (nextState : Code) : Except Unit (List Violation) :=
  let context := chain.buildContext codes i
  let position := i + chain.config.order.value
  match (chain.transitionMatrix.transitions.get context).bind (fun row => row.get nextState) with
  | none => .ok [⟨.impossible_transition,
      "No learned transition from " ++ contextText context ++ " to " ++ chain.decodeState nextState,
      .high,position,chain.decodeState nextState⟩]
  | some transition =>
    if transition.probability.toNumber.lt (.finite (lit (1/10))) then
      match transition.probability with
      | .null => .error ()
      | .number probability => .ok [⟨.impossible_transition,
          "Very low probability transition (" ++ probability.toFixed 3 ++ ")",
          .medium,position,chain.decodeState nextState⟩]
    else .ok []

def checkWindow (codes : List Code) (sequence : List (BehavioralState K)) (i : ℕ) : Except Unit (List Violation) := do
  let impossible ← match codes[i + chain.config.order.value]? with
    | some nextState => chain.checkTransition codes i nextState
    | none => .ok []
  let timing := if 0 < i then
      match sequence[i]?,sequence[i + 1]? with
      | some state1,some state2 => (checkTimingViolation state1 state2).toList
      | _,_ => []
    else []
  return impossible ++ timing

def validationOf (violations : List Violation) : SequenceValidationResult K where
  isValid := (violations.filter (fun violation =>
    violation.severity = .high ∨ violation.severity = .critical)).length = 0
  confidence := max 0 (1 - violations.length * lit (2/10))
  violations
  suggestions := []

def validateSequence (sequence : List (BehavioralState K)) : SequenceValidationResult K × MarkovChain K :=
  if sequence.length < 2 then (⟨true,lit (1/2),[],["Sequence too short for validation"]⟩,chain)
  else
    let encoded := chain.encodeStates sequence
    (match (List.range (sequence.length - chain.config.order.value)).mapM
        (encoded.2.checkWindow encoded.1 sequence) with
      | .ok found => validationOf found.flatten
      | .error _ => ⟨false,0,[⟨.order_violation,"Validation error occurred",.critical,0,"error"⟩],[]⟩,encoded.2)

end Queries
end MarkovChain

-- The JSON image: maps as entry lists, dates as ISO strings of the millisecond,
-- numbers that are not finite as `null`.
structure MarkovImage (K : Type) where
  config : MarkovChainConfig K
  states : List Code
  transitions : List (List Code × List (Code × StateTransition K))
  totalTransitions : ℕ
  lastUpdated : ℤ
  stateEncoder : List (StateKey × Code)
  stateDecoder : List (Code × StateKey)
  stateCounter : ℕ

def StateTransition.throughJson (transition : StateTransition K) : StateTransition K :=
  { transition with
    probability := transition.probability.throughJson
    minDuration := transition.minDuration.throughJson }

namespace MarkovChain

def serialize (chain : MarkovChain K) : MarkovImage K where
  config := chain.config
  states := chain.transitionMatrix.states
  transitions := chain.transitionMatrix.transitions.entries.map (fun entry =>
    (entry.1,entry.2.entries.map (fun inner => (inner.1,inner.2.throughJson))))
  totalTransitions := chain.transitionMatrix.totalTransitions
  lastUpdated := chain.transitionMatrix.lastUpdated
  stateEncoder := chain.stateEncoder.entries
  stateDecoder := chain.stateDecoder.entries
  stateCounter := chain.stateCounter

def deserialize (image : MarkovImage K) : MarkovChain K where
  config := image.config
  transitionMatrix :=
    { states := image.states
      transitions := .ofList (image.transitions.map (fun entry => (entry.1,OrderedMap.ofList entry.2)))
      totalTransitions := image.totalTransitions
      lastUpdated := image.lastUpdated }
  stateEncoder := .ofList image.stateEncoder
  stateDecoder := .ofList image.stateDecoder
  stateCounter := image.stateCounter

end MarkovChain

-- `reload` is `deserialize(serialize(chain))`.
inductive Operation (K : Type) where
  | learnSequence (now : ℤ) (sequence : List (BehavioralState K))
  | predictNext (recentStates : List (BehavioralState K))
  | validateSequence (sequence : List (BehavioralState K))
  | getStatistics
  | clear (now : ℤ)
  | reload

inductive Reply (K : Type) where
  | prediction (result : SequencePrediction K)
  | validation (result : SequenceValidationResult K)
  | statistics (result : Statistics)
  | done
  deriving DecidableEq

def step [Field K] [LinearOrder K] [FloorRing K] (math : JsMath K) (chain : MarkovChain K) :
    Operation K → MarkovChain K × Reply K
  | .learnSequence now sequence => (chain.learnSequence math now sequence,.done)
  | .predictNext recentStates =>
    let answered := chain.predictNext math recentStates
    (answered.2,.prediction answered.1)
  | .validateSequence sequence =>
    let answered := chain.validateSequence sequence
    (answered.2,.validation answered.1)
  | .getStatistics => (chain,.statistics chain.getStatistics)
  | .clear now => (chain.clear now,.done)
  | .reload => (.deserialize chain.serialize,.done)

def MarkovChain.queried (chain : MarkovChain K) : Operation K → List (BehavioralState K)
  | .predictNext recentStates =>
    if recentStates.length < chain.config.order.value then []
    else recentStates.drop (recentStates.length - chain.config.order.value)
  | .validateSequence sequence => if sequence.length < 2 then [] else sequence
  | _ => []

theorem predictNext_state [Field K] [LinearOrder K] [FloorRing K] (math : JsMath K) (chain : MarkovChain K)
    (recentStates : List (BehavioralState K)) :
    (chain.predictNext math recentStates).2 = (chain.encodeStates (chain.queried (.predictNext recentStates))).2 := by
  unfold MarkovChain.predictNext MarkovChain.queried
  dsimp only
  split <;> rfl

theorem validateSequence_state [Field K] [LinearOrder K] [FloorRing K] (chain : MarkovChain K)
    (sequence : List (BehavioralState K)) :
    (chain.validateSequence sequence).2 = (chain.encodeStates (chain.queried (.validateSequence sequence))).2 := by
  unfold MarkovChain.validateSequence MarkovChain.queried
  dsimp only
  split <;> rfl

theorem deserialize_transitions (chain : MarkovChain K) :
    (MarkovChain.deserialize chain.serialize).transitionMatrix.transitions =
      chain.transitionMatrix.transitions.map (fun _ row => row.map (fun _ => StateTransition.throughJson)) := by
  have rows : chain.serialize.transitions.map (fun entry => (entry.1,OrderedMap.ofList entry.2)) =
      (chain.transitionMatrix.transitions.map
        (fun _ row => row.map (fun _ => StateTransition.throughJson))).entries := by
    simp only [MarkovChain.serialize,OrderedMap.map,List.map_map]
    apply List.map_congr_left
    intro entry _
    exact congrArg (Prod.mk entry.1) (OrderedMap.ofList_entries (entry.2.map (fun _ => StateTransition.throughJson)))
  exact (congrArg OrderedMap.ofList rows).trans (OrderedMap.ofList_entries _)

end PhantomFlow.Markov
