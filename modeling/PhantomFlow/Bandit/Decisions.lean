import PhantomFlow.Bandit.ThompsonSampling

namespace PhantomFlow.Bandit
open Library Library.Machine

structure GraphRecord where
  riskScore : Option (JsNumber ℚ)
  daysSinceLastSeen : Option (JsNumber ℚ)
  totalSessions : Option (JsNumber ℚ)
  totalFailedLogins : Option (JsNumber ℚ)

structure ReputationFeatures where
  neo4jRiskScore : Option (JsNumber ℚ)
  totalSessions : JsNumber ℚ
  totalFailedLogins : JsNumber ℚ
  daysSinceLastSeen : JsNumber ℚ

structure ReputationResult where
  score : JsNumber ℚ
  tier : ReputationTier
  context : BanditContext
  features : ReputationFeatures

namespace UserReputationService

def threatBuckets : ℚ × ℚ := (3/10,7/10)

def reputationThresholds : ℚ × ℚ := (4/10,7/10)

def calculateScore (features : ReputationFeatures) : JsNumber ℚ :=
  let score := match features.neo4jRiskScore with
    | some risk => (JsNumber.finite (7/10)).add (risk.scale (3/10)).neg
    | none => .finite (7/10)
  let score := if (JsNumber.finite 0).lt features.totalFailedLogins
    then score.add ((features.totalFailedLogins.scale (5/100)).min (.finite (3/10))).neg else score
  let score := if (JsNumber.finite 10).lt features.totalSessions then score.shift (1/10) else score
  let score := if features.daysSinceLastSeen.lt (.finite 7) then score.shift (1/10)
    else if (JsNumber.finite 90).lt features.daysSinceLastSeen then score.shift (-1/10) else score
  (JsNumber.finite 0).max ((JsNumber.finite 1).min score)

-- Only the lower threshold is read from the configuration.
def getTier (score : JsNumber ℚ) : ReputationTier :=
  if (JsNumber.finite (7/10)).lt score then .trusted
  else if (JsNumber.finite reputationThresholds.1).lt score then .unknown
  else .suspicious

-- No record stands for a user the graph does not know, or a graph that is not
-- there.
def readFeatures : Option GraphRecord → ReputationFeatures
  | none => ⟨none,.finite 0,.finite 0,.finite 999⟩
  | some record =>
    ⟨record.riskScore,record.totalSessions.getD (.finite 0),record.totalFailedLogins.getD (.finite 0),
      match record.daysSinceLastSeen with
      | some days => (JsNumber.finite 0).max days.round
      | none => .finite 999⟩

def computeReputation (record : Option GraphRecord) : ReputationResult :=
  let features := readFeatures record
  let score := calculateScore features
  let tier := getTier score
  ⟨score,tier,⟨.low,tier⟩,features⟩

def updateThreatBucket (context : BanditContext) (threatScore : JsNumber ℚ) : BanditContext :=
  let bucket := if threatScore.le (.finite threatBuckets.1) then .low
    else if threatScore.le (.finite threatBuckets.2) then .medium
    else .high
  ⟨bucket,context.reputationTier⟩

end UserReputationService

-- What executing an action meets: whether an answer is already on its way, how the
-- redirect to the honeypot ends, and how the response engine ends where there is one.
structure Execution where
  headersSent : Bool
  diverted : Bool
  responseEngine : Option Bool

-- One request: the record its reputation was computed from, now or while it is
-- cached, the score of its assessment, and the draws and execution it meets.
structure Call where
  record : Option GraphRecord
  threatScore : JsNumber ℚ
  draws : Draws
  execution : Execution

def Call.context (call : Call) : BanditContext :=
  UserReputationService.updateThreatBucket (UserReputationService.computeReputation call.record).context call.threatScore

def BanditActionType.name : BanditActionType → String
  | .allow => "allow"
  | .monitor => "monitor"
  | .warn => "warn"
  | .restrict => "restrict"
  | .block => "block"
  | .isolate => "isolate"
  | .divert => "divert"

def ThreatBucket.name : ThreatBucket → String
  | .low => "low"
  | .medium => "medium"
  | .high => "high"

def ReputationTier.name : ReputationTier → String
  | .trusted => "trusted"
  | .unknown => "unknown"
  | .suspicious => "suspicious"

def contextKey (ctx : BanditContext) : String :=
  "threat_" ++ ctx.threatBucket.name ++ "_reputation_" ++ ctx.reputationTier.name

structure BanditDecision where
  action : BanditActionType
  contextKey : String
  confidence : JsNumber ℚ
  sufficientData : Bool
  executed : Bool
  reason : String

-- A decision between its two halves: the action is chosen before it is executed,
-- and rewarded after.
structure Selected where
  context : BanditContext
  action : BanditActionType
  threatScore : JsNumber ℚ

structure AdaptiveDecisionEngine where
  bandit : ThompsonSampling
  config : BanditConfiguration

namespace AdaptiveDecisionEngine
variable (engine : AdaptiveDecisionEngine)

def executeAction (action : BanditActionType) (execution : Execution) : Bool :=
  if execution.headersSent then false
  else match action with
    | .allow => true
    | .divert => execution.diverted
    | .monitor | .warn | .restrict | .block | .isolate => execution.responseEngine.getD true

def actionSeverity (action : BanditActionType) : ℚ :=
  (BANDIT_ACTIONS.idxOf action : ℚ) / ((BANDIT_ACTIONS.length : ℚ) - 1)

def computeImmediateReward (action : BanditActionType) (threatScore : JsNumber ℚ) (executed : Bool) : ℚ :=
  if executed then
    let weights := engine.config.rewardWeights
    let severity := actionSeverity action
    let reward := if (JsNumber.finite (7/10)).lt threatScore && decide (1/2 ≤ severity) then weights.truePositive else 0
    let reward := if threatScore.le (.finite (3/10)) && decide (action = .allow)
      then reward + weights.userSatisfaction else reward
    let reward := if action = .allow then reward + weights.resourceCost else reward
    let reward := reward + weights.threatReduction * (1 - severity)
    max 0 (min 1 reward)
  else 0

def choose (call : Call) : Option Selected :=
  if engine.bandit.hasSufficientData call.context
  then some ⟨call.context,engine.bandit.selectAction call.context call.draws,call.threatScore⟩
  else none

def fallback (ctx : BanditContext) : BanditDecision :=
  ⟨.monitor,contextKey ctx,.finite 0,false,false,"Insufficient bandit data — using fallback tier system"⟩

def finish (selected : Selected) (execution : Execution) : AdaptiveDecisionEngine × BanditDecision :=
  let executed := executeAction selected.action execution
  let reward := engine.computeImmediateReward selected.action selected.threatScore executed
  let bandit := engine.bandit.updateReward selected.context selected.action reward
  let confidence := bandit.confidence selected.context selected.action
  ({ engine with bandit },
    ⟨selected.action,contextKey selected.context,confidence,true,executed,
      "Bandit selected " ++ selected.action.name ++ " with probability " ++ (confidence.scale 100).toFixed 0 ++ "%"⟩)

def decideAndExecute (call : Call) : AdaptiveDecisionEngine × BanditDecision :=
  match engine.choose call with
  | none => (engine,fallback call.context)
  | some selected => engine.finish selected call.execution

end AdaptiveDecisionEngine

def TakenFromBandit (engine : AdaptiveDecisionEngine) (call : Call) : Prop :=
  (engine.decideAndExecute call).2.sufficientData = true ∧
    (engine.decideAndExecute call).2.action = engine.bandit.selectAction call.context call.draws

def LeavesColdStart (engine : AdaptiveDecisionEngine) (ctx : BanditContext) : Prop :=
  ∃ enough, ∀ calls : List Call, (∀ call ∈ calls, call.context = ctx) → enough ≤ calls.length →
    ∃ before after, calls = before ++ after ∧
      (exec AdaptiveDecisionEngine.decideAndExecute engine before).1.bandit.hasSufficientData ctx = true ∧
      Along AdaptiveDecisionEngine.decideAndExecute TakenFromBandit
        (exec AdaptiveDecisionEngine.decideAndExecute engine before).1 after

section ColdStart
variable {engine : AdaptiveDecisionEngine}
open ThompsonSampling AdaptiveDecisionEngine

theorem updateReward_config (bandit : ThompsonSampling) (ctx : BanditContext) (action : BanditActionType) (reward : ℚ) :
    (bandit.updateReward ctx action reward).config = bandit.config := by
  unfold updateReward
  split <;> rfl

theorem decideAndExecute_cold (cold : engine.bandit.hasSufficientData call.context = false) :
    engine.decideAndExecute call = (engine,fallback call.context) := by
  simp [decideAndExecute,choose,cold]

theorem decideAndExecute_warm (warm : engine.bandit.hasSufficientData call.context = true) :
    engine.decideAndExecute call = engine.finish
      ⟨call.context,engine.bandit.selectAction call.context call.draws,call.threatScore⟩ call.execution := by
  simp [decideAndExecute,choose,warm]

theorem decideAndExecute_config (engine : AdaptiveDecisionEngine) (call : Call) :
    (engine.decideAndExecute call).1.bandit.config = engine.bandit.config := by
  cases warm : engine.bandit.hasSufficientData call.context with
  | false => rw [decideAndExecute_cold warm]
  | true => rw [decideAndExecute_warm warm]; exact updateReward_config _ _ _ _

theorem cold_run (cold : engine.bandit.hasSufficientData ctx = false) (calls : List Call)
    (inContext : ∀ call ∈ calls, call.context = ctx) :
    (exec AdaptiveDecisionEngine.decideAndExecute engine calls).1 = engine := by
  induction calls with
  | nil => rfl
  | cons call rest ih =>
      rw [List.forall_mem_cons] at inContext
      have here : engine.bandit.hasSufficientData call.context = false := by rw [inContext.1]; exact cold
      rw [exec_cons,decideAndExecute_cold here]
      exact ih inContext.2

theorem fresh_cold (config : BanditConfiguration) (positive : (JsNumber.finite 0).lt config.minSamplesPerAction = true)
    (ctx : BanditContext) : (create config).hasSufficientData ctx = false := by
  simp [hasSufficientData,create,initializePriors,getSelectionCount,BANDIT_ACTIONS,positive]

theorem warm_of_not_positive {bandit : ThompsonSampling}
    (low : (JsNumber.finite 0).lt bandit.config.minSamplesPerAction = false) (ctx : BanditContext) :
    bandit.hasSufficientData ctx = true := by
  rw [hasSufficientData,List.all_eq_true]
  intro action _
  cases threshold : bandit.config.minSamplesPerAction with
  | finite bound =>
      have small : bound ≤ 0 := by simpa [threshold,JsNumber.lt] using low
      have counted : (0 : ℚ) ≤ (bandit.getSelectionCount ctx action : ℚ) := Nat.cast_nonneg _
      simpa [JsNumber.lt] using small.trans counted
  | posInf => simp [threshold,JsNumber.lt] at low
  | negInf => rfl
  | nan => rfl

theorem takenFromBandit_of_warm (warm : engine.bandit.hasSufficientData call.context = true) :
    TakenFromBandit engine call := by
  unfold TakenFromBandit
  rw [decideAndExecute_warm warm]
  exact ⟨rfl,rfl⟩

def requestIn (ctx : BanditContext) : Call where
  record := match ctx.reputationTier with
    | .trusted => some ⟨none,some (.finite 3),some (.finite 11),none⟩
    | .unknown => none
    | .suspicious => some ⟨some (.finite 1),none,none,none⟩
  threatScore := match ctx.threatBucket with
    | .low => .finite 0
    | .medium => .finite (1/2)
    | .high => .finite 1
  draws := ⟨1/2,0,fun _ => .finite 0⟩
  execution := ⟨false,true,none⟩

theorem requestIn_context (ctx : BanditContext) : (requestIn ctx).context = ctx := by
  obtain ⟨bucket,tier⟩ := ctx
  cases bucket <;> cases tier <;> decide +kernel

theorem cold_forever (cold : engine.bandit.hasSufficientData ctx = false) : ¬LeavesColdStart engine ctx := by
  rintro ⟨enough,leaves⟩
  have inContext : ∀ call ∈ List.replicate enough (requestIn ctx), call.context = ctx := by
    intro call present
    rw [List.eq_of_mem_replicate present]
    exact requestIn_context ctx
  obtain ⟨before,after,split,warm,_⟩ := leaves _ inContext (by simp)
  have early : ∀ call ∈ before, call.context = ctx := fun call present =>
    inContext call (by rw [split]; exact List.mem_append_left _ present)
  rw [cold_run cold before early,cold] at warm
  cases warm

end ColdStart

-- A fresh bandit leaves cold start exactly when it never is in it: the fallback
-- records no sample, so a positive threshold is never reached by decisions.
theorem cold_start_exact (banditConfig config : BanditConfiguration) (ctx : BanditContext) :
    LeavesColdStart ⟨.create banditConfig,config⟩ ctx ↔
      (JsNumber.finite 0).lt banditConfig.minSamplesPerAction = false := by
  constructor
  · intro leaves
    cases positive : (JsNumber.finite 0).lt banditConfig.minSamplesPerAction with
    | false => rfl
    | true => exact absurd leaves (cold_forever (fresh_cold banditConfig positive ctx))
  · intro low
    refine ⟨0,fun calls _ _ => ⟨[],calls,rfl,warm_of_not_positive low ctx,?_⟩⟩
    have kept : ∀ (engine : AdaptiveDecisionEngine) (call : Call), engine.bandit.config = banditConfig → True →
        (engine.decideAndExecute call).1.bandit.config = banditConfig :=
      fun engine call same _ => (decideAndExecute_config engine call).trans same
    refine along_of_valid kept ?_ rfl (fun _ _ => trivial)
    intro engine call same
    exact takenFromBandit_of_warm (warm_of_not_positive (by rw [same]; exact low) _)

-- As configured, ten samples of every action are required and none is ever taken.
theorem default_never_leaves_cold_start :
    ¬LeavesColdStart ⟨.create getDefaultBanditConfiguration,getDefaultBanditConfiguration⟩ calm :=
  cold_forever (fresh_cold _ (by decide +kernel) calm)

end PhantomFlow.Bandit
