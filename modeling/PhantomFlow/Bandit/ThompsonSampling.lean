import PhantomFlow.Library.JsNumber
import PhantomFlow.Library.Machine
import PhantomFlow.Library.Tally

namespace PhantomFlow.Bandit
open Library Library.Machine

inductive BanditActionType where
  | allow | monitor | warn | restrict | block | isolate | divert
  deriving DecidableEq

inductive ThreatBucket where
  | low | medium | high
  deriving DecidableEq

inductive ReputationTier where
  | trusted | unknown | suspicious
  deriving DecidableEq

structure BanditContext where
  threatBucket : ThreatBucket
  reputationTier : ReputationTier
  deriving DecidableEq

structure BetaState where
  alpha : ℚ
  beta : ℚ
  deriving DecidableEq

def BANDIT_ACTIONS : List BanditActionType := [.allow,.monitor,.warn,.restrict,.block,.isolate,.divert]

-- The key `threat_low_reputation_trusted:allow`, kept as the pair it is made of.
abbrev StateKey := BanditContext × BanditActionType

def contexts : List BanditContext :=
  [ThreatBucket.low,.medium,.high].flatMap (fun bucket =>
    [ReputationTier.trusted,.unknown,.suspicious].map (fun tier => ⟨bucket,tier⟩))

def stateKeys : List StateKey := contexts.flatMap (fun ctx => BANDIT_ACTIONS.map (fun action => (ctx,action)))

structure RewardWeights where
  truePositive : ℚ
  falsePositive : ℚ
  userSatisfaction : ℚ
  resourceCost : ℚ
  threatReduction : ℚ

-- `parseInt` of a malformed variable makes the sample threshold `NaN`.
structure BanditConfiguration where
  explorationRate : ℚ
  warmStartPriors : BanditActionType → BetaState
  rewardWeights : RewardWeights
  minSamplesPerAction : JsNumber ℚ

def defaultPriors : BanditActionType → BetaState
  | .allow => ⟨10,1⟩
  | .monitor => ⟨8,1⟩
  | .warn => ⟨6,2⟩
  | .restrict => ⟨4,3⟩
  | .block => ⟨3,4⟩
  | .isolate => ⟨2,5⟩
  | .divert => ⟨3,3⟩

def getDefaultBanditConfiguration : BanditConfiguration where
  explorationRate := 15/100
  warmStartPriors := defaultPriors
  rewardWeights := ⟨30/100,25/100,15/100,10/100,20/100⟩
  minSamplesPerAction := .finite 10

abbrev BanditState := StateKey → Option BetaState

structure ThompsonSampling where
  config : BanditConfiguration
  state : BanditState
  selectionCounts : StateKey → Option ℕ
  rewardSums : StateKey → Option ℚ
  totalSelections : ℕ

structure Draws where
  explore : ℚ
  choice : ℚ
  samples : BanditActionType → JsNumber ℚ

namespace ThompsonSampling

def initializePriors (config : BanditConfiguration) : ThompsonSampling where
  config
  state := fun key => some (config.warmStartPriors key.2)
  selectionCounts := fun _ => some 0
  rewardSums := fun _ => some 0
  totalSelections := 0

def create (config : BanditConfiguration) : ThompsonSampling := initializePriors config

variable (bandit : ThompsonSampling)

def reset : ThompsonSampling := initializePriors bandit.config

def bestOf (ctx : BanditContext) (samples : BanditActionType → JsNumber ℚ) : BanditActionType :=
  (BANDIT_ACTIONS.foldl (fun (best : BanditActionType × JsNumber ℚ) action =>
    match bandit.state (ctx,action) with
    | none => best
    | some _ => if best.2.lt (samples action) then (action,samples action) else best) (.allow,.negInf)).1

-- A uniform draw stays below one, so the index of the exploring branch is one of
-- the list.
def selectAction (ctx : BanditContext) (draws : Draws) : BanditActionType :=
  if draws.explore < bandit.config.explorationRate
  then BANDIT_ACTIONS.getD ⌊draws.choice * BANDIT_ACTIONS.length⌋.toNat .allow
  else bandit.bestOf ctx draws.samples

def rewarded (beta : BetaState) (reward : ℚ) : BetaState :=
  if 1/2 ≤ reward then { beta with alpha := beta.alpha + 1 } else { beta with beta := beta.beta + 1 }

def updateReward (ctx : BanditContext) (action : BanditActionType) (reward : ℚ) : ThompsonSampling :=
  match bandit.state (ctx,action) with
  | none => bandit
  | some beta =>
    { bandit with
      state := Function.update bandit.state (ctx,action) (some (rewarded beta reward))
      selectionCounts := Function.update bandit.selectionCounts (ctx,action)
        (some ((bandit.selectionCounts (ctx,action)).getD 0 + 1))
      rewardSums := Function.update bandit.rewardSums (ctx,action)
        (some ((bandit.rewardSums (ctx,action)).getD 0 + reward))
      totalSelections := bandit.totalSelections + 1 }

def getState : BanditState := bandit.state

-- Only posteriors are loaded, and only under keys that exist.
def loadState (state : BanditState) : ThompsonSampling :=
  { bandit with
    state := fun key => match bandit.state key,state key with
      | some _,some beta => some beta
      | current,_ => current }

def getSelectionCount (ctx : BanditContext) (action : BanditActionType) : ℕ :=
  (bandit.selectionCounts (ctx,action)).getD 0

def hasSufficientData (ctx : BanditContext) : Bool :=
  BANDIT_ACTIONS.all (fun action =>
    !(JsNumber.finite (bandit.getSelectionCount ctx action : ℚ)).lt bandit.config.minSamplesPerAction)

-- The posterior mean that a decision reports; zero parameters are replaced by one.
def confidence (ctx : BanditContext) (action : BanditActionType) : JsNumber ℚ :=
  let parameter := fun (value : Option ℚ) => match value with
    | some value => if value = 0 then 1 else value
    | none => 1
  let alpha := parameter ((bandit.state (ctx,action)).map BetaState.alpha)
  let beta := parameter ((bandit.state (ctx,action)).map BetaState.beta)
  JsNumber.div alpha (alpha + beta)

end ThompsonSampling

-- `restart` saves the state and loads it into the bandit of the next process;
-- `loadState` loads it into the same one.
inductive Operation where
  | selectAction (ctx : BanditContext) (draws : Draws)
  | updateReward (ctx : BanditContext) (action : BanditActionType) (reward : ℚ)
  | reset
  | loadState
  | restart

def ThompsonSampling.step (bandit : ThompsonSampling) : Operation → ThompsonSampling
  | .selectAction _ _ => bandit
  | .updateReward ctx action reward => bandit.updateReward ctx action reward
  | .reset => bandit.reset
  | .loadState => bandit.loadState bandit.getState
  | .restart => (ThompsonSampling.create bandit.config).loadState bandit.getState

abbrev Recorded := StateKey → ℕ

def Recorded.step (recorded : Recorded) : Operation → Recorded
  | .updateReward ctx action _ => Function.update recorded (ctx,action) (recorded (ctx,action) + 1)
  | .reset => fun _ => 0
  | .selectAction _ _ | .loadState | .restart => recorded

def accountedStep (s : ThompsonSampling × Recorded) (operation : Operation) : (ThompsonSampling × Recorded) × Unit :=
  ((s.1.step operation,s.2.step operation),())

structure Accounted (bandit : ThompsonSampling) (recorded : Recorded) : Prop where
  posterior : ∀ key, ∃ beta, bandit.state key = some beta ∧
    beta.alpha + beta.beta =
      (bandit.config.warmStartPriors key.2).alpha + (bandit.config.warmStartPriors key.2).beta + recorded key
  counts : ∀ ctx action, bandit.getSelectionCount ctx action = recorded (ctx,action)
  total : bandit.totalSelections = (stateKeys.map (fun key => bandit.getSelectionCount key.1 key.2)).sum

def SameAnswers (s : ThompsonSampling × Recorded) (operation : Operation) : Prop :=
  operation = .restart ∨ operation = .loadState →
    ∀ ctx, (s.1.step operation).hasSufficientData ctx = s.1.hasSufficientData ctx

def Unrecorded (s : ThompsonSampling × Recorded) : Operation → Prop
  | .restart => ∀ key ∈ stateKeys, s.2 key = 0
  | .selectAction _ _ | .updateReward _ _ _ | .reset | .loadState => True

instance (s : ThompsonSampling × Recorded) : (operation : Operation) → Decidable (Unrecorded s operation)
  | .restart => inferInstanceAs (Decidable (∀ key ∈ stateKeys, s.2 key = 0))
  | .selectAction _ _ | .updateReward _ _ _ | .reset | .loadState => inferInstanceAs (Decidable True)

theorem mem_stateKeys (key : StateKey) : key ∈ stateKeys := by
  obtain ⟨⟨bucket,tier⟩,action⟩ := key
  cases bucket <;> cases tier <;> cases action <;> decide

theorem stateKeys_nodup : stateKeys.Nodup := by decide

namespace ThompsonSampling
variable {bandit : ThompsonSampling}

theorem rewarded_sum (beta : BetaState) (reward : ℚ) :
    (rewarded beta reward).alpha + (rewarded beta reward).beta = beta.alpha + beta.beta + 1 := by
  unfold rewarded
  split
  · exact add_right_comm _ _ _
  · exact (add_assoc _ _ _).symm

theorem updateReward_stored (present : bandit.state (ctx,action) = some beta) (reward : ℚ) :
    bandit.updateReward ctx action reward =
      { bandit with
        state := Function.update bandit.state (ctx,action) (some (rewarded beta reward))
        selectionCounts := Function.update bandit.selectionCounts (ctx,action)
          (some ((bandit.selectionCounts (ctx,action)).getD 0 + 1))
        rewardSums := Function.update bandit.rewardSums (ctx,action)
          (some ((bandit.rewardSums (ctx,action)).getD 0 + reward))
        totalSelections := bandit.totalSelections + 1 } := by
  simp only [updateReward,present]

theorem updateReward_counts (present : bandit.state (ctx,action) = some beta) (reward : ℚ) :
    (fun key : StateKey => (bandit.updateReward ctx action reward).getSelectionCount key.1 key.2) =
      Function.update (fun key : StateKey => bandit.getSelectionCount key.1 key.2) (ctx,action)
        (bandit.getSelectionCount ctx action + 1) := by
  funext key
  simp only [updateReward_stored present,getSelectionCount]
  by_cases same : key = (ctx,action)
  · subst key; simp
  · simp [Function.update_of_ne same]

theorem loadState_self (bandit : ThompsonSampling) : bandit.loadState bandit.getState = bandit := by
  have same : (bandit.loadState bandit.getState).state = bandit.state := by
    funext key
    simp only [loadState,getState]
    cases bandit.state key <;> rfl
  exact congrArg (fun state => { bandit with state }) same

theorem restart_counts (ctx : BanditContext) (action : BanditActionType) :
    (bandit.step .restart).getSelectionCount ctx action = 0 := rfl

theorem restart_state (key : StateKey) (present : bandit.state key = some beta) :
    (bandit.step .restart).state key = some beta := by
  simp [step,loadState,getState,create,initializePriors,present]

theorem hasSufficientData_congr {other : ThompsonSampling} (config : other.config = bandit.config)
    (counts : ∀ action, other.getSelectionCount ctx action = bandit.getSelectionCount ctx action) :
    other.hasSufficientData ctx = bandit.hasSufficientData ctx := by
  simp only [hasSufficientData,config,counts]

end ThompsonSampling

section Accounts
variable {bandit : ThompsonSampling} {recorded : Recorded}
open ThompsonSampling

theorem accounted_fresh (config : BanditConfiguration) : Accounted (.create config) (fun _ => 0) where
  posterior key := ⟨_,rfl,by simp [create,initializePriors]⟩
  counts _ _ := rfl
  total := by
    simp only [create,initializePriors,getSelectionCount,Option.getD_some]
    decide

theorem accounted_updateReward (accounted : Accounted bandit recorded) (ctx : BanditContext)
    (action : BanditActionType) (reward : ℚ) :
    Accounted (bandit.updateReward ctx action reward)
      (Function.update recorded (ctx,action) (recorded (ctx,action) + 1)) := by
  obtain ⟨beta,present,evidence⟩ := accounted.posterior (ctx,action)
  have counts := updateReward_counts present reward
  have grown := sum_update stateKeys_nodup (mem_stateKeys (ctx,action))
    (fun key : StateKey => bandit.getSelectionCount key.1 key.2) (bandit.getSelectionCount ctx action + 1)
  rw [← counts,← accounted.total] at grown
  refine ⟨?_,?_,?_⟩
  · rw [updateReward_stored present]
    intro key
    by_cases same : key = (ctx,action)
    · subst key
      refine ⟨rewarded beta reward,Function.update_self _ _ _,?_⟩
      rw [rewarded_sum,evidence,Function.update_self]
      push_cast
      exact add_assoc _ _ _
    · obtain ⟨other,stored,sum⟩ := accounted.posterior key
      refine ⟨other,(Function.update_of_ne same _ _).trans stored,?_⟩
      rw [Function.update_of_ne same]
      exact sum
  · intro ctx' action'
    have here := congrFun counts (ctx',action')
    dsimp only at here
    rw [here]
    by_cases same : (ctx',action') = (ctx,action)
    · rw [same,Function.update_self,Function.update_self,accounted.counts]
    · rw [Function.update_of_ne same,Function.update_of_ne same]
      exact accounted.counts ctx' action'
  · have total : (bandit.updateReward ctx action reward).totalSelections = bandit.totalSelections + 1 := by
      rw [updateReward_stored present]
    dsimp only at grown
    omega

theorem accounted_restart (accounted : Accounted bandit recorded) :
    Accounted (bandit.step .restart) recorded ↔ ∀ key ∈ stateKeys, recorded key = 0 := by
  constructor
  · intro kept key _
    exact (kept.counts key.1 key.2).symm
  · intro nothing
    refine ⟨?_,?_,?_⟩
    · intro key
      obtain ⟨beta,present,evidence⟩ := accounted.posterior key
      exact ⟨beta,restart_state key present,evidence⟩
    · exact fun ctx action => (nothing (ctx,action) (mem_stateKeys _)).symm
    · exact (accounted_fresh bandit.config).total

theorem accounted_step (s : ThompsonSampling × Recorded) (operation : Operation) (accounted : Accounted s.1 s.2) :
    Accounted (accountedStep s operation).1.1 (accountedStep s operation).1.2 ↔ Unrecorded s operation := by
  obtain ⟨bandit,recorded⟩ := s
  cases operation with
  | selectAction ctx draws => exact iff_of_true accounted trivial
  | updateReward ctx action reward => exact iff_of_true (accounted_updateReward accounted ctx action reward) trivial
  | reset => exact iff_of_true (accounted_fresh bandit.config) trivial
  | loadState =>
      refine iff_of_true ?_ trivial
      simp only [accountedStep,step,Recorded.step,loadState_self]
      exact accounted
  | restart => exact accounted_restart accounted

theorem sameAnswers_step (s : ThompsonSampling × Recorded) (operation : Operation) (accounted : Accounted s.1 s.2)
    (unrecorded : Unrecorded s operation) : SameAnswers s operation := by
  rintro (rfl | rfl) ctx
  · refine hasSufficientData_congr rfl (fun action => ?_)
    rw [restart_counts,accounted.counts,unrecorded _ (mem_stateKeys _)]
  · exact congrArg (fun bandit => bandit.hasSufficientData ctx) (loadState_self s.1)

end Accounts

-- The accounts are right in every state of a run, and every round trip answers as
-- before, exactly when no restart comes after a recorded reward.
theorem bandit_accounting_exact (config : BanditConfiguration) (operations : List Operation) :
    (Throughout accountedStep (fun s => Accounted s.1 s.2) (.create config,fun _ => 0) operations ∧
      Along accountedStep SameAnswers (.create config,fun _ => 0) operations) ↔
    Along accountedStep Unrecorded (.create config,fun _ => 0) operations := by
  have preserved : ∀ (s : ThompsonSampling × Recorded) (operation : Operation), True → True := fun _ _ valid => valid
  have states : Throughout accountedStep (fun s => Accounted s.1 s.2) (.create config,fun _ => 0) operations ↔
      Along accountedStep Unrecorded (.create config,fun _ => 0) operations :=
    throughout_exact preserved (fun s operation _ => accounted_step s operation) trivial (accounted_fresh config)
  constructor
  · exact fun both => states.mp both.1
  · intro conditions
    have accounted := states.mpr conditions
    exact ⟨accounted,accounted.along sameAnswers_step conditions⟩

def calm : BanditContext := ⟨.low,.unknown⟩

-- One reward for every action of a context, then a restart: the posteriors keep
-- them, the counts forget them.
theorem restart_forgets_counts :
    let s := (exec accountedStep (.create { getDefaultBanditConfiguration with minSamplesPerAction := .finite 1 },
      fun _ => 0) (BANDIT_ACTIONS.map (fun action => .updateReward calm action 1) ++ [.restart])).1
    s.2 (calm,.allow) = 1 ∧ s.1.state (calm,.allow) = some ⟨11,1⟩ ∧ s.1.getSelectionCount calm .allow = 0 ∧
    s.1.hasSufficientData calm = false ∧
    (exec accountedStep (.create { getDefaultBanditConfiguration with minSamplesPerAction := .finite 1 },
      fun _ => 0) (BANDIT_ACTIONS.map (fun action => .updateReward calm action 1))).1.1.hasSufficientData calm = true := by
  decide +kernel

end PhantomFlow.Bandit
