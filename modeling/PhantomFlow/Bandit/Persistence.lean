import PhantomFlow.Bandit.Decisions

namespace PhantomFlow.Bandit
open Library Library.Machine

inductive FeedbackSignal where
  | truePositive | falsePositive | userSatisfied | userUnsatisfied
  | costLow | costHigh | threatReduced | threatPersisted
  deriving DecidableEq

structure FeedbackEvent where
  action : BanditActionType
  context : BanditContext
  signals : List FeedbackSignal

structure FeedbackCollector where
  config : BanditConfiguration
  feedbackLog : List FeedbackEvent

namespace FeedbackCollector

def maxLogSize : ℕ := 1000

def weight (weights : RewardWeights) : FeedbackSignal → ℚ
  | .truePositive => weights.truePositive
  | .falsePositive => -weights.falsePositive
  | .userSatisfied => weights.userSatisfaction
  | .userUnsatisfied => -(weights.userSatisfaction * (1/2))
  | .costLow => weights.resourceCost
  | .costHigh => -(weights.resourceCost * (1/2))
  | .threatReduced => weights.threatReduction
  | .threatPersisted => -(weights.threatReduction * (1/2))

def computeRewardFromSignals (collector : FeedbackCollector) (signals : List FeedbackSignal) : ℚ :=
  max 0 (min 1 (signals.foldl (fun reward signal => reward + weight collector.config.rewardWeights signal) 0))

def logged (collector : FeedbackCollector) (event : FeedbackEvent) : FeedbackCollector :=
  let log := collector.feedbackLog ++ [event]
  { collector with feedbackLog := if maxLogSize < log.length then log.tail else log }

end FeedbackCollector

structure BanditPersistence where
  file : Option BanditState
  dirty : Bool
  saveTimer : Bool

namespace BanditPersistence
variable (persistence : BanditPersistence)

def load (file : Option BanditState) (bandit : ThompsonSampling) : ThompsonSampling :=
  match file with
  | none => bandit
  | some state => bandit.loadState state

def save (bandit : ThompsonSampling) : BanditPersistence :=
  { persistence with file := some bandit.getState, dirty := false }

def markDirty : BanditPersistence := { persistence with dirty := true }

def onTimer (bandit : ThompsonSampling) : BanditPersistence :=
  if persistence.saveTimer && persistence.dirty then persistence.save bandit else persistence

def shutdown (bandit : ThompsonSampling) : BanditPersistence :=
  let stopped := { persistence with saveTimer := false }
  if stopped.dirty then stopped.save bandit else stopped

end BanditPersistence

-- One process: the bandit is the engine's, and the three services share it.
-- `pending` are the decisions whose action is being executed.
structure Learner where
  engine : AdaptiveDecisionEngine
  collector : FeedbackCollector
  persistence : BanditPersistence
  pending : List Selected

-- `decide` and `execute` are the two halves of `decideAndExecute`; any number of
-- calls can be between theirs.
inductive LearnerEvent where
  | decide (call : Call)
  | execute (index : ℕ) (execution : Execution)
  | processFeedback (event : FeedbackEvent)
  | tick

namespace Learner

def start (banditConfig engineConfig collectorConfig : BanditConfiguration) (file : Option BanditState) : Learner where
  engine := ⟨BanditPersistence.load file (.create banditConfig),engineConfig⟩
  collector := ⟨collectorConfig,[]⟩
  persistence := ⟨file,false,true⟩
  pending := []

variable (learner : Learner)

def bandit : ThompsonSampling := learner.engine.bandit

def processFeedback (event : FeedbackEvent) : Learner :=
  let reward := learner.collector.computeRewardFromSignals event.signals
  { learner with
    engine := { learner.engine with bandit := learner.bandit.updateReward event.context event.action reward }
    collector := learner.collector.logged event
    persistence := learner.persistence.markDirty }

def step : LearnerEvent → Learner
  | .decide call => match learner.engine.choose call with
    | none => learner
    | some selected => { learner with pending := learner.pending ++ [selected] }
  | .execute index execution => match learner.pending[index]? with
    | none => learner
    | some selected =>
      { learner with
        engine := (learner.engine.finish selected execution).1
        pending := learner.pending.eraseIdx index }
  | .processFeedback event => learner.processFeedback event
  | .tick => { learner with persistence := learner.persistence.onTimer learner.bandit }

def shutdown : Learner := { learner with persistence := learner.persistence.shutdown learner.bandit }

theorem decide_execute (call : Call) :
    (learner.step (.decide call)).step (.execute learner.pending.length call.execution) =
      { learner with engine := (learner.engine.decideAndExecute call).1 } := by
  simp only [step,AdaptiveDecisionEngine.decideAndExecute]
  cases learner.engine.choose call with
  | none => simp
  | some selected => simp [List.eraseIdx_append_of_length_le]

end Learner

structure Unsaved where
  decided : Bool
  marked : Bool

def Unsaved.step (learner : Learner) (unsaved : Unsaved) : LearnerEvent → Unsaved
  | .decide _ => unsaved
  | .execute index _ => { unsaved with decided := unsaved.decided || learner.pending[index]?.isSome }
  | .processFeedback _ => { unsaved with marked := true }
  | .tick => if unsaved.marked then ⟨false,false⟩ else unsaved

def ledgerStep (s : Learner × Unsaved) (event : LearnerEvent) : (Learner × Unsaved) × Unit :=
  ((s.1.step event,s.2.step s.1 event),())

-- The next process starts with what this one has learned; and a file that is not
-- the one this process found is its state.
structure NothingLost (config : BanditConfiguration) (found : Option BanditState) (learner : Learner) : Prop where
  reloaded : (BanditPersistence.load learner.persistence.file (.create config)).getState = learner.bandit.getState
  written : learner.persistence.file = found ∨ learner.persistence.file = some learner.bandit.getState

def evidence (state : BanditState) : ℚ :=
  (stateKeys.map (fun key => ((state key).map (fun beta => beta.alpha + beta.beta)).getD 0)).sum

def Complete (bandit : ThompsonSampling) : Prop := ∀ key, ∃ beta, bandit.state key = some beta

section Evidence
variable {bandit : ThompsonSampling}
open ThompsonSampling

theorem evidence_updateReward (complete : Complete bandit) (ctx : BanditContext) (action : BanditActionType)
    (reward : ℚ) : evidence (bandit.updateReward ctx action reward).state = evidence bandit.state + 1 := by
  obtain ⟨beta,present⟩ := complete (ctx,action)
  let weigh : Option BetaState → ℚ := fun entry => (entry.map (fun beta => beta.alpha + beta.beta)).getD 0
  have pointwise : (fun key => weigh ((bandit.updateReward ctx action reward).state key)) =
      Function.update (fun key => weigh (bandit.state key)) (ctx,action) (weigh (bandit.state (ctx,action)) + 1) := by
    funext key
    rw [updateReward_stored present]
    by_cases same : key = (ctx,action)
    · subst key
      simp [weigh,present,rewarded_sum]
    · simp [Function.update_of_ne same]
  have grown := sum_update stateKeys_nodup (mem_stateKeys (ctx,action)) (fun key => weigh (bandit.state key))
    (weigh (bandit.state (ctx,action)) + 1)
  rw [← pointwise,← add_assoc,add_right_comm] at grown
  exact add_right_cancel grown

theorem complete_updateReward (complete : Complete bandit) (ctx : BanditContext) (action : BanditActionType)
    (reward : ℚ) : Complete (bandit.updateReward ctx action reward) := by
  obtain ⟨beta,present⟩ := complete (ctx,action)
  rw [updateReward_stored present]
  intro key
  by_cases same : key = (ctx,action)
  · exact ⟨_,by rw [same]; exact Function.update_self _ _ _⟩
  · obtain ⟨other,stored⟩ := complete key
    exact ⟨other,(Function.update_of_ne same _ _).trans stored⟩

theorem complete_load (file : Option BanditState) (complete : Complete bandit) :
    Complete (BanditPersistence.load file bandit) := by
  cases file with
  | none => exact complete
  | some state =>
      intro key
      obtain ⟨beta,present⟩ := complete key
      simp only [BanditPersistence.load,loadState,present]
      cases state key with
      | none => exact ⟨beta,rfl⟩
      | some loaded => exact ⟨loaded,rfl⟩

theorem load_saved (config : BanditConfiguration) (complete : Complete bandit) :
    (BanditPersistence.load (some bandit.getState) (.create config)).getState = bandit.getState := by
  funext key
  obtain ⟨beta,present⟩ := complete key
  simp [BanditPersistence.load,loadState,getState,create,initializePriors,present]

end Evidence

structure Tracks (config : BanditConfiguration) (found : Option BanditState) (s : Learner × Unsaved) : Prop where
  complete : Complete s.1.bandit
  timer : s.1.persistence.saveTimer = true
  flag : s.1.persistence.dirty = s.2.marked
  level : s.2.decided = false → s.2.marked = false → NothingLost config found s.1
  behind : s.2.decided = true ∨ s.2.marked = true →
    evidence (BanditPersistence.load s.1.persistence.file (.create config)).getState < evidence s.1.bandit.getState

section Tracking
variable {config : BanditConfiguration} {found : Option BanditState} {s : Learner × Unsaved}

theorem Tracks.evidence_le (tracks : Tracks config found s) :
    evidence (BanditPersistence.load s.1.persistence.file (.create config)).getState ≤ evidence s.1.bandit.getState := by
  by_cases unsaved : s.2.decided = true ∨ s.2.marked = true
  · exact le_of_lt (tracks.behind unsaved)
  · rw [not_or,Bool.not_eq_true,Bool.not_eq_true] at unsaved
    rw [(tracks.level unsaved.1 unsaved.2).reloaded]

-- Whoever rewards an arm leaves the file behind; the feedback collector flags it
-- and the decision engine does not.
theorem Tracks.learned (tracks : Tracks config found s) (next : Learner) (unsaved : Unsaved) (ctx : BanditContext)
    (action : BanditActionType) (reward : ℚ) (rewarded : next.bandit = s.1.bandit.updateReward ctx action reward)
    (file : next.persistence.file = s.1.persistence.file) (timer : next.persistence.saveTimer = true)
    (flag : next.persistence.dirty = unsaved.marked) (ahead : unsaved.decided = true ∨ unsaved.marked = true) :
    Tracks config found (next,unsaved) where
  complete := by rw [rewarded]; exact complete_updateReward tracks.complete ctx action reward
  timer := timer
  flag := flag
  level decided marked := by
    rw [decided,marked] at ahead
    rcases ahead with impossible | impossible <;> cases impossible
  behind _ := by
    have grown := evidence_updateReward tracks.complete ctx action reward
    have below := tracks.evidence_le
    simp only [rewarded,file,ThompsonSampling.getState] at below ⊢
    rw [grown]
    exact lt_of_le_of_lt below (lt_add_one _)

theorem tracks_step (tracks : Tracks config found s) (event : LearnerEvent) :
    Tracks config found (ledgerStep s event).1 := by
  obtain ⟨learner,unsaved⟩ := s
  cases event with
  | decide call =>
      simp only [ledgerStep,Learner.step,Unsaved.step]
      cases learner.engine.choose call with
      | none => exact tracks
      | some selected =>
          exact ⟨tracks.complete,tracks.timer,tracks.flag,fun decided marked =>
            ⟨(tracks.level decided marked).reloaded,(tracks.level decided marked).written⟩,tracks.behind⟩
  | execute index execution =>
      simp only [ledgerStep,Learner.step,Unsaved.step]
      cases waiting : learner.pending[index]? with
      | none => simpa using tracks
      | some selected =>
          exact tracks.learned _ _ selected.context selected.action _ rfl rfl tracks.timer tracks.flag
            (.inl (Bool.or_true _))
  | processFeedback event =>
      exact tracks.learned _ _ event.context event.action _ rfl rfl tracks.timer rfl (.inr rfl)
  | tick =>
      have timer : learner.persistence.saveTimer = true := tracks.timer
      have flag : learner.persistence.dirty = unsaved.marked := tracks.flag
      simp only [ledgerStep,Learner.step,Unsaved.step,BanditPersistence.onTimer,timer,flag,Bool.true_and]
      cases marked : unsaved.marked with
      | false =>
          simp only [Bool.false_eq_true,if_false]
          exact tracks
      | true =>
          simp only [if_true]
          exact ⟨tracks.complete,tracks.timer,rfl,fun _ _ => ⟨load_saved config tracks.complete,.inr rfl⟩,by simp⟩

theorem tracks_start (config engineConfig collectorConfig : BanditConfiguration) (found : Option BanditState) :
    Tracks config found (.start config engineConfig collectorConfig found,⟨false,false⟩) where
  complete := complete_load found (fun _ => ⟨_,rfl⟩)
  timer := rfl
  flag := rfl
  level _ _ := ⟨rfl,.inl rfl⟩
  behind := by simp

theorem nothingLost_shutdown (tracks : Tracks config found s) :
    NothingLost config found s.1.shutdown ↔ (s.2.decided = true → s.2.marked = true) := by
  obtain ⟨learner,unsaved⟩ := s
  cases marked : unsaved.marked with
  | true =>
      refine iff_of_true ?_ (fun _ => rfl)
      have dirty : learner.persistence.dirty = true := tracks.flag.trans marked
      simp only [Learner.shutdown,BanditPersistence.shutdown,dirty,if_true]
      exact ⟨load_saved config tracks.complete,.inr rfl⟩
  | false =>
      have clean : learner.persistence.dirty = false := tracks.flag.trans marked
      simp only [Learner.shutdown,BanditPersistence.shutdown,clean,Bool.false_eq_true,if_false,imp_false,
        Bool.not_eq_true]
      constructor
      · intro nothing
        cases decided : unsaved.decided with
        | false => rfl
        | true =>
            have behind := tracks.behind (.inl decided)
            have level := nothing.reloaded
            simp only [Learner.bandit] at level behind
            rw [level] at behind
            exact absurd behind (lt_irrefl _)
      · intro decided
        exact ⟨(tracks.level decided marked).reloaded,(tracks.level decided marked).written⟩

end Tracking

-- A run loses nothing at shutdown exactly when every decision rewarded since the
-- last write has feedback processed since then beside it: only feedback asks for a
-- save.
theorem shutdown_saves_exact (config engineConfig collectorConfig : BanditConfiguration) (found : Option BanditState)
    (events : List LearnerEvent) :
    let last := (exec ledgerStep (.start config engineConfig collectorConfig found,⟨false,false⟩) events).1
    NothingLost config found last.1.shutdown ↔ (last.2.decided = true → last.2.marked = true) := by
  have tracked : Tracks config found
      (exec ledgerStep (.start config engineConfig collectorConfig found,⟨false,false⟩) events).1 :=
    @exec_invariant _ _ _ ledgerStep _ (Tracks config found) (fun _ event tracks => tracks_step tracks event)
      (tracks_start config engineConfig collectorConfig found) events
  exact nothingLost_shutdown tracked

-- One request is decided and rewarded; nothing asks for a save, and no file is
-- written.
theorem decided_reward_lost :
    let config := { getDefaultBanditConfiguration with minSamplesPerAction := .finite 0 }
    let learner := (exec ledgerStep (.start config config config none,⟨false,false⟩)
      [.decide (requestIn calm),.execute 0 ⟨false,true,none⟩]).1.1.shutdown
    learner.bandit.getState (calm,.allow) = some ⟨10,2⟩ ∧ learner.persistence.file.isNone ∧
    ¬NothingLost config none learner := by
  refine ⟨by decide +kernel,by decide +kernel,fun nothing => ?_⟩
  have same := congrFun nothing.reloaded (calm,.allow)
  revert same
  decide +kernel

end PhantomFlow.Bandit
