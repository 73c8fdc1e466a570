import Mathlib.Data.List.Sort
import PhantomFlow.Library.JsNumber
import PhantomFlow.Response.ResponseActions

namespace PhantomFlow.Response
open Library

inductive ResponseLevel where
  | monitor | warn | restrict | block | isolate
  deriving DecidableEq

structure ResponseAction where
  type : ResponseActionType
  severity : ℚ
  enabled : Bool
  config : ResponseActionConfig
  deriving DecidableEq

structure Threshold where
  min : JsNumber ℚ
  max : JsNumber ℚ

structure ResponseTier where
  level : ResponseLevel
  threshold : Threshold
  actions : List ResponseAction

structure ResponseConfiguration where
  enabled : Bool
  tiers : List ResponseTier

structure ResponseHistory where
  timestamp : ℤ
  tier : ResponseLevel
  actions : List ResponseActionType

structure ResponseExecutionResult where
  success : Bool
  actionsExecuted : List String
  actionResults : OrderedMap String ActionExecutionResult
  error : Option String

-- An action object is kept under its type and the text of its configuration.
abbrev ActionInstances := OrderedMap (ResponseActionType × ResponseActionConfig) BaseResponseAction

def getActionInstance (instances : ActionInstances) (type : ResponseActionType) (config : ResponseActionConfig) :
    Except String (ActionInstances × BaseResponseAction) :=
  match instances.get (type,config) with
  | some action => .ok (instances,action)
  | none => match ResponseActionFactory.createAction type with
    | .ok action => .ok (instances.set (type,config) action,action)
    | .error message => .error message

structure Progress where
  instances : ActionInstances
  response : HttpResponse
  allSuccessful : Bool
  actionsExecuted : List String
  actionResults : OrderedMap String ActionExecutionResult

def isBlockingAction : ResponseActionType → Bool
  | .temporaryBlock | .permanentBlock | .deceptionRedirect | .challengeResponse | .divert => true
  | .allow | .logOnly | .rateLimit | .stepUpAuth | .quarantine | .alertAdmin | .honeypotEngage => false

def runAction (context : ActionExecutionContext) (progress : Progress) (action : ResponseAction) :
    Progress × ActionExecutionResult :=
  match getActionInstance progress.instances action.type action.config with
  | .error message =>
    let result : ActionExecutionResult := ⟨false,some message,none⟩
    ({ progress with
        allSuccessful := false
        actionResults := progress.actionResults.set action.type.name result },result)
  | .ok (instances,instanceOf) =>
    let run := instanceOf.execute action.type action.config context progress.response
    ({ instances := instances.set (action.type,action.config) run.action
       response := run.response
       allSuccessful := progress.allSuccessful && run.result.success
       actionsExecuted := progress.actionsExecuted ++ [action.type.name]
       actionResults := progress.actionResults.set action.type.name run.result },run.result)

def runActions (context : ActionExecutionContext) : Progress → List ResponseAction → Progress
  | progress,[] => progress
  | progress,action :: rest =>
    let run := runAction context progress action
    if run.2.success && isBlockingAction action.type then run.1 else runActions context run.1 rest

structure ResponseDecision where
  tier : ResponseTier
  actions : List ResponseAction

structure ResponseEngine where
  config : ResponseConfiguration
  responseHistory : OrderedMap String (List ResponseHistory)
  actionInstances : ActionInstances

-- What one call leaves. `handleBlockedSession` is returned without being awaited,
-- so what it throws is the caller's.
structure EngineRun where
  engine : ResponseEngine
  response : HttpResponse
  outcome : Except String ResponseExecutionResult

namespace ResponseEngine

def create (config : ResponseConfiguration) : ResponseEngine := ⟨config,.empty,.empty⟩

variable (engine : ResponseEngine)

def getResponseHistory (sessionId : String) : List ResponseHistory := (engine.responseHistory.get sessionId).getD []

def levels : List ResponseLevel := [.monitor,.warn,.restrict,.block,.isolate]

def getNextEscalationLevel (currentLevel : ResponseLevel) : ResponseLevel :=
  levels.getD (min (levels.idxOf currentLevel + 1) (levels.length - 1)) .isolate

def applyEscalationLogic (now : ℤ) (baseTier : ResponseTier) (history : List ResponseHistory) : ResponseTier :=
  if 3 ≤ (history.filter (fun entry => decide (now - entry.timestamp < 300000))).length then
    (engine.config.tiers.find? (fun tier => decide (tier.level = getNextEscalationLevel baseTier.level))).getD baseTier
  else baseTier

def selectResponseTier (now : ℤ) (riskScore : JsNumber ℚ) (sessionId : String) : Option ResponseDecision :=
  (engine.config.tiers.find? (fun tier => tier.threshold.min.le riskScore && riskScore.le tier.threshold.max)).map
    (fun tier =>
      let finalTier := engine.applyEscalationLogic now tier (engine.getResponseHistory sessionId)
      ⟨finalTier,finalTier.actions.filter ResponseAction.enabled⟩)

def sortedActions (decision : ResponseDecision) : List ResponseAction :=
  decision.actions.insertionSort (fun a b => a.severity ≤ b.severity)

def executeResponseActions (decision : ResponseDecision) (context : ActionExecutionContext) (res : HttpResponse) :
    Progress :=
  runActions context ⟨engine.actionInstances,res,true,[],.empty⟩ (sortedActions decision)

def recordResponse (now : ℤ) (sessionId : String) (decision : ResponseDecision) : ResponseEngine :=
  let sessionHistory := engine.getResponseHistory sessionId ++
    [⟨now,decision.tier.level,decision.actions.map ResponseAction.type⟩]
  { engine with
    responseHistory := engine.responseHistory.set sessionId (sessionHistory.drop (sessionHistory.length - 50)) }

-- The instances are asked in the order of their creation, up to the first that
-- blocks; each forgets the key when its block is over.
def askInstances (now : ℤ) (key : String) : List (ResponseActionType × ResponseActionConfig) → ActionInstances →
    Bool × ActionInstances
  | [],instances => (false,instances)
  | name :: rest,instances => match name.1,instances.get name with
    | .temporaryBlock,some action =>
      let asked := TemporaryBlockAction.isBlocked action key now
      if asked.1 then (true,instances.set name asked.2) else askInstances now key rest (instances.set name asked.2)
    | _,_ => askInstances now key rest instances

def isSessionBlocked (now : ℤ) (key : String) : Bool × ResponseEngine :=
  let asked := askInstances now key engine.actionInstances.keys engine.actionInstances
  (asked.1,{ engine with actionInstances := asked.2 })

def handleBlockedSession (res : HttpResponse) (sessionId : String) : EngineRun :=
  match res.send (.sessionBlocked sessionId) with
  | .ok response =>
    ⟨engine,response,.ok ⟨true,["session_block_enforced"],.ofList [("session_block_enforced",⟨true,none,none⟩)],none⟩⟩
  | .error message => ⟨engine,res,.error message⟩

def createSuccessResult (reason : String) : ResponseExecutionResult := ⟨true,[],.empty,some reason⟩

def respond (context : ActionExecutionContext) (riskScore : JsNumber ℚ) (res : HttpResponse) : EngineRun :=
  match engine.selectResponseTier context.now riskScore context.sessionId with
  | none => ⟨engine,res,.ok (createSuccessResult "No response needed")⟩
  | some decision =>
    let progress := engine.executeResponseActions decision context res
    let after := { engine with actionInstances := progress.instances }
    ⟨after.recordResponse context.now context.sessionId decision,progress.response,
      .ok ⟨progress.allSuccessful,progress.actionsExecuted,progress.actionResults,none⟩⟩

def executeResponse (context : ActionExecutionContext) (riskScore : JsNumber ℚ) (res : HttpResponse) : EngineRun :=
  if engine.config.enabled then
    let asked := engine.isSessionBlocked context.now context.key
    if asked.1 then asked.2.handleBlockedSession res context.sessionId
    else asked.2.respond context riskScore res
  else ⟨engine,res,.ok (createSuccessResult "Response system disabled")⟩

end ResponseEngine

structure EngineCall where
  context : ActionExecutionContext
  riskScore : JsNumber ℚ
  response : HttpResponse

def ResponseEngine.answerCall (engine : ResponseEngine) (call : EngineCall) : ResponseEngine × EngineRun :=
  let run := engine.executeResponse call.context call.riskScore call.response
  (run.engine,run)

def instanceFor (instances : ActionInstances) (action : ResponseAction) : BaseResponseAction :=
  (instances.get (action.type,action.config)).getD ⟨.empty,.empty⟩

def answering (context : ActionExecutionContext) : Progress → List ResponseAction → Bool
  | _,[] => false
  | progress,action :: rest =>
    (instanceFor progress.instances action).answers action.type action.config context ||
      answering context (runAction context progress action).1 rest

def ResponseEngine.answers (engine : ResponseEngine) (context : ActionExecutionContext) (riskScore : JsNumber ℚ) : Bool :=
  engine.config.enabled &&
    let asked := engine.isSessionBlocked context.now context.key
    asked.1 || match asked.2.selectResponseTier context.now riskScore context.sessionId with
      | none => false
      | some decision =>
        answering context ⟨asked.2.actionInstances,.fresh,true,[],.empty⟩ (ResponseEngine.sortedActions decision)

section Answering
variable {context : ActionExecutionContext} {progress : Progress} {action : ResponseAction}

theorem runAction_cases (context : ActionExecutionContext) (progress : Progress) (action : ResponseAction) :
    (ResponseActionFactory.supported action.type = false ∧ progress.instances.get (action.type,action.config) = none ∧
      ∃ message, runAction context progress action =
        ({ progress with
            allSuccessful := false
            actionResults := progress.actionResults.set action.type.name ⟨false,some message,none⟩ },
          ⟨false,some message,none⟩)) ∨
    ∃ instances, (instances = progress.instances ∨
        instances = progress.instances.set (action.type,action.config) ⟨.empty,.empty⟩) ∧
      let run := (instanceFor progress.instances action).execute action.type action.config context progress.response
      runAction context progress action =
        ({ instances := instances.set (action.type,action.config) run.action
           response := run.response
           allSuccessful := progress.allSuccessful && run.result.success
           actionsExecuted := progress.actionsExecuted ++ [action.type.name]
           actionResults := progress.actionResults.set action.type.name run.result },run.result) := by
  cases stored : progress.instances.get (action.type,action.config) with
  | some kept =>
      refine .inr ⟨progress.instances,.inl rfl,?_⟩
      simp [runAction,getActionInstance,instanceFor,stored]
  | none =>
      cases supported : ResponseActionFactory.supported action.type with
      | false =>
          refine .inl ⟨rfl,rfl,"Unsupported response action type: " ++ action.type.name,?_⟩
          simp [runAction,getActionInstance,ResponseActionFactory.createAction,stored,supported]
      | true =>
          refine .inr ⟨_,.inr rfl,?_⟩
          simp [runAction,getActionInstance,ResponseActionFactory.createAction,instanceFor,stored,supported]

theorem runAction_answered (answered : progress.response.headersSent = true) :
    (runAction context progress action).1.response = progress.response := by
  rcases runAction_cases context progress action with ⟨_,_,message,run⟩ | ⟨_,_,run⟩ <;> rw [run]
  exact execute_answered answered _ _ _

theorem runActions_answered (actions : List ResponseAction) (answered : progress.response.headersSent = true) :
    (runActions context progress actions).response = progress.response := by
  induction actions generalizing progress with
  | nil => rfl
  | cons action rest ih =>
      have same : (runAction context progress action).1.response = progress.response := runAction_answered answered
      simp only [runActions]
      split
      · exact same
      · exact (ih (by rw [same]; exact answered)).trans same

theorem runAction_answers (fresh : progress.response = .fresh)
    (answers : (instanceFor progress.instances action).answers action.type action.config context = true) :
    ∃ answer, (runAction context progress action).1.response = ⟨[answer]⟩ := by
  rcases runAction_cases context progress action with ⟨unsupported,_⟩ | ⟨_,_,run⟩
  · cases type : action.type <;> simp_all [ResponseActionFactory.supported,BaseResponseAction.answers]
  · rw [run,fresh]
    exact execute_answers answers

theorem runAction_silent (fresh : progress.response = .fresh)
    (silent : (instanceFor progress.instances action).answers action.type action.config context = false) :
    (runAction context progress action).1.response = .fresh ∧
      ((runAction context progress action).2.success && isBlockingAction action.type) = false := by
  rcases runAction_cases context progress action with ⟨_,_,message,run⟩ | ⟨_,_,run⟩
  · rw [run]
    exact ⟨fresh,rfl⟩
  · rw [run,fresh]
    obtain ⟨unsent,successes⟩ := execute_silent silent
    refine ⟨unsent,?_⟩
    cases succeeded : (BaseResponseAction.execute _ action.type action.config context .fresh).result.success with
    | false => rfl
    | true => rcases successes succeeded with type | type | type | type <;> rw [type] <;> rfl

theorem runActions_answers (actions : List ResponseAction) (fresh : progress.response = .fresh)
    (answers : answering context progress actions = true) :
    ∃ answer, (runActions context progress actions).response = ⟨[answer]⟩ := by
  induction actions generalizing progress with
  | nil => cases answers
  | cons action rest ih =>
      cases first : (instanceFor progress.instances action).answers action.type action.config context with
      | true =>
          obtain ⟨answer,sent⟩ := runAction_answers fresh first
          refine ⟨answer,?_⟩
          simp only [runActions]
          split
          · exact sent
          · exact (runActions_answered rest (by rw [sent]; rfl)).trans sent
      | false =>
          obtain ⟨unsent,goesOn⟩ := runAction_silent fresh first
          rw [answering,first,Bool.false_or] at answers
          rw [runActions,goesOn]
          exact ih unsent answers

theorem runActions_silent (actions : List ResponseAction) (fresh : progress.response = .fresh)
    (silent : answering context progress actions = false) :
    (runActions context progress actions).response = .fresh := by
  induction actions generalizing progress with
  | nil => exact fresh
  | cons action rest ih =>
      obtain ⟨first,others⟩ := Bool.or_eq_false_iff.mp silent
      obtain ⟨unsent,goesOn⟩ := runAction_silent fresh first
      rw [runActions,goesOn]
      exact ih unsent others

end Answering

namespace ResponseEngine
variable {engine : ResponseEngine} {context : ActionExecutionContext} {riskScore : JsNumber ℚ}

theorem executeResponse_returns (engine : ResponseEngine) (context : ActionExecutionContext) (riskScore : JsNumber ℚ) :
    ∃ result, (engine.executeResponse context riskScore .fresh).outcome = .ok result := by
  unfold executeResponse
  split
  · dsimp only
    split
    · exact ⟨_,rfl⟩
    · unfold respond
      split <;> exact ⟨_,rfl⟩
  · exact ⟨_,rfl⟩

theorem executeResponse_answers (answers : engine.answers context riskScore = true) :
    ∃ answer, (engine.executeResponse context riskScore .fresh).response = ⟨[answer]⟩ := by
  obtain ⟨enabled,answered⟩ := (Bool.and_eq_true _ _).mp answers
  rw [executeResponse,if_pos enabled]
  cases asked : (engine.isSessionBlocked context.now context.key).1 with
  | true => exact ⟨_,by simp only [asked,if_true]; rfl⟩
  | false =>
      simp only [asked,Bool.false_or] at answered
      simp only [asked,Bool.false_eq_true,if_false,respond]
      cases selected : (engine.isSessionBlocked context.now context.key).2.selectResponseTier context.now riskScore
          context.sessionId with
      | none => simp [selected] at answered
      | some decision =>
          simp only [selected] at answered
          exact runActions_answers _ rfl answered

theorem executeResponse_silent (silent : engine.answers context riskScore = false) :
    (engine.executeResponse context riskScore .fresh).response = .fresh := by
  unfold executeResponse
  split
  · rename_i enabled
    simp only [answers,enabled,Bool.true_and,Bool.or_eq_false_iff] at silent
    obtain ⟨asked,unanswered⟩ := silent
    simp only [asked,Bool.false_eq_true,if_false,respond]
    cases selected : (engine.isSessionBlocked context.now context.key).2.selectResponseTier context.now riskScore
        context.sessionId with
    | none => rfl
    | some decision =>
        simp only [selected] at unanswered
        exact runActions_silent _ rfl unanswered
  · rfl

end ResponseEngine

section DefaultConfiguration

def logOnly : ResponseAction := ⟨.logOnly,1,true,{}⟩

def limited (requests burst : ℚ) : ResponseAction :=
  ⟨.rateLimit,2,true,{ rateLimit := some ⟨requests,60000,some burst⟩ }⟩

def alerting (severity : ℚ) (priority : AlertPriority) (aggregation : Bool) : ResponseAction :=
  ⟨.alertAdmin,severity,true,{ alert := some ⟨[.email,.webhook],priority,aggregation⟩ }⟩

def blocking (severity duration : ℚ) (message redirectUrl : String) : ResponseAction :=
  ⟨.temporaryBlock,severity,true,{ block := some ⟨duration,message,some redirectUrl⟩ }⟩

def getDefaultResponseConfiguration : ResponseConfiguration where
  enabled := true
  tiers :=
    [⟨.monitor,⟨.finite 0,.finite (3/10)⟩,[logOnly]⟩,
      ⟨.warn,⟨.finite (3/10),.finite (5/10)⟩,[logOnly,limited 100 10]⟩,
      ⟨.restrict,⟨.finite (5/10),.finite (7/10)⟩,[logOnly,limited 30 5,alerting 4 .medium true]⟩,
      ⟨.block,⟨.finite (7/10),.finite (85/100)⟩,
        [logOnly,blocking 8 900000 "Access temporarily restricted due to suspicious activity" "/security-notice",
          alerting 9 .high false]⟩,
      ⟨.isolate,⟨.finite (85/100),.finite 1⟩,
        [logOnly,blocking 10 3600000 "Access denied due to security violation. Contact administrator."
          "/security-violation",alerting 10 .critical false]⟩]

end DefaultConfiguration
end PhantomFlow.Response
