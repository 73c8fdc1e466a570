import Mathlib.Algebra.Order.Floor.Ring
import Mathlib.Data.Rat.Floor
import PhantomFlow.Library.OrderedMap

namespace PhantomFlow.Response
open Library

inductive ResponseActionType where
  | allow | logOnly | rateLimit | challengeResponse | stepUpAuth | deceptionRedirect
  | temporaryBlock | permanentBlock | quarantine | alertAdmin | honeypotEngage | divert
  deriving DecidableEq

def ResponseActionType.name : ResponseActionType → String
  | .allow => "allow"
  | .logOnly => "log_only"
  | .rateLimit => "rate_limit"
  | .challengeResponse => "challenge_response"
  | .stepUpAuth => "step_up_auth"
  | .deceptionRedirect => "deception_redirect"
  | .temporaryBlock => "temporary_block"
  | .permanentBlock => "permanent_block"
  | .quarantine => "quarantine"
  | .alertAdmin => "alert_admin"
  | .honeypotEngage => "honeypot_engage"
  | .divert => "divert"

structure RateLimitSettings where
  requests : ℚ
  window : ℚ
  burst : Option ℚ
  deriving DecidableEq

inductive ChallengeType where
  | captcha | javascript | proofOfWork
  deriving DecidableEq

structure ChallengeSettings where
  type : ChallengeType
  difficulty : ℚ
  timeout : ℚ
  deriving DecidableEq

inductive AuthenticationMethod where
  | password | mfa | biometric
  deriving DecidableEq

structure AuthenticationSettings where
  required : Bool
  methods : List AuthenticationMethod
  timeout : ℚ
  deriving DecidableEq

structure BlockSettings where
  duration : ℚ
  message : String
  redirectUrl : Option String
  deriving DecidableEq

inductive DeceptionLogLevel where
  | basic | detailed | forensic
  deriving DecidableEq

structure DeceptionSettings where
  honeypotUrl : String
  logLevel : DeceptionLogLevel
  trackingDuration : ℚ
  deriving DecidableEq

inductive AlertChannel where
  | email | slack | webhook | sms
  deriving DecidableEq

inductive AlertPriority where
  | low | medium | high | critical
  deriving DecidableEq

structure AlertSettings where
  channels : List AlertChannel
  priority : AlertPriority
  aggregation : Bool
  deriving DecidableEq

structure ResponseActionConfig where
  rateLimit : Option RateLimitSettings := none
  challenge : Option ChallengeSettings := none
  authentication : Option AuthenticationSettings := none
  block : Option BlockSettings := none
  deception : Option DeceptionSettings := none
  alert : Option AlertSettings := none
  deriving DecidableEq

inductive Answer where
  | rateLimitExceeded (retryAfter : ℤ) (limit window : ℚ)
  | accessBlocked (reason : String) (blockedUntil duration : ℚ) (redirectUrl : Option String)
  | sessionBlocked (sessionId : String)
  | challengeRequired (type : ChallengeType) (token : String) (difficulty timeout : Option ℚ)
  | redirect (url : String)
  deriving DecidableEq

def Answer.status : Answer → ℕ
  | .rateLimitExceeded _ _ _ => 429
  | .accessBlocked _ _ _ _ | .sessionBlocked _ => 403
  | .challengeRequired _ _ _ _ => 401
  | .redirect _ => 302

structure HttpResponse where
  sent : List Answer
  deriving DecidableEq

namespace HttpResponse

def fresh : HttpResponse := ⟨[]⟩

def headersSent (res : HttpResponse) : Bool := !res.sent.isEmpty

-- A second answer throws where it would set its headers.
def send (res : HttpResponse) (answer : Answer) : Except String HttpResponse :=
  if res.headersSent then .error "Cannot set headers after they are sent to the client"
  else .ok ⟨res.sent ++ [answer]⟩

end HttpResponse

structure ActionExecutionContext where
  now : ℤ
  ipAddress : String
  sessionId : String
  challengeDraw : String

def ActionExecutionContext.key (context : ActionExecutionContext) : String :=
  context.ipAddress ++ ":" ++ context.sessionId

inductive ActionMetadata where
  | allowed
  | logged
  | counted (blocked : Bool) (reason : Option String) (currentCount : Option ℕ)
  | blocked (duration : ℚ) (reason : String)
  | alerted (channels : List AlertChannel) (priority : AlertPriority)
  | redirected (targetUrl : String)
  | challenged (type : ChallengeType) (token : String)
  deriving DecidableEq

structure ActionExecutionResult where
  success : Bool
  error : Option String := none
  metadata : Option ActionMetadata := none
  deriving DecidableEq

structure RateLimitEntry where
  count : ℕ
  resetTime : ℚ
  deriving DecidableEq

structure BlockInfo where
  blockedUntil : ℚ
  reason : String
  deriving DecidableEq

-- An action object, without the type and configuration it is stored under. Only a
-- `RateLimitAction` fills the first store and only a `TemporaryBlockAction` the second.
structure BaseResponseAction where
  rateLimitStore : OrderedMap String RateLimitEntry
  blockedSessions : OrderedMap String BlockInfo

structure ActionRun where
  action : BaseResponseAction
  response : HttpResponse
  result : ActionExecutionResult

-- The body of an action inside its `try`: an exception is the result's error, and
-- nothing has gone out.
def completed (action : BaseResponseAction) (res : HttpResponse) (metadata : ActionMetadata)
    (body : Except String HttpResponse) : ActionRun :=
  match body with
  | .ok response => ⟨action,response,⟨true,none,some metadata⟩⟩
  | .error message => ⟨action,res,⟨false,some message,none⟩⟩

def thrown (action : BaseResponseAction) (res : HttpResponse) (message : String) : ActionRun :=
  ⟨action,res,⟨false,some message,none⟩⟩

namespace RateLimitAction

def cleanupExpiredEntries (action : BaseResponseAction) (windowStart : ℚ) : BaseResponseAction :=
  { action with
    rateLimitStore := action.rateLimitStore.filter (fun _ entry => decide (¬entry.resetTime < windowStart)) }

def current (action : BaseResponseAction) (settings : RateLimitSettings) (context : ActionExecutionContext) :
    RateLimitEntry :=
  ((cleanupExpiredEntries action (context.now - settings.window)).rateLimitStore.get context.key).getD
    ⟨0,context.now + settings.window⟩

def execute (action : BaseResponseAction) (config : ResponseActionConfig) (context : ActionExecutionContext)
    (res : HttpResponse) : ActionRun :=
  match config.rateLimit with
  | none => thrown action res "Rate limit configuration is required"
  | some settings =>
    let cleaned := cleanupExpiredEntries action (context.now - settings.window)
    let entry := current action settings context
    if settings.requests ≤ entry.count then
      completed cleaned res (.counted true (some "rate_limit_exceeded") none)
        (res.send (.rateLimitExceeded ⌈(entry.resetTime - context.now) / 1000⌉ settings.requests (settings.window / 1000)))
    else
      completed
        { cleaned with
          rateLimitStore := cleaned.rateLimitStore.set context.key { entry with count := entry.count + 1 } }
        res (.counted false none (some (entry.count + 1))) (.ok res)

end RateLimitAction

namespace TemporaryBlockAction

def cleanupExpiredBlocks (action : BaseResponseAction) (now : ℤ) : BaseResponseAction :=
  { action with blockedSessions := action.blockedSessions.filter (fun _ info => decide (¬info.blockedUntil < now)) }

def reason (settings : BlockSettings) : String :=
  if settings.message = "" then "Access temporarily restricted due to security concerns" else settings.message

def store (action : BaseResponseAction) (settings : BlockSettings) (context : ActionExecutionContext) :
    BaseResponseAction :=
  cleanupExpiredBlocks
    { action with
      blockedSessions := action.blockedSessions.set context.key ⟨context.now + settings.duration,reason settings⟩ }
    context.now

-- The range of `Date`; beyond it the end of the block has no text.
def validDate (time : ℚ) : Bool := decide (|time| ≤ 8640000000000000)

-- The block is stored before the answer is sent, and stays when that throws.
def execute (action : BaseResponseAction) (config : ResponseActionConfig) (context : ActionExecutionContext)
    (res : HttpResponse) : ActionRun :=
  match config.block with
  | none => thrown action res "Block configuration is required"
  | some settings =>
    let stored := store action settings context
    let blockedUntil := context.now + settings.duration
    if validDate blockedUntil then
      completed stored res (.blocked settings.duration settings.message)
        (res.send (.accessBlocked (reason settings) blockedUntil (settings.duration / 1000) settings.redirectUrl))
    else thrown stored res "Invalid time value"

def isBlocked (action : BaseResponseAction) (key : String) (now : ℤ) : Bool × BaseResponseAction :=
  match action.blockedSessions.get key with
  | none => (false,action)
  | some info =>
    if info.blockedUntil < now then (false,{ action with blockedSessions := action.blockedSessions.delete key })
    else (true,action)

end TemporaryBlockAction

def AlertAdminAction.execute (action : BaseResponseAction) (config : ResponseActionConfig) (res : HttpResponse) :
    ActionRun :=
  match config.alert with
  | none => thrown action res "Alert configuration is required"
  | some settings => completed action res (.alerted settings.channels settings.priority) (.ok res)

def DivertAction.targetUrl (config : ResponseActionConfig) : String :=
  match config.deception with
  | some settings => if settings.honeypotUrl = "" then "/honeypot" else settings.honeypotUrl
  | none => "/honeypot"

def DivertAction.execute (action : BaseResponseAction) (config : ResponseActionConfig) (res : HttpResponse) : ActionRun :=
  completed action res (.redirected (targetUrl config)) (res.send (.redirect (targetUrl config)))

namespace ChallengeAction

def settings (config : ResponseActionConfig) : ChallengeSettings := config.challenge.getD ⟨.javascript,5,60000⟩

def execute (action : BaseResponseAction) (config : ResponseActionConfig) (context : ActionExecutionContext)
    (res : HttpResponse) : ActionRun :=
  let settings := settings config
  let token := "ch_" ++ toString context.now ++ "_" ++ context.challengeDraw
  let answer := match settings.type with
    | .captcha => Answer.challengeRequired .captcha token none none
    | .javascript | .proofOfWork => .challengeRequired settings.type token (some settings.difficulty) (some settings.timeout)
  completed action res (.challenged settings.type token) (res.send answer)

end ChallengeAction

namespace ResponseActionFactory

def supported : ResponseActionType → Bool
  | .allow | .logOnly | .rateLimit | .temporaryBlock | .alertAdmin | .challengeResponse | .divert => true
  | .stepUpAuth | .deceptionRedirect | .permanentBlock | .quarantine | .honeypotEngage => false

def createAction (type : ResponseActionType) : Except String BaseResponseAction :=
  if supported type then .ok ⟨.empty,.empty⟩
  else .error ("Unsupported response action type: " ++ type.name)

end ResponseActionFactory

-- There is no object of an unsupported type; its branch is the factory's.
def BaseResponseAction.execute (action : BaseResponseAction) (type : ResponseActionType)
    (config : ResponseActionConfig) (context : ActionExecutionContext) (res : HttpResponse) : ActionRun :=
  match type with
  | .rateLimit => RateLimitAction.execute action config context res
  | .temporaryBlock => TemporaryBlockAction.execute action config context res
  | .alertAdmin => AlertAdminAction.execute action config res
  | .challengeResponse => ChallengeAction.execute action config context res
  | .divert => DivertAction.execute action config res
  | .logOnly => completed action res .logged (.ok res)
  | .allow => completed action res .allowed (.ok res)
  | .stepUpAuth | .deceptionRedirect | .permanentBlock | .quarantine | .honeypotEngage =>
    thrown action res ("Unsupported response action type: " ++ type.name)

namespace BaseResponseAction

def answers (action : BaseResponseAction) (type : ResponseActionType) (config : ResponseActionConfig)
    (context : ActionExecutionContext) : Bool :=
  match type with
  | .challengeResponse | .divert => true
  | .temporaryBlock =>
    config.block.any (fun settings => TemporaryBlockAction.validDate (context.now + settings.duration))
  | .rateLimit =>
    config.rateLimit.any (fun settings => decide (settings.requests ≤ (RateLimitAction.current action settings context).count))
  | .allow | .logOnly | .alertAdmin | .stepUpAuth | .deceptionRedirect | .permanentBlock | .quarantine
  | .honeypotEngage => false

end BaseResponseAction

section Sending
variable {action : BaseResponseAction} {res : HttpResponse}

theorem send_answered (answered : res.headersSent = true) (answer : Answer) :
    res.send answer = .error "Cannot set headers after they are sent to the client" := by
  simp [HttpResponse.send,answered]

theorem completed_answered (answered : res.headersSent = true) (metadata : ActionMetadata) (answer : Answer) :
    (completed action res metadata (res.send answer)).response = res := by
  rw [send_answered answered]
  rfl

theorem completed_action (action : BaseResponseAction) (res : HttpResponse) (metadata : ActionMetadata)
    (body : Except String HttpResponse) : (completed action res metadata body).action = action := by
  cases body <;> rfl

theorem TemporaryBlockAction.execute_stores (configured : config.block = some settings)
    (action : BaseResponseAction) (context : ActionExecutionContext) (res : HttpResponse) :
    (execute action config context res).action = store action settings context := by
  simp only [execute,configured]
  split
  · exact completed_action _ _ _ _
  · rfl

theorem execute_answered (answered : res.headersSent = true) (type : ResponseActionType)
    (config : ResponseActionConfig) (context : ActionExecutionContext) :
    (action.execute type config context res).response = res := by
  cases type with
  | rateLimit =>
      simp only [BaseResponseAction.execute,RateLimitAction.execute]
      split
      · rfl
      · split
        · exact completed_answered answered _ _
        · rfl
  | temporaryBlock =>
      simp only [BaseResponseAction.execute,TemporaryBlockAction.execute]
      split
      · rfl
      · split
        · exact completed_answered answered _ _
        · rfl
  | alertAdmin =>
      simp only [BaseResponseAction.execute,AlertAdminAction.execute]
      split <;> rfl
  | challengeResponse => exact completed_answered answered _ _
  | divert => exact completed_answered answered _ _
  | allow | logOnly | stepUpAuth | deceptionRedirect | permanentBlock | quarantine | honeypotEngage => rfl

theorem execute_answers {type : ResponseActionType} {config : ResponseActionConfig} {context : ActionExecutionContext}
    (answers : action.answers type config context = true) :
    ∃ answer, (action.execute type config context .fresh).response = ⟨[answer]⟩ := by
  cases type with
  | rateLimit =>
      obtain ⟨settings,configured,reached⟩ := (Option.any_eq_true _ _).mp answers
      simp only [BaseResponseAction.execute,RateLimitAction.execute,configured,if_pos (of_decide_eq_true reached)]
      exact ⟨_,rfl⟩
  | temporaryBlock =>
      obtain ⟨settings,configured,valid⟩ := (Option.any_eq_true _ _).mp answers
      simp only [BaseResponseAction.execute,TemporaryBlockAction.execute,configured,if_pos valid]
      exact ⟨_,rfl⟩
  | challengeResponse => exact ⟨_,rfl⟩
  | divert => exact ⟨_,rfl⟩
  | allow | logOnly | alertAdmin | stepUpAuth | deceptionRedirect | permanentBlock | quarantine | honeypotEngage =>
      cases answers

theorem execute_silent {type : ResponseActionType} {config : ResponseActionConfig} {context : ActionExecutionContext}
    (silent : action.answers type config context = false) :
    (action.execute type config context .fresh).response = .fresh ∧
      ((action.execute type config context .fresh).result.success = true →
        type = .allow ∨ type = .logOnly ∨ type = .rateLimit ∨ type = .alertAdmin) := by
  cases type with
  | rateLimit =>
      refine ⟨?_,by simp⟩
      simp only [BaseResponseAction.execute,RateLimitAction.execute]
      split
      · rfl
      · rename_i settings configured
        have below : ¬settings.requests ≤ (RateLimitAction.current action settings context).count := by
          simpa [BaseResponseAction.answers,configured] using silent
        rw [if_neg below]
        rfl
  | temporaryBlock =>
      simp only [BaseResponseAction.execute,TemporaryBlockAction.execute]
      split
      · exact ⟨rfl,fun succeeded => nomatch succeeded⟩
      · rename_i settings configured
        have invalid : TemporaryBlockAction.validDate (context.now + settings.duration) = false := by
          simpa [BaseResponseAction.answers,configured] using silent
        rw [invalid]
        exact ⟨rfl,fun succeeded => nomatch succeeded⟩
  | alertAdmin =>
      refine ⟨?_,by simp⟩
      simp only [BaseResponseAction.execute,AlertAdminAction.execute]
      split <;> rfl
  | challengeResponse | divert => cases silent
  | allow | logOnly => exact ⟨rfl,by simp⟩
  | stepUpAuth | deceptionRedirect | permanentBlock | quarantine | honeypotEngage =>
      exact ⟨rfl,fun succeeded => nomatch succeeded⟩

end Sending
end PhantomFlow.Response
