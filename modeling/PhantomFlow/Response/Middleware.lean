import PhantomFlow.Library.Machine
import PhantomFlow.Response.ResponseEngine

namespace PhantomFlow.Response
open Library Library.Machine

inductive RiskLevel where
  | low | medium | high | critical
  deriving DecidableEq

structure Analysis where
  contextualScore : JsNumber ℚ
  riskLevel : RiskLevel

abbrev RandomDigits := List (Fin 36)

-- A request and what it meets on its way. No analysis stands for one that throws,
-- no `deceptionId` for an environment that could not be stored; `interrupted` says
-- that publishing the assessment throws, `diverts` that the adaptive engine picks
-- the honeypot.
structure Request where
  path : String
  ip : Option String
  now : ℤ
  sessionDraws : RandomDigits × RandomDigits
  challengeDraw : String := ""
  analysis : Option Analysis
  interrupted : Bool := false
  deceptionId : Option String := none
  diverts : Bool := false

structure ThreatAssessment where
  threatScore : JsNumber ℚ
  riskLevel : RiskLevel
  responseExecution : Option ResponseExecutionResult

namespace ThreatDetectionEngine

def digit36 (digit : Fin 36) : Char :=
  if digit.val < 10 then Char.ofNat (48 + digit.val) else Char.ofNat (87 + digit.val)

def generateSessionId (draws : RandomDigits × RandomDigits) : String :=
  String.ofList ((draws.1.take 13 ++ draws.2.take 13).map digit36)

def clientAddress (ip : Option String) : String :=
  match ip with
  | some address => if address = "" then "unknown" else address
  | none => "unknown"

-- Whatever the request carries, its session id is generated.
def contextOf (request : Request) : ActionExecutionContext :=
  ⟨request.now,clientAddress request.ip,generateSessionId request.sessionDraws,request.challengeDraw⟩

def getDefaultAssessment : ThreatAssessment := ⟨.finite (1/10),.low,none⟩

structure Detection where
  engine : ResponseEngine
  response : HttpResponse
  assessment : ThreatAssessment

def detectThreats (engine : ResponseEngine) (request : Request) (res : HttpResponse) : Detection :=
  match request.analysis with
  | none => ⟨engine,res,getDefaultAssessment⟩
  | some analysis =>
    let run := engine.executeResponse (contextOf request) analysis.contextualScore res
    match run.outcome with
    | .ok result => ⟨run.engine,run.response,⟨analysis.contextualScore,analysis.riskLevel,some result⟩⟩
    | .error _ => ⟨run.engine,run.response,getDefaultAssessment⟩

end ThreatDetectionEngine

inductive Effect where
  | next
  | sent (answer : Answer)
  | refused (answer : Answer)
  deriving DecidableEq

def Effect.delivered : Effect → Option Answer
  | .sent answer => some answer
  | .next | .refused _ => none

structure Handled where
  answered : List Answer
  effects : List Effect
  deriving DecidableEq

namespace Middleware
open ThreatDetectionEngine

def skipPaths : List String := ["/graph","/bandit","/docs","/playbooks","/l2"]

def skips (path : String) : Bool := skipPaths.any (fun skipped => skipped.toList.isPrefixOf path.toList)

def createDeceptionEnvironment (deceptionId : Option String) : String := "/deception/" ++ deceptionId.getD "default"

def deception (request : Request) : Answer := .redirect (createDeceptionEnvironment request.deceptionId)

-- The adaptive engine runs on its own after the request has been passed on; it
-- redirects only where nothing was sent.
def adaptiveDecision (request : Request) (res : HttpResponse) : List Effect :=
  if request.diverts && !res.headersSent then [.sent (.redirect (DivertAction.targetUrl {}))] else []

-- Neither the response nor its record in the assessment is looked at; what throws
-- is caught, and the request goes on.
def afterDetection (request : Request) (res : HttpResponse) (assessment : ThreatAssessment) : List Effect :=
  if request.interrupted then [.next]
  else if assessment.riskLevel = .critical then
    match res.send (deception request) with
    | .ok _ => [.sent (deception request)]
    | .error _ => [.refused (deception request),.next]
  else .next :: adaptiveDecision request res

def handle (engine : ResponseEngine) (request : Request) : ResponseEngine × Handled :=
  if skips request.path then (engine,⟨[],[.next]⟩)
  else
    let detected := detectThreats engine request .fresh
    (detected.engine,⟨detected.response.sent,afterDetection request detected.response detected.assessment⟩)

end Middleware

structure Stops (handled : Handled) : Prop where
  final : handled.answered ≠ [] → Effect.next ∉ handled.effects ∧
    ∀ answer, Effect.sent answer ∉ handled.effects ∧ Effect.refused answer ∉ handled.effects
  single : (handled.answered ++ handled.effects.filterMap Effect.delivered).length ≤ 1

def Unanswered (engine : ResponseEngine) (request : Request) : Prop :=
  Middleware.skips request.path = true ∨ ∀ analysis, request.analysis = some analysis →
    engine.answers (ThreatDetectionEngine.contextOf request) analysis.contextualScore = false

section Processing
variable {engine : ResponseEngine} {request : Request} {res : HttpResponse}
open ThreatDetectionEngine Middleware

theorem afterDetection_answered (answered : res.headersSent = true) (request : Request)
    (assessment : ThreatAssessment) : Effect.next ∈ afterDetection request res assessment := by
  unfold afterDetection
  split
  · exact List.mem_singleton_self _
  · split
    · rw [send_answered answered]
      exact List.mem_cons_of_mem _ (List.mem_singleton_self _)
    · exact List.mem_cons_self

theorem afterDetection_single (request : Request) (res : HttpResponse) (assessment : ThreatAssessment) :
    ((afterDetection request res assessment).filterMap Effect.delivered).length ≤ 1 := by
  unfold afterDetection
  split
  · exact Nat.zero_le 1
  · split
    · cases res.send (deception request) with
      | ok response => exact Nat.le_refl 1
      | error message => exact Nat.zero_le 1
    · unfold adaptiveDecision
      split
      · exact Nat.le_refl 1
      · exact Nat.zero_le 1

theorem detectThreats_unanswered (silent : ∀ analysis, request.analysis = some analysis →
    engine.answers (contextOf request) analysis.contextualScore = false) :
    (detectThreats engine request .fresh).response = .fresh := by
  unfold detectThreats
  cases analysed : request.analysis with
  | none => rfl
  | some analysis =>
      obtain ⟨result,returned⟩ := engine.executeResponse_returns (contextOf request) analysis.contextualScore
      simp only [returned]
      exact ResponseEngine.executeResponse_silent (silent analysis analysed)

theorem detectThreats_answered (analysed : request.analysis = some analysis)
    (answers : engine.answers (contextOf request) analysis.contextualScore = true) :
    ∃ answer, (detectThreats engine request .fresh).response = ⟨[answer]⟩ := by
  obtain ⟨result,returned⟩ := engine.executeResponse_returns (contextOf request) analysis.contextualScore
  obtain ⟨answer,sent⟩ := ResponseEngine.executeResponse_answers answers
  refine ⟨answer,?_⟩
  simp only [detectThreats,analysed,returned]
  exact sent

theorem stops_exact (engine : ResponseEngine) (request : Request) :
    Stops (handle engine request).2 ↔ Unanswered engine request := by
  unfold handle Unanswered
  cases skipped : skips request.path with
  | true =>
      refine iff_of_true ⟨fun answered => absurd rfl answered,?_⟩ (.inl rfl)
      exact Nat.zero_le 1
  | false =>
      simp only [Bool.false_eq_true,if_false,false_or]
      constructor
      · intro stops analysis analysed
        cases answers : engine.answers (contextOf request) analysis.contextualScore with
        | false => rfl
        | true =>
            obtain ⟨answer,sent⟩ := detectThreats_answered analysed answers
            have headers : (detectThreats engine request .fresh).response.headersSent = true := by rw [sent]; rfl
            have passed := afterDetection_answered headers request (detectThreats engine request .fresh).assessment
            exact absurd passed (stops.final (by rw [sent]; exact List.cons_ne_nil _ _)).1
      · intro silent
        have unsent := detectThreats_unanswered silent
        refine ⟨fun answered => absurd (by rw [unsent]; rfl) answered,?_⟩
        rw [unsent]
        exact afterDetection_single _ _ _

end Processing

-- In every run of the server an answered request stops at the middleware exactly
-- when no request is answered: the middleware never looks at the response.
theorem answered_requests_stop_exact (config : ResponseConfiguration) (requests : List Request) :
    Along Middleware.handle (fun engine request => Stops (Middleware.handle engine request).2)
      (ResponseEngine.create config) requests ↔
    Along Middleware.handle Unanswered (ResponseEngine.create config) requests :=
  @along_exact _ _ _ Middleware.handle _ _ (fun _ => True) (fun _ => True) _ _ (fun _ _ _ _ => trivial)
    (fun engine request _ => stops_exact engine request) trivial (fun _ _ => trivial)

def suspect (now : ℤ) (digit : Fin 36) (score : ℚ) (riskLevel : RiskLevel) : Request :=
  { path := "/", ip := some "203.0.113.7", now, sessionDraws := ([digit],[digit]),
    analysis := some ⟨.finite score,riskLevel⟩ }

-- The shipped tiers answer a high-risk request with a block and pass it on; a
-- critical one is also redirected, in vain.
theorem blocked_request_passed_on :
    let requests := [suspect 0 1 (3/4) .high,suspect 1 2 (9/10) .critical]
    let run := exec Middleware.handle (.create getDefaultResponseConfiguration) requests
    run.2.map (fun handled => handled.answered.map Answer.status) = [[403],[403]] ∧
    run.2.map Handled.effects = [[.next],[.refused (.redirect "/deception/default"),.next]] ∧
    ¬Along Middleware.handle (fun engine request => Stops (Middleware.handle engine request).2)
      (.create getDefaultResponseConfiguration) requests := by
  refine ⟨by decide +kernel,by decide +kernel,fun stops => ?_⟩
  have first := (stops.1.final (by decide +kernel)).1
  revert first
  decide +kernel

end PhantomFlow.Response
