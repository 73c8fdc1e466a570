import Mathlib.Data.List.Induction
import PhantomFlow.Response.Middleware

namespace PhantomFlow.Response
open Library Library.Machine ThreatDetectionEngine

def blockOf (instances : ActionInstances) (config : ResponseActionConfig) (key : String) : Option BlockInfo :=
  (instances.get (.temporaryBlock,config)).bind (fun action => action.blockedSessions.get key)

-- How a call can change the blocks: those in force under other keys stay, and a new
-- one is under its own key, from its configuration.
structure Evolves (context : ActionExecutionContext) (before after : ActionInstances) : Prop where
  kept : ∀ config key info, key ≠ context.key → blockOf before config key = some info →
    (context.now : ℚ) ≤ info.blockedUntil → blockOf after config key = some info
  origin : ∀ config key info, blockOf after config key = some info → blockOf before config key = some info ∨
    (key = context.key ∧ ∃ settings, config.block = some settings ∧ info.blockedUntil = context.now + settings.duration)

structure Forgets (now : ℤ) (before after : ActionInstances) : Prop where
  kept : ∀ config key info, blockOf before config key = some info → (now : ℚ) ≤ info.blockedUntil →
    blockOf after config key = some info
  origin : ∀ config key info, blockOf after config key = some info → blockOf before config key = some info

section Changes
variable {context : ActionExecutionContext} {first second third : ActionInstances}

theorem Evolves.refl (context : ActionExecutionContext) (instances : ActionInstances) :
    Evolves context instances instances :=
  ⟨fun _ _ _ _ present _ => present,fun _ _ _ present => .inl present⟩

theorem Evolves.trans (one : Evolves context first second) (two : Evolves context second third) :
    Evolves context first third where
  kept config key info other present inForce :=
    two.kept config key info other (one.kept config key info other present inForce) inForce
  origin config key info present := by
    rcases two.origin config key info present with earlier | new
    · exact one.origin config key info earlier
    · exact .inr new

theorem Forgets.refl (now : ℤ) (instances : ActionInstances) : Forgets now instances instances :=
  ⟨fun _ _ _ present _ => present,fun _ _ _ present => present⟩

theorem Forgets.trans (one : Forgets now first second) (two : Forgets now second third) : Forgets now first third where
  kept config key info present inForce := two.kept config key info (one.kept config key info present inForce) inForce
  origin config key info present := one.origin config key info (two.origin config key info present)

theorem Forgets.evolves (forgets : Forgets context.now first second) : Evolves context first second :=
  ⟨fun config key info _ => forgets.kept config key info,fun config key info present =>
    .inl (forgets.origin config key info present)⟩

theorem blockOf_set (instances : ActionInstances) (name : ResponseActionType × ResponseActionConfig)
    (action : BaseResponseAction) (config : ResponseActionConfig) (key : String) :
    blockOf (instances.set name action) config key =
      if (.temporaryBlock,config) = name then action.blockedSessions.get key else blockOf instances config key := by
  unfold blockOf
  rw [OrderedMap.get_set]
  split <;> rfl

theorem forgets_set {now : ℤ} {action : BaseResponseAction} (stored : first.get name = some action)
    (kept : ∀ key info, action.blockedSessions.get key = some info → (now : ℚ) ≤ info.blockedUntil →
      replaced.blockedSessions.get key = some info)
    (origin : ∀ key info, replaced.blockedSessions.get key = some info → action.blockedSessions.get key = some info) :
    Forgets now first (first.set name replaced) := by
  constructor
  · intro config key info present inForce
    rw [blockOf_set]
    split
    · rename_i here
      rw [blockOf,here,stored] at present
      exact kept key info present inForce
    · exact present
  · intro config key info present
    rw [blockOf_set] at present
    split at present
    · rename_i here
      rw [blockOf,here,stored]
      exact origin key info present
    · exact present

theorem isBlocked_forgets (action : BaseResponseAction) (key : String) (now : ℤ) (stored : first.get name = some action) :
    Forgets now first (first.set name (TemporaryBlockAction.isBlocked action key now).2) := by
  unfold TemporaryBlockAction.isBlocked
  split
  · exact forgets_set stored (fun _ _ present _ => present) (fun _ _ present => present)
  · rename_i info found
    split
    · rename_i ended
      refine forgets_set stored ?_ ?_
      · intro key' info' present inForce
        rw [OrderedMap.get_delete]
        split
        · rename_i same
          subst key'
          rw [found] at present
          cases present
          exact absurd ended (not_lt.mpr inForce)
        · exact present
      · intro key' info' present
        rw [OrderedMap.get_delete] at present
        split at present
        · cases present
        · exact present
    · exact forgets_set stored (fun _ _ present _ => present) (fun _ _ present => present)

theorem isBlocked_exact (action : BaseResponseAction) (key : String) (now : ℤ) :
    (TemporaryBlockAction.isBlocked action key now).1 = true ↔
      ∃ info, action.blockedSessions.get key = some info ∧ (now : ℚ) ≤ info.blockedUntil := by
  unfold TemporaryBlockAction.isBlocked
  cases action.blockedSessions.get key with
  | none => simp
  | some info =>
      by_cases ended : info.blockedUntil < (now : ℚ)
      · simp [ended]
      · simpa [ended] using not_lt.mp ended

theorem askInstances_forgets (now : ℤ) (key : String) (names : List (ResponseActionType × ResponseActionConfig))
    (instances : ActionInstances) :
    Forgets now instances (ResponseEngine.askInstances now key names instances).2 := by
  induction names generalizing instances with
  | nil => exact Forgets.refl _ _
  | cons name rest ih =>
      unfold ResponseEngine.askInstances
      split
      · rename_i action type stored
        dsimp only
        split
        · exact isBlocked_forgets action key now stored
        · exact (isBlocked_forgets action key now stored).trans (ih _)
      · exact ih instances

theorem askInstances_exact (now : ℤ) (key : String) (names : List (ResponseActionType × ResponseActionConfig))
    (instances : ActionInstances) :
    (ResponseEngine.askInstances now key names instances).1 = true ↔
      ∃ config info, (.temporaryBlock,config) ∈ names ∧ blockOf instances config key = some info ∧
        (now : ℚ) ≤ info.blockedUntil := by
  induction names generalizing instances with
  | nil => simp [ResponseEngine.askInstances]
  | cons name rest ih =>
      unfold ResponseEngine.askInstances
      split
      · rename_i type action named stored
        have forgets := isBlocked_forgets action key now stored
        have answer := isBlocked_exact action key now
        have own : ∀ config, (ResponseActionType.temporaryBlock,config) = name →
            blockOf instances config key = action.blockedSessions.get key := by
          intro config here
          rw [blockOf,here,stored]
          rfl
        dsimp only
        cases blocked : (TemporaryBlockAction.isBlocked action key now).1 with
        | true =>
            obtain ⟨info,found,inForce⟩ := answer.mp blocked
            have here : (ResponseActionType.temporaryBlock,name.2) = name := by rw [← named]
            exact iff_of_true rfl ⟨name.2,info,by rw [here]; exact List.mem_cons_self,(own _ here).trans found,inForce⟩
        | false =>
            refine (ih _).trans ⟨?_,?_⟩
            · rintro ⟨config,info,asked,present,inForce⟩
              exact ⟨config,info,List.mem_cons_of_mem _ asked,forgets.origin config key info present,inForce⟩
            · rintro ⟨config,info,asked,present,inForce⟩
              rcases List.mem_cons.mp asked with here | later
              · have found := answer.mpr ⟨info,(own config here).symm.trans present,inForce⟩
                rw [blocked] at found
                cases found
              · exact ⟨config,info,later,forgets.kept config key info present inForce,inForce⟩
      · rename_i unasked
        refine (ih _).trans ⟨?_,?_⟩
        · rintro ⟨config,info,asked,present,inForce⟩
          exact ⟨config,info,List.mem_cons_of_mem _ asked,present,inForce⟩
        · rintro ⟨config,info,asked,present,inForce⟩
          rcases List.mem_cons.mp asked with here | later
          · obtain ⟨action,stored,_⟩ := Option.bind_eq_some_iff.mp present
            rw [here] at stored
            exact (unasked action (by rw [← here]) stored).elim
          · exact ⟨config,info,later,present,inForce⟩

-- The engine asks every object it has, so a session is blocked exactly when some
-- block in force has its key.
theorem isSessionBlocked_exact (engine : ResponseEngine) (now : ℤ) (key : String) :
    (engine.isSessionBlocked now key).1 = true ↔
      ∃ config info, blockOf engine.actionInstances config key = some info ∧ (now : ℚ) ≤ info.blockedUntil := by
  refine (askInstances_exact now key _ _).trans ⟨?_,?_⟩
  · rintro ⟨config,info,_,inForce⟩
    exact ⟨config,info,inForce⟩
  · rintro ⟨config,info,present,inForce⟩
    obtain ⟨action,stored,_⟩ := Option.bind_eq_some_iff.mp present
    exact ⟨config,info,List.mem_map_of_mem (f:=Prod.fst) ((OrderedMap.get_exact _ _ _).mp stored),present,inForce⟩

theorem isSessionBlocked_forgets (engine : ResponseEngine) (now : ℤ) (key : String) :
    Forgets now engine.actionInstances (engine.isSessionBlocked now key).2.actionInstances :=
  askInstances_forgets now key _ _

theorem store_get (action : BaseResponseAction) (settings : BlockSettings) (context : ActionExecutionContext)
    (key : String) (info : BlockInfo) :
    (TemporaryBlockAction.store action settings context).blockedSessions.get key = some info ↔
      (if key = context.key then some ⟨context.now + settings.duration,TemporaryBlockAction.reason settings⟩
        else action.blockedSessions.get key) = some info ∧ (context.now : ℚ) ≤ info.blockedUntil := by
  simp only [TemporaryBlockAction.store,TemporaryBlockAction.cleanupExpiredBlocks,OrderedMap.get_filter,
    OrderedMap.get_set,Option.filter_eq_some_iff,decide_eq_true_eq,not_lt]

theorem execute_kept (action : BaseResponseAction) (config : ResponseActionConfig) (context : ActionExecutionContext)
    (res : HttpResponse) (other : key ≠ context.key) (present : action.blockedSessions.get key = some info)
    (inForce : (context.now : ℚ) ≤ info.blockedUntil) :
    (action.execute .temporaryBlock config context res).action.blockedSessions.get key = some info := by
  cases configured : config.block with
  | none => simpa [BaseResponseAction.execute,TemporaryBlockAction.execute,configured,thrown] using present
  | some settings =>
      rw [BaseResponseAction.execute,TemporaryBlockAction.execute_stores configured,store_get,if_neg other]
      exact ⟨present,inForce⟩

theorem execute_origin (action : BaseResponseAction) (config : ResponseActionConfig) (context : ActionExecutionContext)
    (res : HttpResponse)
    (present : (action.execute .temporaryBlock config context res).action.blockedSessions.get key = some info) :
    action.blockedSessions.get key = some info ∨
      (key = context.key ∧ ∃ settings, config.block = some settings ∧
        info.blockedUntil = context.now + settings.duration) := by
  cases configured : config.block with
  | none => simpa [BaseResponseAction.execute,TemporaryBlockAction.execute,configured,thrown] using present
  | some settings =>
      rw [BaseResponseAction.execute,TemporaryBlockAction.execute_stores configured,store_get] at present
      by_cases own : key = context.key
      · rw [if_pos own] at present
        refine .inr ⟨own,settings,rfl,?_⟩
        rw [← Option.some.inj present.1]
      · rw [if_neg own] at present
        exact .inl present.1

theorem instanceFor_blocks (instances : ActionInstances) (type : action.type = .temporaryBlock) (key : String) :
    (instanceFor instances action).blockedSessions.get key = blockOf instances action.config key := by
  unfold instanceFor blockOf
  rw [type]
  cases instances.get (.temporaryBlock,action.config) <;> rfl

theorem runAction_blocks (context : ActionExecutionContext) (progress : Progress) (action : ResponseAction)
    (config : ResponseActionConfig) (key : String) :
    blockOf (runAction context progress action).1.instances config key =
      if (.temporaryBlock,config) = (action.type,action.config)
      then ((instanceFor progress.instances action).execute .temporaryBlock config context
        progress.response).action.blockedSessions.get key
      else blockOf progress.instances config key := by
  rcases runAction_cases context progress action with ⟨unsupported,_,message,run⟩ | ⟨instances,created,run⟩
  · rw [run,if_neg]
    intro same
    have type : ResponseActionType.temporaryBlock = action.type := congrArg Prod.fst same
    rw [← type] at unsupported
    cases unsupported
  · rw [run]
    dsimp only
    rw [blockOf_set]
    split
    · rename_i same
      rw [Prod.mk.injEq] at same
      rw [← same.1,← same.2]
    · rename_i other
      rcases created with rfl | rfl
      · rfl
      · rw [blockOf_set,if_neg other]

theorem runAction_evolves (context : ActionExecutionContext) (progress : Progress) (action : ResponseAction) :
    Evolves context progress.instances (runAction context progress action).1.instances := by
  constructor
  · intro config key info other present inForce
    rw [runAction_blocks]
    split
    · rename_i same
      rw [Prod.mk.injEq] at same
      rw [same.2,← instanceFor_blocks progress.instances same.1.symm] at present
      exact execute_kept _ _ _ _ other present inForce
    · exact present
  · intro config key info present
    rw [runAction_blocks] at present
    split at present
    · rename_i same
      rw [Prod.mk.injEq] at same
      have origin := execute_origin _ _ _ _ present
      rw [instanceFor_blocks progress.instances same.1.symm,← same.2] at origin
      exact origin
    · exact .inl present

theorem runActions_evolves (context : ActionExecutionContext) (progress : Progress) (actions : List ResponseAction) :
    Evolves context progress.instances (runActions context progress actions).instances := by
  induction actions generalizing progress with
  | nil => exact Evolves.refl _ _
  | cons action rest ih =>
      have one := runAction_evolves context progress action
      simp only [runActions]
      split
      · exact one
      · exact one.trans (ih _)

theorem respond_evolves (engine : ResponseEngine) (context : ActionExecutionContext) (riskScore : JsNumber ℚ)
    (res : HttpResponse) :
    Evolves context engine.actionInstances (engine.respond context riskScore res).engine.actionInstances := by
  unfold ResponseEngine.respond
  split
  · exact Evolves.refl _ _
  · exact runActions_evolves context ⟨engine.actionInstances,res,true,[],.empty⟩ _

end Changes

section Calls
variable {engine : ResponseEngine} {context : ActionExecutionContext} {riskScore : JsNumber ℚ} {res : HttpResponse}

theorem executeResponse_blocked (enabled : engine.config.enabled = true)
    (blocked : (engine.isSessionBlocked context.now context.key).1 = true) :
    engine.executeResponse context riskScore res =
      (engine.isSessionBlocked context.now context.key).2.handleBlockedSession res context.sessionId := by
  rw [ResponseEngine.executeResponse,if_pos enabled,if_pos blocked]

theorem executeResponse_unblocked (enabled : engine.config.enabled = true)
    (unblocked : (engine.isSessionBlocked context.now context.key).1 = false) :
    engine.executeResponse context riskScore res =
      (engine.isSessionBlocked context.now context.key).2.respond context riskScore res := by
  rw [ResponseEngine.executeResponse,if_pos enabled,if_neg (by rw [unblocked]; exact Bool.false_ne_true)]

theorem executeResponse_disabled (disabled : engine.config.enabled = false) :
    engine.executeResponse context riskScore res =
      ⟨engine,res,.ok (ResponseEngine.createSuccessResult "Response system disabled")⟩ := by
  rw [ResponseEngine.executeResponse,if_neg (by rw [disabled]; exact Bool.false_ne_true)]

theorem handleBlockedSession_engine (engine : ResponseEngine) (res : HttpResponse) (sessionId : String) :
    (engine.handleBlockedSession res sessionId).engine = engine := by
  unfold ResponseEngine.handleBlockedSession
  split <;> rfl

theorem executeResponse_evolves (engine : ResponseEngine) (context : ActionExecutionContext) (riskScore : JsNumber ℚ)
    (res : HttpResponse) :
    Evolves context engine.actionInstances (engine.executeResponse context riskScore res).engine.actionInstances := by
  have asked := (isSessionBlocked_forgets engine context.now context.key).evolves
  cases enabled : engine.config.enabled with
  | false => rw [executeResponse_disabled enabled]; exact Evolves.refl _ _
  | true =>
      cases blocked : (engine.isSessionBlocked context.now context.key).1 with
      | true => rw [executeResponse_blocked enabled blocked,handleBlockedSession_engine]; exact asked
      | false => rw [executeResponse_unblocked enabled blocked]; exact asked.trans (respond_evolves _ _ _ _)

theorem executeResponse_config (engine : ResponseEngine) (context : ActionExecutionContext) (riskScore : JsNumber ℚ)
    (res : HttpResponse) : (engine.executeResponse context riskScore res).engine.config = engine.config := by
  cases enabled : engine.config.enabled with
  | false => rw [executeResponse_disabled enabled]
  | true =>
      cases blocked : (engine.isSessionBlocked context.now context.key).1 with
      | true => rw [executeResponse_blocked enabled blocked,handleBlockedSession_engine]; rfl
      | false =>
          rw [executeResponse_unblocked enabled blocked,ResponseEngine.respond]
          split <;> rfl

theorem executeResponse_kept (present : blockOf engine.actionInstances config key = some info)
    (inForce : (context.now : ℚ) ≤ info.blockedUntil) :
    blockOf (engine.executeResponse context riskScore res).engine.actionInstances config key = some info := by
  by_cases own : key = context.key
  · cases enabled : engine.config.enabled with
    | false => rw [executeResponse_disabled enabled]; exact present
    | true =>
        have blocked := (isSessionBlocked_exact engine context.now key).mpr ⟨config,info,present,inForce⟩
        rw [own] at blocked
        rw [executeResponse_blocked enabled blocked,handleBlockedSession_engine]
        exact (isSessionBlocked_forgets engine context.now _).kept config key info present inForce
  · exact (executeResponse_evolves engine context riskScore res).kept config key info own present inForce

theorem runActions_names (context : ActionExecutionContext) (progress : Progress) (actions : List ResponseAction)
    (names : ∀ name ∈ progress.actionsExecuted, ∃ type : ResponseActionType, name = type.name) :
    ∀ name ∈ (runActions context progress actions).actionsExecuted, ∃ type : ResponseActionType, name = type.name := by
  induction actions generalizing progress with
  | nil => exact names
  | cons action rest ih =>
      have one : ∀ name ∈ (runAction context progress action).1.actionsExecuted,
          ∃ type : ResponseActionType, name = type.name := by
        rcases runAction_cases context progress action with ⟨_,_,message,run⟩ | ⟨_,_,run⟩ <;> rw [run]
        · exact names
        · intro name reported
          rcases List.mem_append.mp reported with earlier | now
          · exact names name earlier
          · exact ⟨action.type,List.mem_singleton.mp now⟩
      simp only [runActions]
      split
      · exact one
      · exact ih _ one

theorem name_ne_enforced (type : ResponseActionType) : type.name ≠ "session_block_enforced" := by
  cases type <;> decide

theorem respond_unenforced (returned : (engine.respond context riskScore res).outcome = .ok result) :
    result.actionsExecuted ≠ ["session_block_enforced"] := by
  intro executed
  unfold ResponseEngine.respond at returned
  split at returned
  · rw [← Except.ok.inj returned] at executed
    cases executed
  · rename_i decision _
    have names := runActions_names context ⟨engine.actionInstances,res,true,[],.empty⟩
      (ResponseEngine.sortedActions decision) (by simp)
    have reported : (runActions context ⟨engine.actionInstances,res,true,[],.empty⟩
        (ResponseEngine.sortedActions decision)).actionsExecuted = ["session_block_enforced"] := by
      rw [← Except.ok.inj returned] at executed
      exact executed
    rw [reported] at names
    obtain ⟨type,named⟩ := names _ (List.mem_singleton_self _)
    exact name_ne_enforced type named.symm

end Calls

def detectStep (engine : ResponseEngine) (request : Request) : ResponseEngine × ThreatAssessment :=
  let detected := detectThreats engine request .fresh
  (detected.engine,detected.assessment)

def reached (config : ResponseConfiguration) (requests : List Request) : ResponseEngine :=
  (exec detectStep (.create config) requests).1

def Enforced (engine : ResponseEngine) (request : Request) : Prop :=
  (detectStep engine request).2.responseExecution.map ResponseExecutionResult.actionsExecuted =
    some ["session_block_enforced"]

instance (engine : ResponseEngine) (request : Request) : Decidable (Enforced engine request) :=
  inferInstanceAs (Decidable (_ = _))

def PutUnderBlock (engine : ResponseEngine) (request : Request) (duration : ℚ) : Prop :=
  ¬Enforced engine request ∧ ∃ config settings info, config.block = some settings ∧ settings.duration = duration ∧
    blockOf (detectStep engine request).1.actionInstances config (contextOf request).key = some info ∧
    info.blockedUntil = request.now + duration

section Detection
variable {engine : ResponseEngine} {request : Request}

theorem detectStep_unanalysed (unanalysed : request.analysis = none) :
    detectStep engine request = (engine,getDefaultAssessment) := by
  simp [detectStep,detectThreats,unanalysed]

theorem detectStep_analysed (engine : ResponseEngine) (analysed : request.analysis = some analysis) :
    (detectStep engine request).1 =
      (engine.executeResponse (contextOf request) analysis.contextualScore .fresh).engine ∧
    ∃ result, (engine.executeResponse (contextOf request) analysis.contextualScore .fresh).outcome = .ok result ∧
      (detectStep engine request).2.responseExecution = some result := by
  obtain ⟨result,returned⟩ := engine.executeResponse_returns (contextOf request) analysis.contextualScore
  simp [detectStep,detectThreats,analysed,returned]

theorem detectStep_config (engine : ResponseEngine) (request : Request) :
    (detectStep engine request).1.config = engine.config := by
  cases analysed : request.analysis with
  | none => rw [detectStep_unanalysed analysed]
  | some analysis => rw [(detectStep_analysed engine analysed).1]; exact executeResponse_config _ _ _ _

theorem detectStep_evolves (engine : ResponseEngine) (request : Request) :
    Evolves (contextOf request) engine.actionInstances (detectStep engine request).1.actionInstances := by
  cases analysed : request.analysis with
  | none => rw [detectStep_unanalysed analysed]; exact Evolves.refl _ _
  | some analysis => rw [(detectStep_analysed engine analysed).1]; exact executeResponse_evolves _ _ _ _

theorem detectStep_blocked (enabled : engine.config.enabled = true) (analysed : request.analysis = some analysis)
    (blocked : (engine.isSessionBlocked request.now (contextOf request).key).1 = true) :
    (detectStep engine request).1 = (engine.isSessionBlocked request.now (contextOf request).key).2 ∧
      Enforced engine request := by
  obtain ⟨state,result,returned,reported⟩ := detectStep_analysed engine analysed
  have called : engine.executeResponse (contextOf request) analysis.contextualScore .fresh =
      (engine.isSessionBlocked request.now (contextOf request).key).2.handleBlockedSession .fresh
        (contextOf request).sessionId := executeResponse_blocked enabled blocked
  rw [called] at state returned
  refine ⟨state,?_⟩
  rw [Enforced,reported,← Except.ok.inj returned]
  rfl

theorem enforced_exact (engine : ResponseEngine) (request : Request) :
    Enforced engine request ↔ engine.config.enabled = true ∧ request.analysis.isSome = true ∧
      (engine.isSessionBlocked request.now (contextOf request).key).1 = true := by
  constructor
  · intro enforced
    cases analysed : request.analysis with
    | none => rw [Enforced,detectStep_unanalysed analysed] at enforced; cases enforced
    | some analysis =>
        obtain ⟨_,result,returned,reported⟩ := detectStep_analysed engine analysed
        rw [Enforced,reported] at enforced
        have executed : result.actionsExecuted = ["session_block_enforced"] := Option.some.inj enforced
        cases enabled : engine.config.enabled with
        | false =>
            rw [executeResponse_disabled enabled] at returned
            rw [← Except.ok.inj returned] at executed
            cases executed
        | true =>
            refine ⟨rfl,rfl,?_⟩
            cases blocked : (engine.isSessionBlocked request.now (contextOf request).key).1 with
            | true => rfl
            | false =>
                have called : engine.executeResponse (contextOf request) analysis.contextualScore .fresh =
                    (engine.isSessionBlocked request.now (contextOf request).key).2.respond (contextOf request)
                      analysis.contextualScore .fresh := executeResponse_unblocked enabled blocked
                rw [called] at returned
                exact absurd executed (respond_unenforced returned)
  · rintro ⟨enabled,analysed,blocked⟩
    obtain ⟨analysis,analysed⟩ := Option.isSome_iff_exists.mp analysed
    exact (detectStep_blocked enabled analysed blocked).2

theorem block_kept (present : blockOf engine.actionInstances config key = some info)
    (inForce : (request.now : ℚ) ≤ info.blockedUntil) :
    blockOf (detectStep engine request).1.actionInstances config key = some info := by
  cases analysed : request.analysis with
  | none => rw [detectStep_unanalysed analysed]; exact present
  | some analysis =>
      rw [(detectStep_analysed engine analysed).1]
      exact executeResponse_kept present inForce

theorem block_kept_run (requests : List Request) (present : blockOf engine.actionInstances config key = some info)
    (inForce : ∀ request ∈ requests, (request.now : ℚ) ≤ info.blockedUntil) :
    blockOf (exec detectStep engine requests).1.actionInstances config key = some info := by
  induction requests generalizing engine with
  | nil => exact present
  | cons request rest ih =>
      rw [List.forall_mem_cons] at inForce
      exact ih (block_kept present inForce.1) inForce.2

theorem block_origin (present : blockOf (detectStep engine request).1.actionInstances config key = some info) :
    blockOf engine.actionInstances config key = some info ∨ ((contextOf request).key = key ∧
      ∃ duration, PutUnderBlock engine request duration ∧ info.blockedUntil = request.now + duration) := by
  by_cases enforced : Enforced engine request
  · obtain ⟨enabled,analysed,blocked⟩ := (enforced_exact engine request).mp enforced
    obtain ⟨analysis,analysed⟩ := Option.isSome_iff_exists.mp analysed
    rw [(detectStep_blocked enabled analysed blocked).1] at present
    exact .inl ((isSessionBlocked_forgets engine request.now _).origin config key info present)
  · rcases (detectStep_evolves engine request).origin config key info present with earlier | ⟨own,settings,configured,ends⟩
    · exact .inl earlier
    · rw [own] at present
      exact .inr ⟨own.symm,settings.duration,⟨enforced,config,settings,info,configured,rfl,present,ends⟩,ends⟩

end Detection

section Keys

theorem digit36_ne (digit : Fin 36) : digit36 digit ≠ ':' := by
  revert digit
  decide

theorem sessionId_plain (draws : RandomDigits × RandomDigits) : ':' ∉ (generateSessionId draws).toList := by
  rw [generateSessionId,String.toList_ofList]
  intro colon
  obtain ⟨digit,_,same⟩ := List.mem_map.mp colon
  exact digit36_ne digit same

theorem append_cons_inj {a b c d : List α} {x : α} (left : x ∉ b) (right : x ∉ d)
    (same : a ++ x :: b = c ++ x :: d) : a = c ∧ b = d := by
  induction a generalizing c with
  | nil =>
      cases c with
      | nil => exact ⟨rfl,(List.cons.inj same).2⟩
      | cons y c => exact absurd (by rw [(List.cons.inj same).2]; simp) left
  | cons y a ih =>
      cases c with
      | nil => exact absurd (by rw [← (List.cons.inj same).2]; simp) right
      | cons z c =>
          obtain ⟨head,tail⟩ := List.cons.inj same
          obtain ⟨rfl,rest⟩ := ih tail
          exact ⟨by rw [head],rest⟩

theorem key_exact (one two : Request) : (contextOf one).key = (contextOf two).key ↔
    clientAddress one.ip = clientAddress two.ip ∧
      generateSessionId one.sessionDraws = generateSessionId two.sessionDraws := by
  constructor
  · intro same
    have characters : (clientAddress one.ip).toList ++ ':' :: (generateSessionId one.sessionDraws).toList =
        (clientAddress two.ip).toList ++ ':' :: (generateSessionId two.sessionDraws).toList := by
      simpa [ActionExecutionContext.key,contextOf] using congrArg String.toList same
    obtain ⟨address,session⟩ := append_cons_inj (sessionId_plain _) (sessionId_plain _) characters
    exact ⟨String.toList_inj.mp address,String.toList_inj.mp session⟩
  · rintro ⟨address,session⟩
    simp only [ActionExecutionContext.key,contextOf,address,session]

end Keys

-- A request of the same address and with the same generated session id was put
-- under a block that is still in force.
def SharesSession (config : ResponseConfiguration) (history : List Request) (later : Request) : Prop :=
  ∃ before origin after duration, history = before ++ origin :: after ∧
    PutUnderBlock (reached config before) origin duration ∧ clientAddress origin.ip = clientAddress later.ip ∧
    generateSessionId origin.sessionDraws = generateSessionId later.sessionDraws ∧
    (later.now : ℚ) ≤ origin.now + duration

section Runs
variable {config : ResponseConfiguration} {history : List Request}

theorem reached_snoc (config : ResponseConfiguration) (history : List Request) (request : Request) :
    reached config (history ++ [request]) = (detectStep (reached config history) request).1 := by
  rw [reached,exec_snoc]
  rfl

theorem reached_append (config : ResponseConfiguration) (before after : List Request) (request : Request) :
    reached config (before ++ request :: after) =
      (exec detectStep (detectStep (reached config before) request).1 after).1 := by
  rw [reached,exec_append,exec_cons]
  rfl

theorem reached_config (config : ResponseConfiguration) (history : List Request) :
    (reached config history).config = config :=
  @exec_invariant _ _ _ detectStep _ (fun engine => engine.config = config)
    (fun engine request same => (detectStep_config engine request).trans same) rfl history

theorem reached_disabled (disabled : config.enabled = false) (history : List Request) :
    reached config history = .create config :=
  @exec_invariant _ _ _ detectStep _ (fun engine => engine = .create config) (fun engine request same => by
    subst engine
    cases analysed : request.analysis with
    | none => rw [detectStep_unanalysed analysed]
    | some analysis => rw [(detectStep_analysed _ analysed).1,executeResponse_disabled disabled]) rfl history

theorem reached_origin (present : blockOf (reached config history).actionInstances action key = some info) :
    ∃ before origin after duration, history = before ++ origin :: after ∧
      PutUnderBlock (reached config before) origin duration ∧ (contextOf origin).key = key ∧
      info.blockedUntil = origin.now + duration := by
  induction history using List.reverseRecOn with
  | nil => cases present
  | append_singleton history request ih =>
      rw [reached_snoc] at present
      rcases block_origin present with earlier | ⟨own,duration,put,ends⟩
      · obtain ⟨before,origin,after,duration,split,found⟩ := ih earlier
        exact ⟨before,origin,after ++ [request],duration,by rw [split]; simp,found⟩
      · exact ⟨history,request,[],duration,rfl,put,own,ends⟩

theorem enforced_reached_exact (history : List Request) (later : Request)
    (clock : ∀ earlier ∈ history, earlier.now ≤ later.now) :
    Enforced (reached config history) later ↔ later.analysis.isSome = true ∧ SharesSession config history later := by
  rw [enforced_exact,reached_config,isSessionBlocked_exact]
  constructor
  · rintro ⟨_,analysed,action,info,present,inForce⟩
    obtain ⟨before,origin,after,duration,split,put,key,ends⟩ := reached_origin present
    obtain ⟨address,session⟩ := (key_exact origin later).mp key
    exact ⟨analysed,before,origin,after,duration,split,put,address,session,by rw [← ends]; exact inForce⟩
  · rintro ⟨analysed,before,origin,after,duration,rfl,put,address,session,inForce⟩
    obtain ⟨_,action,_,info,_,_,present,ends⟩ := put
    rw [(key_exact origin later).mpr ⟨address,session⟩] at present
    have live : (later.now : ℚ) ≤ info.blockedUntil := by rw [ends]; exact inForce
    have kept : blockOf (reached config (before ++ origin :: after)).actionInstances action (contextOf later).key =
        some info := by
      rw [reached_append]
      refine block_kept_run after present (fun request here => ?_)
      have earlier := clock request (List.mem_append_right _ (List.mem_cons_of_mem _ here))
      exact (Int.cast_le.mpr earlier).trans live
    refine ⟨?_,analysed,action,info,kept,live⟩
    cases enabled : config.enabled with
    | true => rfl
    | false =>
        rw [reached_disabled enabled] at kept
        cases kept

end Runs

def LaterCall (config : ResponseConfiguration) (requests history : List Request) (later : Request) : Prop :=
  ∃ before blocked between rest duration, history = before ++ blocked :: between ∧
    requests = history ++ later :: rest ∧ PutUnderBlock (reached config before) blocked duration ∧
    clientAddress later.ip = clientAddress blocked.ip ∧ (later.now : ℚ) < blocked.now + duration

def FollowsClient (config : ResponseConfiguration) (requests : List Request) : Prop :=
  ∀ history later, LaterCall config requests history later → Enforced (reached config history) later

def KeepsSessions (config : ResponseConfiguration) (requests : List Request) : Prop :=
  ∀ history later, LaterCall config requests history later →
    later.analysis.isSome = true ∧ SharesSession config history later

-- The block follows the client exactly as far as the session ids drawn for its
-- requests repeat: the address alone is never looked up.
theorem temporary_block_exact (config : ResponseConfiguration) (requests : List Request)
    (ordered : requests.Pairwise (fun one two => one.now ≤ two.now)) :
    FollowsClient config requests ↔ KeepsSessions config requests := by
  have each : ∀ history later, LaterCall config requests history later →
      (Enforced (reached config history) later ↔
        later.analysis.isSome = true ∧ SharesSession config history later) := by
    rintro history later ⟨before,blocked,between,rest,duration,_,split,_⟩
    apply enforced_reached_exact
    intro earlier here
    rw [split] at ordered
    exact (List.pairwise_append.mp ordered).2.2 earlier here later List.mem_cons_self
  exact ⟨fun follows history later call => (each history later call).mp (follows history later call),
    fun keeps history later call => (each history later call).mpr (keeps history later call)⟩

theorem suspect_put_under_block :
    PutUnderBlock (reached getDefaultResponseConfiguration []) (suspect 0 1 (3/4) .high) 900000 := by
  refine ⟨by decide +kernel,
    (blocking 8 900000 "Access temporarily restricted due to suspicious activity" "/security-notice").config,_,
    ⟨900000,"Access temporarily restricted due to suspicious activity"⟩,rfl,rfl,by decide +kernel,?_⟩
  simp [suspect]

theorem temporary_block_repeated_draw :
    FollowsClient getDefaultResponseConfiguration [suspect 0 1 (3/4) .high,suspect 5000 1 (1/10) .low] := by
  refine (temporary_block_exact _ _ (by decide)).mpr ?_
  rintro history later ⟨before,blocked,between,rest,duration,rfl,split,_⟩
  have lengths := congrArg List.length split
  simp only [List.length_cons,List.length_nil,List.length_append] at lengths
  obtain rfl : before = [] := List.length_eq_zero_iff.mp (by omega)
  obtain rfl : between = [] := List.length_eq_zero_iff.mp (by omega)
  obtain ⟨rfl,rfl,_⟩ : suspect 0 1 (3/4) .high = blocked ∧ suspect 5000 1 (1/10) .low = later ∧ [] = rest := by
    simpa using split
  exact ⟨rfl,[],_,[],900000,rfl,suspect_put_under_block,rfl,rfl,by norm_num [suspect]⟩

-- The client is blocked for fifteen minutes under the session drawn first; its next
-- request draws another, and is not answered by the block.
theorem block_lost_with_session :
    PutUnderBlock (reached getDefaultResponseConfiguration []) (suspect 0 1 (3/4) .high) 900000 ∧
    ¬Enforced (reached getDefaultResponseConfiguration [suspect 0 1 (3/4) .high]) (suspect 5000 2 (1/10) .low) ∧
    ¬FollowsClient getDefaultResponseConfiguration [suspect 0 1 (3/4) .high,suspect 5000 2 (1/10) .low] := by
  have put := suspect_put_under_block
  have passes : ¬Enforced (reached getDefaultResponseConfiguration [suspect 0 1 (3/4) .high])
      (suspect 5000 2 (1/10) .low) := by decide +kernel
  refine ⟨put,passes,fun follows => passes (follows _ _ ⟨[],_,[],[],900000,rfl,rfl,put,rfl,?_⟩)⟩
  norm_num [suspect]

end PhantomFlow.Response
