import PhantomFlow.Library.ExpiringStore
import PhantomFlow.Response.TemporaryBlocks

namespace PhantomFlow.Response
open Library Library.Machine ThreatDetectionEngine

section Keys

-- Digits and small letters only, as in `Math.random().toString(36)`.
def Generated (sessionId : String) : Prop := ∀ c ∈ sessionId.toList, ∃ digit, c = digit36 digit

theorem generated_digits (digits : List (Fin 36)) : Generated (String.ofList (digits.map digit36)) := by
  intro c listed
  rw [String.toList_ofList] at listed
  obtain ⟨digit,_,same⟩ := List.mem_map.mp listed
  exact ⟨digit,same.symm⟩

theorem generateSessionId_generated (draws : RandomDigits × RandomDigits) : Generated (generateSessionId draws) :=
  generated_digits _

theorem Generated.plain (generated : Generated sessionId) : ':' ∉ sessionId.toList := by
  intro colon
  obtain ⟨digit,same⟩ := generated ':' colon
  exact digit36_ne digit same.symm

-- The address may hold colons, the session id does not.
theorem key_inj {one two : ActionExecutionContext} (first : Generated one.sessionId) (second : Generated two.sessionId)
    (same : one.key = two.key) : one.ipAddress = two.ipAddress ∧ one.sessionId = two.sessionId := by
  have characters : one.ipAddress.toList ++ ':' :: one.sessionId.toList =
      two.ipAddress.toList ++ ':' :: two.sessionId.toList := by
    simpa [ActionExecutionContext.key] using congrArg String.toList same
  obtain ⟨address,session⟩ := append_cons_inj first.plain second.plain characters
  exact ⟨String.toList_inj.mp address,String.toList_inj.mp session⟩

end Keys

inductive ActionCall where
  | execute (context : ActionExecutionContext) (res : HttpResponse)
  | isBlocked (context : ActionExecutionContext)

inductive ActionOutcome where
  | executed (result : ActionExecutionResult) (response : HttpResponse)
  | checked (blocked : Bool)
  deriving DecidableEq

def ActionCall.context : ActionCall → ActionExecutionContext
  | .execute context _ => context
  | .isBlocked context => context

def ActionExecutionContext.isFor (ip sessionId : String) (context : ActionExecutionContext) : Bool :=
  decide (context.ipAddress = ip ∧ context.sessionId = sessionId)

def ActionRun.outcome (run : ActionRun) : ActionOutcome := .executed run.result run.response

def TemporaryBlockAction.call (config : ResponseActionConfig) (action : BaseResponseAction) :
    ActionCall → BaseResponseAction × ActionOutcome
  | .execute context res =>
    let run := execute action config context res
    (run.action,run.outcome)
  | .isBlocked context =>
    let check := isBlocked action context.key context.now
    (check.2,.checked check.1)

def RateLimitAction.call (config : ResponseActionConfig) (action : BaseResponseAction)
    (request : ActionExecutionContext × HttpResponse) : BaseResponseAction × ActionOutcome :=
  let run := execute action config request.1 request.2
  (run.action,run.outcome)

def InOrder (contexts : List ActionExecutionContext) : Prop :=
  contexts.Pairwise (fun one two => one.now ≤ two.now)

def AllGenerated (contexts : List ActionExecutionContext) : Prop := ∀ context ∈ contexts, Generated context.sessionId

section Blocks
variable {config : ResponseActionConfig} {a b : BaseResponseAction} {key : String}

def SameBlocks (key : String) (now : ℤ) (a b : BaseResponseAction) : Prop :=
  OrderedMap.AgreeFrom BlockInfo.blockedUntil key (now : ℚ) a.blockedSessions b.blockedSessions

theorem isBlocked_live (action : BaseResponseAction) (key : String) (now : ℤ) :
    (TemporaryBlockAction.isBlocked action key now).1 =
      (OrderedMap.live BlockInfo.blockedUntil action.blockedSessions key (now : ℚ)).isSome := by
  unfold TemporaryBlockAction.isBlocked OrderedMap.live
  cases found : action.blockedSessions.get key with
  | none => rfl
  | some info =>
      by_cases ended : info.blockedUntil < now
      · simp [ended,Option.filter]
      · simp [ended,Option.filter]

theorem sameBlocks_isBlocked (action : BaseResponseAction) (key key' : String) (now : ℤ) :
    SameBlocks key now (TemporaryBlockAction.isBlocked action key' now).2 action := by
  intro later after
  unfold TemporaryBlockAction.isBlocked
  cases found : action.blockedSessions.get key' with
  | none => rfl
  | some info =>
      by_cases ended : info.blockedUntil < now
      · have past := lt_of_lt_of_le ended after
        by_cases same : key = key'
        · simp [ended,OrderedMap.live,OrderedMap.get_delete,same,found,Option.filter,past]
        · simp [ended,OrderedMap.live,OrderedMap.get_delete,same]
      · simp [ended]

theorem SameBlocks.trans (first : SameBlocks key now a b) (second : SameBlocks key now b c) : SameBlocks key now a c :=
  fun later after => (first later after).trans (second later after)

theorem SameBlocks.mono (same : SameBlocks key now a b) (after : now ≤ later) : SameBlocks key later a b :=
  OrderedMap.AgreeFrom.mono same (Int.cast_le.mpr after)

theorem sameBlocks_store_other (settings : BlockSettings) (same : SameBlocks key context.now a b)
    (other : context.key ≠ key) : SameBlocks key context.now (TemporaryBlockAction.store a settings context) b := by
  apply OrderedMap.AgreeFrom.expire
  apply OrderedMap.AgreeFrom.congr same
  exact OrderedMap.get_set_other _ _ other.symm

theorem sameBlocks_store (settings : BlockSettings) (context : ActionExecutionContext) (a b : BaseResponseAction) :
    SameBlocks context.key context.now (TemporaryBlockAction.store a settings context)
      (TemporaryBlockAction.store b settings context) := by
  apply OrderedMap.AgreeFrom.expire_both
  apply OrderedMap.AgreeFrom.of_get
  rw [OrderedMap.get_set_self,OrderedMap.get_set_self]

theorem completed_outcome (a b : BaseResponseAction) (res : HttpResponse) (metadata : ActionMetadata)
    (body : Except String HttpResponse) : (completed a res metadata body).outcome = (completed b res metadata body).outcome := by
  cases body <;> rfl

theorem execute_outcome (config : ResponseActionConfig) (a b : BaseResponseAction) (context : ActionExecutionContext)
    (res : HttpResponse) : (TemporaryBlockAction.execute a config context res).outcome =
      (TemporaryBlockAction.execute b config context res).outcome := by
  unfold TemporaryBlockAction.execute
  cases config.block with
  | none => rfl
  | some settings =>
      dsimp only
      split
      · exact completed_outcome _ _ _ _ _
      · rfl

theorem execute_unconfigured (missing : config.block = none) (action : BaseResponseAction)
    (context : ActionExecutionContext) (res : HttpResponse) :
    (TemporaryBlockAction.execute action config context res).action = action := by
  simp only [TemporaryBlockAction.execute,missing]
  rfl

theorem blocks_silent (same : SameBlocks key now a b) (after : now ≤ call.context.now) (other : call.context.key ≠ key) :
    SameBlocks key call.context.now (TemporaryBlockAction.call config a call).1 b := by
  have kept := same.mono after
  cases call with
  | execute context res =>
      change SameBlocks key context.now (TemporaryBlockAction.execute a config context res).action b
      cases configured : config.block with
      | none => rw [execute_unconfigured configured]; exact kept
      | some settings =>
          rw [TemporaryBlockAction.execute_stores configured]
          exact sameBlocks_store_other settings kept other
  | isBlocked context => exact (sameBlocks_isBlocked a key context.key context.now).trans kept

theorem blocks_matched (same : SameBlocks call.context.key now a b) (after : now ≤ call.context.now) :
    SameBlocks call.context.key call.context.now (TemporaryBlockAction.call config a call).1
        (TemporaryBlockAction.call config b call).1 ∧
      (TemporaryBlockAction.call config a call).2 = (TemporaryBlockAction.call config b call).2 := by
  have kept := same.mono after
  cases call with
  | execute context res =>
      refine ⟨?_,execute_outcome config a b context res⟩
      change SameBlocks context.key context.now (TemporaryBlockAction.execute a config context res).action
        (TemporaryBlockAction.execute b config context res).action
      cases configured : config.block with
      | none =>
          rw [execute_unconfigured configured,execute_unconfigured configured]
          exact kept
      | some settings =>
          rw [TemporaryBlockAction.execute_stores configured,TemporaryBlockAction.execute_stores configured]
          exact sameBlocks_store settings context a b
  | isBlocked context =>
      constructor
      · have first := (sameBlocks_isBlocked a context.key context.key context.now).trans kept
        exact first.trans (sameBlocks_isBlocked b context.key context.key context.now).symm
      · have entries : OrderedMap.live BlockInfo.blockedUntil a.blockedSessions context.key (context.now : ℚ) =
            OrderedMap.live BlockInfo.blockedUntil b.blockedSessions context.key context.now := kept _ (le_refl _)
        change ActionOutcome.checked _ = ActionOutcome.checked _
        rw [isBlocked_live,isBlocked_live,entries]

end Blocks

section Limits
variable {config : ResponseActionConfig} {settings : RateLimitSettings} {a b : BaseResponseAction} {key : String}

def SameLimits (settings : RateLimitSettings) (key : String) (now : ℤ) (a b : BaseResponseAction) : Prop :=
  OrderedMap.AgreeFrom RateLimitEntry.resetTime key ((now : ℚ) - settings.window) a.rateLimitStore b.rateLimitStore

theorem SameLimits.mono (same : SameLimits settings key now a b) (after : now ≤ later) :
    SameLimits settings key later a b :=
  OrderedMap.AgreeFrom.mono same (sub_le_sub_right (Int.cast_le.mpr after) _)

theorem SameLimits.current (same : SameLimits settings context.key context.now a b) :
    RateLimitAction.current a settings context = RateLimitAction.current b settings context := by
  have entries := same _ (le_refl _)
  rw [← OrderedMap.get_expire,← OrderedMap.get_expire] at entries
  exact congrArg (fun entry => entry.getD (⟨0,context.now + settings.window⟩ : RateLimitEntry)) entries

theorem limit_stores (configured : config.rateLimit = some settings) (action : BaseResponseAction)
    (context : ActionExecutionContext) (res : HttpResponse) :
    (RateLimitAction.execute action config context res).action.rateLimitStore =
      if settings.requests ≤ (RateLimitAction.current action settings context).count then
        OrderedMap.expire RateLimitEntry.resetTime action.rateLimitStore (context.now - settings.window)
      else (OrderedMap.expire RateLimitEntry.resetTime action.rateLimitStore (context.now - settings.window)).set context.key
        { RateLimitAction.current action settings context with
          count := (RateLimitAction.current action settings context).count + 1 } := by
  simp only [RateLimitAction.execute,configured]
  split
  · rw [completed_action]
    rfl
  · rfl

theorem limits_silent (configured : config.rateLimit = some settings) (same : SameLimits settings key now a b)
    (after : now ≤ context.now) (other : context.key ≠ key) (res : HttpResponse) :
    SameLimits settings key context.now (RateLimitAction.execute a config context res).action b := by
  have cleaned := OrderedMap.AgreeFrom.expire (same.mono after)
  unfold SameLimits
  rw [limit_stores configured]
  split
  · exact cleaned
  · exact cleaned.congr (OrderedMap.get_set_other _ _ other.symm)

theorem limits_matched (configured : config.rateLimit = some settings) (same : SameLimits settings context.key now a b)
    (after : now ≤ context.now) (res : HttpResponse) :
    SameLimits settings context.key context.now (RateLimitAction.execute a config context res).action
        (RateLimitAction.execute b config context res).action ∧
      (RateLimitAction.execute a config context res).outcome = (RateLimitAction.execute b config context res).outcome := by
  have kept := same.mono after
  have current := kept.current
  constructor
  · unfold SameLimits
    rw [limit_stores configured,limit_stores configured,current]
    split
    · exact OrderedMap.AgreeFrom.expire_both kept
    · apply OrderedMap.AgreeFrom.of_get
      rw [OrderedMap.get_set_self,OrderedMap.get_set_self]
  · simp only [RateLimitAction.execute,configured,current]
    split
    · exact completed_outcome _ _ _ _ _
    · rfl

theorem limit_unconfigured (missing : config.rateLimit = none) (action : BaseResponseAction)
    (context : ActionExecutionContext) (res : HttpResponse) :
    RateLimitAction.execute action config context res =
      thrown action res "Rate limit configuration is required" := by
  simp only [RateLimitAction.execute,missing]

end Limits

section Isolation
variable {ip sessionId : String} {context : ActionExecutionContext}

theorem isFor_key (own : context.isFor ip sessionId = true) : context.key = ip ++ ":" ++ sessionId := by
  obtain ⟨address,session⟩ := of_decide_eq_true own
  rw [ActionExecutionContext.key,address,session]

theorem other_key (plain : Generated sessionId) (generated : Generated context.sessionId)
    (other : context.isFor ip sessionId = false) : context.key ≠ ip ++ ":" ++ sessionId := by
  intro same
  let own : ActionExecutionContext := { context with ipAddress := ip, sessionId := sessionId }
  have pair := key_inj generated (show Generated own.sessionId from plain) same
  exact of_decide_eq_false other pair

theorem blocks_isolated (config : ResponseActionConfig) (plain : Generated sessionId) (calls : List ActionCall)
    (generated : AllGenerated (calls.map ActionCall.context)) (ordered : InOrder (calls.map ActionCall.context)) :
    observed (TemporaryBlockAction.call config) (fun _ call => call.context.isFor ip sessionId) ⟨.empty,.empty⟩ calls =
      (exec (TemporaryBlockAction.call config) ⟨.empty,.empty⟩
        (calls.filter (fun call => call.context.isFor ip sessionId))).2 := by
  rw [AllGenerated,List.forall_mem_map] at generated
  rw [InOrder,List.pairwise_map] at ordered
  cases calls with
  | nil => rfl
  | cons first rest =>
      apply observed_filter (fun call => call.context.now) (fun call => Generated call.context.sessionId)
        (SameBlocks (ip ++ ":" ++ sessionId))
      · intro now a b call same after generated other
        exact blocks_silent same after (other_key plain generated other)
      · intro now a b call same after _ own
        rw [← isFor_key own] at same ⊢
        exact blocks_matched same after
      · exact OrderedMap.AgreeFrom.refl
      · exact generated
      · exact List.forall_mem_cons.mpr ⟨le_refl _,(List.pairwise_cons.mp ordered).1⟩
      · exact ordered

theorem limits_isolated (config : ResponseActionConfig) (plain : Generated sessionId)
    (calls : List (ActionExecutionContext × HttpResponse)) (generated : AllGenerated (calls.map Prod.fst))
    (ordered : InOrder (calls.map Prod.fst)) :
    observed (RateLimitAction.call config) (fun _ call => call.1.isFor ip sessionId) ⟨.empty,.empty⟩ calls =
      (exec (RateLimitAction.call config) ⟨.empty,.empty⟩ (calls.filter (fun call => call.1.isFor ip sessionId))).2 := by
  rw [AllGenerated,List.forall_mem_map] at generated
  rw [InOrder,List.pairwise_map] at ordered
  cases calls with
  | nil => rfl
  | cons first rest =>
      have after : ∀ call ∈ first :: rest, first.1.now ≤ call.1.now :=
        List.forall_mem_cons.mpr ⟨le_refl _,(List.pairwise_cons.mp ordered).1⟩
      cases configured : config.rateLimit with
      | none =>
          apply observed_filter (fun call => call.1.now) (fun _ => True) (fun _ a b => a = b)
          · intro now a b call same _ _ _
            simp only [RateLimitAction.call,limit_unconfigured configured]
            exact same
          · intro now a b call same _ _ _
            rw [same]
            exact ⟨rfl,rfl⟩
          · rfl
          · exact fun _ _ => trivial
          · exact after
          · exact ordered
      | some settings =>
          apply observed_filter (fun call => call.1.now) (fun call => Generated call.1.sessionId)
            (SameLimits settings (ip ++ ":" ++ sessionId))
          · intro now a b call same after generated other
            exact limits_silent configured same after (other_key plain generated other) call.2
          · intro now a b call same after _ own
            rw [← isFor_key own] at same ⊢
            exact limits_matched configured same after call.2
          · exact OrderedMap.AgreeFrom.refl
          · exact generated
          · exact after
          · exact ordered

theorem clients_isolated (config : ResponseActionConfig) (ip sessionId : String) (plain : Generated sessionId) :
    (∀ calls : List ActionCall, AllGenerated (calls.map ActionCall.context) → InOrder (calls.map ActionCall.context) →
      observed (TemporaryBlockAction.call config) (fun _ call => call.context.isFor ip sessionId) ⟨.empty,.empty⟩ calls =
        (exec (TemporaryBlockAction.call config) ⟨.empty,.empty⟩
          (calls.filter (fun call => call.context.isFor ip sessionId))).2) ∧
    (∀ calls : List (ActionExecutionContext × HttpResponse), AllGenerated (calls.map Prod.fst) →
      InOrder (calls.map Prod.fst) →
      observed (RateLimitAction.call config) (fun _ call => call.1.isFor ip sessionId) ⟨.empty,.empty⟩ calls =
        (exec (RateLimitAction.call config) ⟨.empty,.empty⟩
          (calls.filter (fun call => call.1.isFor ip sessionId))).2) :=
  ⟨blocks_isolated config plain,limits_isolated config plain⟩

-- Two IPv6 clients whose keys differ in where the address ends only.
def neighbours : List ActionCall :=
  [.execute ⟨0,"::1","a2",""⟩ .fresh,.isBlocked ⟨500,"::","1a2",""⟩,.isBlocked ⟨1000,"::1","a2",""⟩]

theorem neighbours_generated : AllGenerated (neighbours.map ActionCall.context) := by
  intro context listed
  have ids : context.sessionId = "a2" ∨ context.sessionId = "1a2" := by
    simp only [neighbours,List.map_cons,List.map_nil,List.mem_cons,List.not_mem_nil,or_false] at listed
    rcases listed with same | same | same
    · exact .inl (congrArg ActionExecutionContext.sessionId same)
    · exact .inr (congrArg ActionExecutionContext.sessionId same)
    · exact .inl (congrArg ActionExecutionContext.sessionId same)
  cases ids with
  | inl same => exact same ▸ generated_digits [10,2]
  | inr same => exact same ▸ generated_digits [1,10,2]

theorem clients_isolated_neighbours :
    observed (TemporaryBlockAction.call { block := some ⟨1000,"",none⟩ }) (fun _ call => call.context.isFor "::" "1a2")
        ⟨.empty,.empty⟩ neighbours =
      (exec (TemporaryBlockAction.call { block := some ⟨1000,"",none⟩ }) ⟨.empty,.empty⟩
        (neighbours.filter (fun call => call.context.isFor "::" "1a2"))).2 :=
  (clients_isolated { block := some ⟨1000,"",none⟩ } "::" "1a2" (generated_digits [1,10,2])).1 neighbours
    neighbours_generated (by unfold InOrder; decide)

end Isolation
end PhantomFlow.Response
