import PhantomFlow.Response.TemporaryBlocks

namespace PhantomFlow.Response
open Library Library.Machine

def executedActions (context : ActionExecutionContext) : Progress → List ResponseAction → List ResponseAction
  | _,[] => []
  | progress,action :: rest =>
    let run := runAction context progress action
    action :: if run.2.success && isBlockingAction action.type then [] else executedActions context run.1 rest

def ResponseEngine.executedIn (engine : ResponseEngine) (call : EngineCall) : List ResponseAction :=
  if engine.config.enabled then
    let asked := engine.isSessionBlocked call.context.now call.context.key
    if asked.1 then []
    else match asked.2.selectResponseTier call.context.now call.riskScore call.context.sessionId with
      | none => []
      | some decision =>
        executedActions call.context ⟨asked.2.actionInstances,call.response,true,[],.empty⟩
          (ResponseEngine.sortedActions decision)
  else []

-- A temporary block of this duration. A negative one is cleaned up as it is stored.
def BlocksFor (duration : ℚ) (action : ResponseAction) : Prop :=
  action.type = .temporaryBlock ∧ 0 ≤ duration ∧
    ∃ settings, action.config.block = some settings ∧ settings.duration = duration

def ExecutesBlock (engine : ResponseEngine) (call : EngineCall) (duration : ℚ) : Prop :=
  ∃ action ∈ engine.executedIn call, BlocksFor duration action

def Enforces (engine : ResponseEngine) (call : EngineCall) : Prop :=
  engine.executeResponse call.context call.riskScore call.response =
    (engine.isSessionBlocked call.context.now call.context.key).2.handleBlockedSession call.response call.context.sessionId

def Decides (engine : ResponseEngine) (call : EngineCall) : Prop :=
  engine.executeResponse call.context call.riskScore call.response =
    (engine.isSessionBlocked call.context.now call.context.key).2.respond call.context call.riskScore call.response

def reachedBy (config : ResponseConfiguration) (calls : List EngineCall) : ResponseEngine :=
  (exec ResponseEngine.answerCall (.create config) calls).1

-- A call that has executed a block of this duration, and a later one of the same
-- client, with the calls between them.
structure Episode (config : ResponseConfiguration) (calls before between : List EngineCall) (origin later : EngineCall)
    (duration : ℚ) : Prop where
  split : ∃ rest, calls = before ++ origin :: (between ++ later :: rest)
  blocked : ExecutesBlock (reachedBy config before) origin duration
  client : later.context.key = origin.context.key

def LastsItsDuration (config : ResponseConfiguration) (calls : List EngineCall) : Prop :=
  ∀ before between origin later duration, Episode config calls before between origin later duration →
    ((later.context.now : ℚ) ≤ origin.context.now + duration →
      Enforces (reachedBy config (before ++ origin :: between)) later) ∧
    (origin.context.now + duration < (later.context.now : ℚ) →
      (∀ call ∈ between, call.context.key = origin.context.key →
        (call.context.now : ℚ) ≤ origin.context.now + duration) →
      Decides (reachedBy config (before ++ origin :: between)) later)

def LastsTheLongest (config : ResponseConfiguration) (calls : List EngineCall) : Prop :=
  ∀ before between origin later duration, Episode config calls before between origin later duration →
    ((later.context.now : ℚ) ≤ origin.context.now + duration →
      Enforces (reachedBy config (before ++ origin :: between)) later) ∧
    ((∀ other, ExecutesBlock (reachedBy config before) origin other →
        origin.context.now + other < (later.context.now : ℚ)) →
      (∀ call ∈ between, call.context.key = origin.context.key →
        ∃ other, ExecutesBlock (reachedBy config before) origin other ∧
          (call.context.now : ℚ) ≤ origin.context.now + other) →
      Decides (reachedBy config (before ++ origin :: between)) later)

section Storing
variable {context : ActionExecutionContext} {progress : Progress} {action : ResponseAction}

def blockInfo (context : ActionExecutionContext) (settings : BlockSettings) : BlockInfo :=
  ⟨context.now + settings.duration,TemporaryBlockAction.reason settings⟩

theorem execute_blocks (object : BaseResponseAction) (configured : config.block = some settings)
    (context : ActionExecutionContext) (res : HttpResponse) (key : String) (info : BlockInfo) :
    (object.execute .temporaryBlock config context res).action.blockedSessions.get key = some info ↔
      (if key = context.key then some (blockInfo context settings) else object.blockedSessions.get key) = some info ∧
        (context.now : ℚ) ≤ info.blockedUntil := by
  rw [BaseResponseAction.execute,TemporaryBlockAction.execute_stores configured,store_get]
  rfl

theorem runAction_stores (blocks : action.type = .temporaryBlock) (configured : action.config.block = some settings)
    (lasting : 0 ≤ settings.duration) :
    blockOf (runAction context progress action).1.instances action.config context.key =
      some (blockInfo context settings) := by
  rw [runAction_blocks,if_pos (by rw [blocks]),execute_blocks _ configured,if_pos rfl]
  exact ⟨rfl,le_add_of_nonneg_right lasting⟩

theorem runAction_keeps (configured : config.block = some settings) (lasting : 0 ≤ settings.duration)
    (present : blockOf progress.instances config context.key = some (blockInfo context settings)) :
    blockOf (runAction context progress action).1.instances config context.key = some (blockInfo context settings) := by
  by_cases same : (ResponseActionType.temporaryBlock,config) = (action.type,action.config)
  · rw [Prod.mk.injEq] at same
    obtain ⟨blocks,rfl⟩ := same
    exact runAction_stores blocks.symm configured lasting
  · rw [runAction_blocks,if_neg same]
    exact present

theorem runActions_keeps (actions : List ResponseAction) (configured : config.block = some settings)
    (lasting : 0 ≤ settings.duration)
    (present : blockOf progress.instances config context.key = some (blockInfo context settings)) :
    blockOf (runActions context progress actions).instances config context.key = some (blockInfo context settings) := by
  induction actions generalizing progress with
  | nil => exact present
  | cons action rest ih =>
      have next : blockOf (runAction context progress action).1.instances config context.key =
          some (blockInfo context settings) := runAction_keeps configured lasting present
      simp only [runActions]
      split
      · exact next
      · exact ih next

theorem runActions_stores (actions : List ResponseAction) (executed : action ∈ executedActions context progress actions)
    (blocks : action.type = .temporaryBlock) (configured : action.config.block = some settings)
    (lasting : 0 ≤ settings.duration) :
    blockOf (runActions context progress actions).instances action.config context.key =
      some (blockInfo context settings) := by
  induction actions generalizing progress with
  | nil => cases executed
  | cons first rest ih =>
      simp only [executedActions] at executed
      simp only [runActions]
      rcases List.mem_cons.mp executed with rfl | later
      · have stored : blockOf (runAction context progress action).1.instances action.config context.key =
            some (blockInfo context settings) := runAction_stores blocks configured lasting
        split
        · exact stored
        · exact runActions_keeps rest configured lasting stored
      · split at later
        · cases later
        · rename_i goesOn
          rw [if_neg goesOn]
          exact ih later

theorem runAction_origin (present : blockOf (runAction context progress action).1.instances config key = some info) :
    blockOf progress.instances config key = some info ∨
      ∃ duration, BlocksFor duration action ∧ info.blockedUntil = context.now + duration := by
  rw [runAction_blocks] at present
  split at present
  · rename_i same
    rw [Prod.mk.injEq] at same
    obtain ⟨blocks,rfl⟩ := same
    cases configured : action.config.block with
    | none =>
        refine .inl ?_
        rw [← instanceFor_blocks progress.instances blocks.symm]
        simpa [BaseResponseAction.execute,TemporaryBlockAction.execute,configured,thrown] using present
    | some settings =>
        rw [execute_blocks _ configured] at present
        obtain ⟨found,inForce⟩ := present
        split at found
        · cases found
          have lasting : 0 ≤ settings.duration := by
            rw [blockInfo] at inForce
            exact le_of_add_le_add_left (by rw [add_zero]; exact inForce)
          exact .inr ⟨settings.duration,⟨blocks.symm,lasting,settings,configured,rfl⟩,rfl⟩
        · rw [instanceFor_blocks progress.instances blocks.symm] at found
          exact .inl found
  · exact .inl present

theorem runActions_origin (actions : List ResponseAction)
    (present : blockOf (runActions context progress actions).instances config key = some info) :
    blockOf progress.instances config key = some info ∨
      ∃ action ∈ executedActions context progress actions, ∃ duration, BlocksFor duration action ∧
        info.blockedUntil = context.now + duration := by
  induction actions generalizing progress with
  | nil => exact .inl present
  | cons first rest ih =>
      have earlier : blockOf (runAction context progress first).1.instances config key = some info →
          blockOf progress.instances config key = some info ∨
            ∃ action ∈ executedActions context progress (first :: rest), ∃ duration, BlocksFor duration action ∧
              info.blockedUntil = context.now + duration := by
        intro stored
        rcases runAction_origin stored with before | new
        · exact .inl before
        · exact .inr ⟨first,List.mem_cons_self,new⟩
      simp only [runActions] at present
      split at present
      · exact earlier present
      · rename_i goesOn
        rcases ih present with stored | ⟨action,executed,blocks⟩
        · exact earlier stored
        · refine .inr ⟨action,?_,blocks⟩
          simp only [executedActions]
          rw [if_neg goesOn]
          exact List.mem_cons_of_mem _ executed

end Storing

section Calls
variable {engine : ResponseEngine} {call : EngineCall}

theorem executesBlock_decided (executes : ExecutesBlock engine call duration) :
    engine.config.enabled = true ∧ (engine.isSessionBlocked call.context.now call.context.key).1 = false := by
  obtain ⟨action,executed,_⟩ := executes
  unfold ResponseEngine.executedIn at executed
  split at executed
  · rename_i enabled
    refine ⟨enabled,?_⟩
    dsimp only at executed
    split at executed
    · cases executed
    · rename_i unblocked
      exact Bool.eq_false_iff.mpr unblocked
  · cases executed

theorem executesBlock_stored (executes : ExecutesBlock engine call duration) :
    ∃ config info, blockOf (engine.answerCall call).1.actionInstances config call.context.key = some info ∧
      info.blockedUntil = call.context.now + duration := by
  obtain ⟨enabled,unblocked⟩ := executesBlock_decided executes
  obtain ⟨action,executed,blocks,lasting,settings,configured,rfl⟩ := executes
  refine ⟨action.config,blockInfo call.context settings,?_,rfl⟩
  rw [ResponseEngine.executedIn,if_pos enabled] at executed
  dsimp only at executed
  rw [unblocked] at executed
  simp only [Bool.false_eq_true,if_false] at executed
  rw [ResponseEngine.answerCall,executeResponse_unblocked enabled unblocked,ResponseEngine.respond]
  cases selected : (engine.isSessionBlocked call.context.now call.context.key).2.selectResponseTier call.context.now
      call.riskScore call.context.sessionId with
  | none =>
      rw [selected] at executed
      cases executed
  | some decision =>
      rw [selected] at executed
      exact runActions_stores _ executed blocks configured lasting

theorem answerCall_origin (present : blockOf (engine.answerCall call).1.actionInstances config key = some info) :
    blockOf engine.actionInstances config key = some info ∨
      ∃ duration, ExecutesBlock engine call duration ∧ info.blockedUntil = call.context.now + duration := by
  have asked := (isSessionBlocked_forgets engine call.context.now call.context.key).origin config key info
  cases enabled : engine.config.enabled with
  | false =>
      rw [ResponseEngine.answerCall,executeResponse_disabled enabled] at present
      exact .inl present
  | true =>
      cases blocked : (engine.isSessionBlocked call.context.now call.context.key).1 with
      | true =>
          rw [ResponseEngine.answerCall,executeResponse_blocked enabled blocked,handleBlockedSession_engine] at present
          exact .inl (asked present)
      | false =>
          rw [ResponseEngine.answerCall,executeResponse_unblocked enabled blocked,ResponseEngine.respond] at present
          split at present
          · exact .inl (asked present)
          · rename_i decision selected
            rcases runActions_origin _ present with before | ⟨action,executed,duration,blocks,ends⟩
            · exact .inl (asked before)
            · refine .inr ⟨duration,⟨action,?_,blocks⟩,ends⟩
              rw [ResponseEngine.executedIn,if_pos enabled]
              dsimp only
              rw [blocked,selected]
              exact executed

theorem answerCall_other (other : key ≠ call.context.key)
    (present : blockOf (engine.answerCall call).1.actionInstances config key = some info) :
    blockOf engine.actionInstances config key = some info := by
  rcases (executeResponse_evolves engine call.context call.riskScore call.response).origin config key info present with
    before | new
  · exact before
  · exact absurd new.1 other

theorem answerCall_config (engine : ResponseEngine) (call : EngineCall) :
    (engine.answerCall call).1.config = engine.config := executeResponse_config _ _ _ _

theorem exec_config (calls : List EngineCall) (engine : ResponseEngine) :
    (exec ResponseEngine.answerCall engine calls).1.config = engine.config := by
  let kept : ResponseEngine → Prop := fun reached => reached.config = engine.config
  have preserved : ∀ reached call, kept reached → kept (reached.answerCall call).1 :=
    fun reached call same => (answerCall_config reached call).trans same
  exact exec_invariant preserved rfl calls

theorem exec_kept (calls : List EngineCall) (present : blockOf engine.actionInstances config key = some info)
    (inForce : ∀ call ∈ calls, (call.context.now : ℚ) ≤ info.blockedUntil) :
    blockOf (exec ResponseEngine.answerCall engine calls).1.actionInstances config key = some info := by
  induction calls generalizing engine with
  | nil => exact present
  | cons call rest ih =>
      rw [List.forall_mem_cons] at inForce
      exact ih (executeResponse_kept present inForce.1) inForce.2

theorem enforces_of_block (enabled : engine.config.enabled = true)
    (present : blockOf engine.actionInstances config call.context.key = some info)
    (inForce : (call.context.now : ℚ) ≤ info.blockedUntil) : Enforces engine call :=
  executeResponse_blocked enabled ((isSessionBlocked_exact engine _ _).mpr ⟨config,info,present,inForce⟩)

theorem decides_of_ended (enabled : engine.config.enabled = true)
    (ended : ∀ config info, blockOf engine.actionInstances config call.context.key = some info →
      info.blockedUntil < call.context.now) : Decides engine call := by
  apply executeResponse_unblocked enabled
  cases blocked : (engine.isSessionBlocked call.context.now call.context.key).1 with
  | false => rfl
  | true =>
      obtain ⟨config,info,present,inForce⟩ := (isSessionBlocked_exact engine _ _).mp blocked
      exact absurd (ended config info present) (not_lt.mpr inForce)

theorem executesBlock_free (executes : ExecutesBlock engine call duration)
    (present : blockOf engine.actionInstances config call.context.key = some info) :
    info.blockedUntil < call.context.now := by
  obtain ⟨_,unblocked⟩ := executesBlock_decided executes
  by_contra inForce
  have blocked := (isSessionBlocked_exact engine call.context.now _).mpr ⟨config,info,present,not_lt.mp inForce⟩
  rw [unblocked] at blocked
  cases blocked

theorem exec_ended (calls : List EngineCall) (ordered : calls.Pairwise (fun one two => one.context.now ≤ two.context.now))
    (met : ∀ call ∈ calls, call.context.key = key → ∃ config info,
      blockOf engine.actionInstances config key = some info ∧ (call.context.now : ℚ) ≤ info.blockedUntil)
    (ended : ∀ config info, blockOf engine.actionInstances config key = some info → info.blockedUntil < time) :
    ∀ config info, blockOf (exec ResponseEngine.answerCall engine calls).1.actionInstances config key = some info →
      info.blockedUntil < time := by
  induction calls generalizing engine with
  | nil => exact ended
  | cons call rest ih =>
      rw [List.pairwise_cons] at ordered
      rw [List.forall_mem_cons] at met
      refine ih ordered.2 ?_ ?_
      · intro later here own
        obtain ⟨config,info,present,inForce⟩ := met.2 later here own
        have earlier : (call.context.now : ℚ) ≤ info.blockedUntil :=
          (Int.cast_le.mpr (ordered.1 later here)).trans inForce
        exact ⟨config,info,executeResponse_kept present earlier,inForce⟩
      · intro config info present
        by_cases own : key = call.context.key
        · rcases answerCall_origin present with before | ⟨duration,executes,_⟩
          · exact ended config info before
          · obtain ⟨config',info',inPlace,inForce⟩ := met.1 own.symm
            rw [own] at inPlace
            exact absurd (executesBlock_free executes inPlace) (not_lt.mpr inForce)
        · exact ended config info (answerCall_other own present)

end Calls

section Episodes
variable {config : ResponseConfiguration} {calls before between : List EngineCall} {origin later : EngineCall}

theorem reachedBy_episode (config : ResponseConfiguration) (before between : List EngineCall) (origin : EngineCall) :
    reachedBy config (before ++ origin :: between) =
      (exec ResponseEngine.answerCall ((reachedBy config before).answerCall origin).1 between).1 := by
  rw [reachedBy,exec_append,exec_cons]
  rfl

theorem Episode.enabled (episode : Episode config calls before between origin later duration) :
    (reachedBy config (before ++ origin :: between)).config.enabled = true := by
  have decided := (executesBlock_decided episode.blocked).1
  rw [reachedBy,exec_config] at decided ⊢
  exact decided

theorem Episode.ordered (episode : Episode config calls before between origin later duration)
    (ordered : calls.Pairwise (fun one two => one.context.now ≤ two.context.now)) :
    origin.context.now ≤ later.context.now ∧ (∀ call ∈ between, call.context.now ≤ later.context.now) ∧
      between.Pairwise (fun one two => one.context.now ≤ two.context.now) := by
  obtain ⟨rest,split⟩ := episode.split
  rw [split] at ordered
  have tail := (List.pairwise_append.mp ordered).2.1
  rw [List.pairwise_cons] at tail
  have inner := List.pairwise_append.mp tail.2
  refine ⟨tail.1 later (by simp),?_,inner.1⟩
  intro call here
  exact inner.2.2 call here later List.mem_cons_self

theorem Episode.enforces (episode : Episode config calls before between origin later duration)
    (ordered : calls.Pairwise (fun one two => one.context.now ≤ two.context.now))
    (within : (later.context.now : ℚ) ≤ origin.context.now + duration) :
    Enforces (reachedBy config (before ++ origin :: between)) later := by
  obtain ⟨action,info,stored,ends⟩ := executesBlock_stored episode.blocked
  have live : (later.context.now : ℚ) ≤ info.blockedUntil := by rw [ends]; exact within
  have kept : blockOf (reachedBy config (before ++ origin :: between)).actionInstances action later.context.key =
      some info := by
    rw [reachedBy_episode,episode.client]
    apply exec_kept between stored
    intro call here
    exact (Int.cast_le.mpr ((episode.ordered ordered).2.1 call here)).trans live
  exact enforces_of_block episode.enabled kept live

theorem Episode.decides (episode : Episode config calls before between origin later duration)
    (ordered : calls.Pairwise (fun one two => one.context.now ≤ two.context.now))
    (expired : ∀ other, ExecutesBlock (reachedBy config before) origin other →
      origin.context.now + other < (later.context.now : ℚ))
    (first : ∀ call ∈ between, call.context.key = origin.context.key →
      ∃ other, ExecutesBlock (reachedBy config before) origin other ∧
        (call.context.now : ℚ) ≤ origin.context.now + other) :
    Decides (reachedBy config (before ++ origin :: between)) later := by
  apply decides_of_ended episode.enabled
  rw [reachedBy_episode,episode.client]
  refine exec_ended between (episode.ordered ordered).2.2 ?_ ?_
  · intro call here own
    obtain ⟨other,executes,within⟩ := first call here own
    obtain ⟨action,info,stored,ends⟩ := executesBlock_stored executes
    exact ⟨action,info,stored,by rw [ends]; exact within⟩
  · intro action info present
    rcases answerCall_origin present with earlier | ⟨other,executes,ends⟩
    · have past := executesBlock_free episode.blocked earlier
      exact past.trans_le (Int.cast_le.mpr (episode.ordered ordered).1)
    · rw [ends]
      exact expired other executes

end Episodes

-- A block holds for its full duration whatever happens to other clients, and the
-- client is judged by its risk score again once the last block of that call is over.
theorem block_lasts_the_longest (config : ResponseConfiguration) (calls : List EngineCall)
    (ordered : calls.Pairwise (fun one two => one.context.now ≤ two.context.now)) : LastsTheLongest config calls :=
  fun _ _ _ _ _ episode => ⟨episode.enforces ordered,episode.decides ordered⟩

def visit (now : ℤ) (score : ℚ) : EngineCall := ⟨⟨now,"203.0.113.7","s1",""⟩,.finite score,.fresh⟩

theorem visit_executes :
    (reachedBy getDefaultResponseConfiguration []).executedIn (visit 0 (3/4)) =
      [logOnly,blocking 8 900000 "Access temporarily restricted due to suspicious activity" "/security-notice"] := by
  decide +kernel

theorem block_lasts_fifteen_minutes :
    Enforces (reachedBy getDefaultResponseConfiguration [visit 0 (3/4)]) (visit 900000 (1/10)) ∧
    Decides (reachedBy getDefaultResponseConfiguration [visit 0 (3/4),visit 900000 (1/10)]) (visit 900001 (1/10)) := by
  have executes : ExecutesBlock (reachedBy getDefaultResponseConfiguration []) (visit 0 (3/4)) 900000 := by
    refine ⟨blocking 8 900000 "Access temporarily restricted due to suspicious activity" "/security-notice",?_,rfl,
      by norm_num,_,rfl,rfl⟩
    rw [visit_executes]
    exact List.mem_cons_of_mem _ List.mem_cons_self
  have only : ∀ other, ExecutesBlock (reachedBy getDefaultResponseConfiguration []) (visit 0 (3/4)) other →
      other = 900000 := by
    rintro other ⟨action,executed,blocks,_,settings,configured,rfl⟩
    rw [visit_executes] at executed
    rcases List.mem_cons.mp executed with rfl | executed
    · cases blocks
    · cases List.mem_singleton.mp executed
      cases configured
      rfl
  have lasts := block_lasts_the_longest getDefaultResponseConfiguration
    [visit 0 (3/4),visit 900000 (1/10),visit 900001 (1/10)] (by decide)
  constructor
  · refine (lasts [] [] _ _ 900000 ⟨⟨_,rfl⟩,executes,rfl⟩).1 ?_
    norm_num [visit]
  · refine (lasts [] [visit 900000 (1/10)] _ _ 900000 ⟨⟨[],rfl⟩,executes,rfl⟩).2 ?_ ?_
    · intro other blocks
      rw [only other blocks]
      norm_num [visit]
    · intro call here _
      refine ⟨900000,executes,?_⟩
      rw [List.mem_singleton.mp here]
      norm_num [visit]

-- A tier whose rate limit answers first: its two blocks fail to answer, but both are
-- stored.
def overlapping : ResponseConfiguration where
  enabled := true
  tiers := [⟨.block,⟨.finite 0,.finite 1⟩,[limited 0 0,blocking 3 1000 "" "/",blocking 4 5000 "" "/"]⟩]

-- The shorter block is over after a second; the longer one answers the next call.
theorem shorter_block_outlasted : ¬LastsItsDuration overlapping [visit 0 (1/2),visit 2000 (1/2)] := by
  intro lasts
  have executes : ExecutesBlock (reachedBy overlapping []) (visit 0 (1/2)) 1000 :=
    ⟨blocking 3 1000 "" "/",by decide +kernel,rfl,by norm_num,_,rfl,rfl⟩
  have decides := (lasts [] [] _ _ 1000 ⟨⟨[],rfl⟩,executes,rfl⟩).2 (by norm_num [visit]) (by simp)
  have responses := congrArg EngineRun.response decides
  revert responses
  decide +kernel

end PhantomFlow.Response
