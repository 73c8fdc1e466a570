import PhantomFlow.Response.Escalation

namespace PhantomFlow.Response
open Library ResponseEngine

def untilBlocking : List ResponseAction → List ResponseAction
  | [] => []
  | action :: rest => if isBlockingAction action.type then [action] else action :: untilBlocking rest

def executedNames (actions : List ResponseAction) : List String :=
  (untilBlocking actions).map (fun action => action.type.name)

section Loops
variable {context : ActionExecutionContext} {progress : Progress}

theorem runAction_successful (succeeds : (runAction context progress action).1.allSuccessful = true) :
    progress.allSuccessful = true ∧ (runAction context progress action).2.success = true ∧
      (runAction context progress action).1.actionsExecuted = progress.actionsExecuted ++ [action.type.name] := by
  rcases runAction_cases context progress action with ⟨_,_,message,run⟩ | ⟨instances,_,run⟩
  · rw [run] at succeeds
    cases succeeds
  · rw [run] at succeeds ⊢
    obtain ⟨before,here⟩ := Bool.and_eq_true_iff.mp succeeds
    exact ⟨before,here,rfl⟩

theorem runActions_allSuccessful (actions : List ResponseAction)
    (succeeds : (runActions context progress actions).allSuccessful = true) : progress.allSuccessful = true := by
  induction actions generalizing progress with
  | nil => exact succeeds
  | cons action rest ih =>
      simp only [runActions] at succeeds
      split at succeeds
      · exact (runAction_successful succeeds).1
      · exact (runAction_successful (ih succeeds)).1

theorem runActions_executed (actions : List ResponseAction)
    (succeeds : (runActions context progress actions).allSuccessful = true) :
    (runActions context progress actions).actionsExecuted = progress.actionsExecuted ++ executedNames actions := by
  induction actions generalizing progress with
  | nil => exact (List.append_nil _).symm
  | cons action rest ih =>
      cases blocks : isBlockingAction action.type with
      | true =>
          simp only [runActions,blocks,Bool.and_true] at succeeds ⊢
          split at succeeds
          · rename_i success
            rw [if_pos success,(runAction_successful succeeds).2.2,executedNames,untilBlocking,if_pos blocks]
            rfl
          · rename_i failed
            exact absurd (runAction_successful (runActions_allSuccessful rest succeeds)).2.1 failed
      | false =>
          have goesOn : isBlockingAction action.type ≠ true := by rw [blocks]; exact Bool.false_ne_true
          simp only [runActions,blocks,Bool.and_false,Bool.false_eq_true,if_false] at succeeds ⊢
          have names : executedNames (action :: rest) = action.type.name :: executedNames rest := by
            rw [executedNames,untilBlocking,if_neg goesOn]
            rfl
          rw [ih succeeds,(runAction_successful (runActions_allSuccessful rest succeeds)).2.2,names,List.append_assoc]
          rfl

end Loops

section Tiers

theorem alert_tier : ∀ tier ∈ getDefaultResponseConfiguration.tiers,
    ("alert_admin" ∈ executedNames (sortedActions ⟨tier,tier.actions.filter ResponseAction.enabled⟩) ↔
      tier.level = .restrict) := by
  decide +kernel

theorem default_next (level : ResponseLevel) : ∃ next, nextTier getDefaultResponseConfiguration level = some next := by
  rw [← Option.isSome_iff_exists]
  cases level <;> decide +kernel

theorem le_finite (a b : ℚ) : (JsNumber.finite a).le (.finite b) = decide (a ≤ b) := by
  simp [JsNumber.le,JsNumber.lt,← not_lt]

def levelFor (r : ℚ) : ResponseLevel :=
  if r ≤ 3/10 then .monitor else if r ≤ 5/10 then .warn else if r ≤ 7/10 then .restrict
  else if r ≤ 85/100 then .block else .isolate

theorem default_own (above : 0 ≤ r) (below : r ≤ 1) :
    (ownTier getDefaultResponseConfiguration (.finite r)).map ResponseTier.level = some (levelFor r) := by
  have top : 85/100 ≤ r ∨ r ≤ 85/100 := le_total _ _
  simp only [ownTier,getDefaultResponseConfiguration,List.find?_cons,le_finite,levelFor]
  by_cases monitor : r ≤ 3/10
  · simp only [above,monitor,decide_true,Bool.and_self,if_true,Option.map_some]
  · have past := le_of_not_ge monitor
    by_cases warn : r ≤ 5/10
    · simp only [above,monitor,past,warn,decide_true,decide_false,Bool.and_self,Bool.and_false,if_true,if_false,Option.map_some]
    · have past' := le_of_not_ge warn
      by_cases restrict : r ≤ 7/10
      · simp only [above,monitor,past,warn,past',restrict,decide_true,decide_false,Bool.and_self,Bool.and_false,if_true,
          if_false,Option.map_some]
      · have past'' := le_of_not_ge restrict
        by_cases block : r ≤ 85/100
        · simp only [above,monitor,past,warn,past',restrict,past'',block,decide_true,decide_false,Bool.and_self,
            Bool.and_false,if_true,if_false,Option.map_some]
        · have last := le_of_not_ge block
          simp only [above,monitor,past,warn,past',restrict,past'',block,last,below,decide_true,decide_false,Bool.and_self,
            Bool.and_false,if_false,Option.map_some]

theorem levelFor_restrict (r : ℚ) : levelFor r = .restrict ↔ 5/10 < r ∧ r ≤ 7/10 := by
  unfold levelFor
  constructor
  · intro same
    split_ifs at same
    exact ⟨by linarith,by linarith⟩
  · intro inside
    rw [if_neg (by linarith),if_neg (by linarith),if_pos inside.2]

theorem levelFor_warn (r : ℚ) : levelFor r = .warn ↔ 3/10 < r ∧ r ≤ 5/10 := by
  unfold levelFor
  constructor
  · intro same
    split_ifs at same
    exact ⟨by linarith,by linarith⟩
  · intro inside
    rw [if_neg (by linarith),if_pos inside.2]

theorem next_restrict (level : ResponseLevel) : getNextEscalationLevel level = .restrict ↔ level = .warn := by
  cases level <;> decide

end Tiers

section Requests
variable {engine : ResponseEngine} {context : ActionExecutionContext} {res : HttpResponse}

def escalates (engine : ResponseEngine) (context : ActionExecutionContext) : Bool :=
  decide (3 ≤ ((engine.getResponseHistory context.sessionId).filter
    (fun entry => decide (context.now - entry.timestamp < 300000))).length)

-- The scores that are answered at `restrict`: its own, or those of the tier below when
-- the session escalates.
def alertFrom (engine : ResponseEngine) (context : ActionExecutionContext) : ℚ := if escalates engine context then 3/10 else 5/10
def alertUpTo (engine : ResponseEngine) (context : ActionExecutionContext) : ℚ := if escalates engine context then 5/10 else 7/10

theorem finalTier_restrict (configured : engine.config = getDefaultResponseConfiguration) (above : 0 ≤ r) (below : r ≤ 1) :
    ∃ tier ∈ getDefaultResponseConfiguration.tiers,
      engine.selectResponseTier context.now (.finite r) context.sessionId =
        some ⟨tier,tier.actions.filter ResponseAction.enabled⟩ ∧
      (tier.level = .restrict ↔ alertFrom engine context < r ∧ r ≤ alertUpTo engine context) := by
  obtain ⟨own,found,level⟩ := Option.map_eq_some_iff.mp (default_own above below)
  have here : engine.config.tiers.find? (fun tier =>
      tier.threshold.min.le (.finite r) && (JsNumber.finite r).le tier.threshold.max) = some own := by
    rw [configured]
    exact found
  have selected : engine.selectResponseTier context.now (.finite r) context.sessionId =
      some ⟨engine.applyEscalationLogic context.now own (engine.getResponseHistory context.sessionId),
        (engine.applyEscalationLogic context.now own (engine.getResponseHistory context.sessionId)).actions.filter
          ResponseAction.enabled⟩ := by
    rw [selectResponseTier,here]
    rfl
  by_cases recent : 3 ≤ ((engine.getResponseHistory context.sessionId).filter
      (fun entry => decide (context.now - entry.timestamp < 300000))).length
  · obtain ⟨next,available⟩ := default_next own.level
    have escalated : engine.applyEscalationLogic context.now own (engine.getResponseHistory context.sessionId) = next := by
      rw [applyEscalationLogic,if_pos recent,configured]
      exact congrArg (fun tier => tier.getD own) available
    rw [escalated] at selected
    refine ⟨next,List.mem_of_find?_eq_some available,selected,?_⟩
    rw [alertFrom,alertUpTo,escalates,decide_eq_true recent,if_pos rfl,if_pos rfl,nextTier_level available,next_restrict,
      level,levelFor_warn]
  · have kept : engine.applyEscalationLogic context.now own (engine.getResponseHistory context.sessionId) = own := by
      rw [applyEscalationLogic,if_neg recent]
    rw [kept] at selected
    refine ⟨own,List.mem_of_find?_eq_some found,selected,?_⟩
    rw [alertFrom,alertUpTo,escalates,decide_eq_false recent,if_neg Bool.false_ne_true,if_neg Bool.false_ne_true,level,
      levelFor_restrict]

-- With all actions succeeding, the administrator hears of the requests answered at
-- `restrict` and of no others.
theorem alerts_iff (configured : engine.config = getDefaultResponseConfiguration)
    (unblocked : (engine.isSessionBlocked context.now context.key).1 = false) (above : 0 ≤ r) (below : r ≤ 1)
    (done : (engine.executeResponse context (.finite r) res).outcome = .ok result) (succeeds : result.success = true) :
    "alert_admin" ∈ result.actionsExecuted ↔ alertFrom engine context < r ∧ r ≤ alertUpTo engine context := by
  have enabled : engine.config.enabled = true := by rw [configured]; rfl
  let asked := (engine.isSessionBlocked context.now context.key).2
  have sameConfig : asked.config = getDefaultResponseConfiguration := configured
  obtain ⟨tier,listed,selected,level⟩ := finalTier_restrict sameConfig above below
  rw [executeResponse_unblocked enabled unblocked] at done
  change (asked.respond context (.finite r) res).outcome = _ at done
  rw [respond,selected] at done
  cases done
  have executed := runActions_executed _ succeeds
  change _ = executedNames (sortedActions ⟨tier,tier.actions.filter ResponseAction.enabled⟩) at executed
  change "alert_admin" ∈ (runActions _ _ _).actionsExecuted ↔ _
  rw [executed,alert_tier tier listed]
  exact level

theorem alert_monotone_exact (engine : ResponseEngine) (context : ActionExecutionContext) (res : HttpResponse) (r1 r2 : ℚ)
    (result1 result2 : ResponseExecutionResult) (configured : engine.config = getDefaultResponseConfiguration)
    (unblocked : (engine.isSessionBlocked context.now context.key).1 = false) (positive : 0 ≤ r1) (ordered : r1 ≤ r2)
    (bounded : r2 ≤ 1) (done1 : (engine.executeResponse context (.finite r1) res).outcome = .ok result1)
    (done2 : (engine.executeResponse context (.finite r2) res).outcome = .ok result2)
    (success1 : result1.success = true) (success2 : result2.success = true) :
    ("alert_admin" ∈ result1.actionsExecuted → "alert_admin" ∈ result2.actionsExecuted) ↔
      ¬ ((alertFrom engine context < r1 ∧ r1 ≤ alertUpTo engine context) ∧ alertUpTo engine context < r2) := by
  rw [alerts_iff configured unblocked positive (ordered.trans bounded) done1 success1,
    alerts_iff configured unblocked (positive.trans ordered) bounded done2 success2]
  constructor
  · intro kept silenced
    exact absurd (kept silenced.1).2 (not_le.mpr silenced.2)
  · intro kept alerted
    refine ⟨alerted.1.trans_le ordered,?_⟩
    by_contra beyond
    exact kept ⟨alerted,not_le.mp beyond⟩

def askedAt (r : ℚ) : EngineRun :=
  (ResponseEngine.create getDefaultResponseConfiguration).executeResponse ⟨0,"203.0.113.7","s1",""⟩ (.finite r) .fresh

theorem askedAt_returns (r : ℚ) (succeeds : ((askedAt r).outcome.toOption.map ResponseExecutionResult.success) = some true) :
    ∃ result, (askedAt r).outcome = .ok result ∧ result.success = true := by
  obtain ⟨result,done⟩ := executeResponse_returns (.create getDefaultResponseConfiguration) ⟨0,"203.0.113.7","s1",""⟩ (.finite r)
  refine ⟨result,done,?_⟩
  change (askedAt r).outcome = .ok result at done
  rw [done] at succeeds
  exact Option.some.inj succeeds

theorem alert_monotone_exact_restricted :
    ∃ result1 result2, ((askedAt (2/10)).outcome = .ok result1 ∧ (askedAt (6/10)).outcome = .ok result2) ∧
      ("alert_admin" ∈ result1.actionsExecuted → "alert_admin" ∈ result2.actionsExecuted) := by
  obtain ⟨result1,done1,success1⟩ := askedAt_returns (2/10) (by decide +kernel)
  obtain ⟨result2,done2,success2⟩ := askedAt_returns (6/10) (by decide +kernel)
  refine ⟨result1,result2,⟨done1,done2⟩,?_⟩
  refine (alert_monotone_exact (.create getDefaultResponseConfiguration) ⟨0,"203.0.113.7","s1",""⟩ .fresh (2/10) (6/10)
    result1 result2 rfl rfl (by norm_num) (by norm_num) (by norm_num) done1 done2 success1 success2).mpr ?_
  decide +kernel

-- From `restrict` to `block` the alert is lost.
theorem alert_silenced : ¬ ∀ (engine : ResponseEngine) (context : ActionExecutionContext) (res : HttpResponse) (r1 r2 : ℚ)
    (result1 result2 : ResponseExecutionResult), engine.config = getDefaultResponseConfiguration →
    (engine.isSessionBlocked context.now context.key).1 = false → 0 ≤ r1 → r1 ≤ r2 → r2 ≤ 1 →
    (engine.executeResponse context (.finite r1) res).outcome = .ok result1 →
    (engine.executeResponse context (.finite r2) res).outcome = .ok result2 →
    result1.success = true → result2.success = true →
    "alert_admin" ∈ result1.actionsExecuted → "alert_admin" ∈ result2.actionsExecuted := by
  intro all
  obtain ⟨result1,done1,success1⟩ := askedAt_returns (6/10) (by decide +kernel)
  obtain ⟨result2,done2,success2⟩ := askedAt_returns (8/10) (by decide +kernel)
  have kept := all (.create getDefaultResponseConfiguration) ⟨0,"203.0.113.7","s1",""⟩ .fresh (6/10) (8/10) result1 result2
    rfl rfl (by norm_num) (by norm_num) (by norm_num) done1 done2 success1 success2
  have alerted : ((askedAt (6/10)).outcome.toOption.map (fun result => decide ("alert_admin" ∈ result.actionsExecuted))) =
      some true := by decide +kernel
  have silent : ((askedAt (8/10)).outcome.toOption.map (fun result => decide ("alert_admin" ∈ result.actionsExecuted))) =
      some false := by decide +kernel
  rw [done1] at alerted
  rw [done2] at silent
  exact of_decide_eq_false (Option.some.inj silent) (kept (of_decide_eq_true (Option.some.inj alerted)))

end Requests
end PhantomFlow.Response
