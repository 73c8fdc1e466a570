import PhantomFlow.RateLimit.TokenBucket

namespace PhantomFlow.RateLimit.TokenBound
open Library Library.Machine
open TokenBucket hiding request

section Bucket
variable {config : RateLimitConfig} {limit : ℚ} {adjustments : Adjustments} {state : RateLimitState} {now : ℤ}

theorem checkTokenBucket_spent (atLeastOne : 1 ≤ limit) :
    (checkTokenBucket config now state limit adjustments).2.tokens +
        (if (checkTokenBucket config now state limit adjustments).1.allowed = true then 1 else 0) =
      min limit (state.tokens + tokensFor config (now - state.lastRefill)) := by
  rw [checkTokenBucket_tokens atLeastOne]
  simp only [allowed_exact atLeastOne]
  ring

theorem checkTokenBucket_capped (atLeastOne : 1 ≤ limit) :
    (checkTokenBucket config now state limit adjustments).2.tokens ≤ limit := by
  have spent := @checkTokenBucket_spent config limit adjustments state now atLeastOne
  have capped := min_le_left limit (state.tokens + tokensFor config (now - state.lastRefill))
  split at spent <;> linarith

theorem allowed_solvent (atLeastOne : 1 ≤ limit)
    (granted : (checkTokenBucket config now state limit adjustments).1.allowed = true) :
    0 ≤ (checkTokenBucket config now state limit adjustments).2.tokens := by
  have enough := (allowed_exact atLeastOne).mp granted
  rw [checkTokenBucket_tokens atLeastOne,if_pos enough]
  linarith [le_min atLeastOne enough]

theorem tokensFor_nonneg (rate : 0 ≤ config.replenishRate) (past : start ≤ now) :
    0 ≤ tokensFor config (now - start) := by
  apply Int.floor_nonneg.mpr
  have elapsed : (0 : ℚ) ≤ ((now - start : ℤ) : ℚ) := by exact_mod_cast sub_nonneg.mpr past
  positivity

theorem checkTokenBucket_solvent (rate : 0 ≤ config.replenishRate) (atLeastOne : 1 ≤ limit)
    (solvent : 0 ≤ state.tokens) (past : state.lastRefill ≤ now) :
    0 ≤ (checkTokenBucket config now state limit adjustments).2.tokens := by
  cases decided : (checkTokenBucket config now state limit adjustments).1.allowed with
  | true => exact allowed_solvent atLeastOne decided
  | false =>
      rw [(refused_state atLeastOne decided).1]
      have credit : (0 : ℚ) ≤ tokensFor config (now - state.lastRefill) := by
        exact_mod_cast tokensFor_nonneg rate past
      linarith

theorem tokensFor_le_earned (config : RateLimitConfig) (start now : ℤ) : (tokensFor config (now - start) : ℚ) ≤ earned config start now :=
  Int.floor_le _

theorem earned_nonneg (rate : 0 ≤ config.replenishRate) (past : start ≤ now) : 0 ≤ earned config start now := by
  have elapsed : (0 : ℚ) ≤ ((now - start : ℤ) : ℚ) := by exact_mod_cast sub_nonneg.mpr past
  unfold earned
  positivity

end Bucket

-- The amortised account of one interval: what was granted in it is covered by one
-- full bucket and the accrual so far, and the tokens still in the bucket are covered
-- as well.
structure Funded (config : RateLimitConfig) (limit : ℚ) (first last : ℤ) (identifier : String) (log : List Answer)
    (redis : Redis) : Prop where
  bounded : (allowedIn log identifier first last : ℚ) ≤ limit + earned config first last
  backed : allowedIn log identifier first last = 0 ∨
    ∃ state answer, redis.states identifier = some (stringify state) ∧
      answer ∈ log ∧ answer.time = state.lastRefill ∧ first ≤ state.lastRefill ∧
      (state.lastRefill ≤ last → allowedIn log identifier first last + state.tokens ≤
        limit + earned config first state.lastRefill)

section Steps
variable {limiter : AdaptiveRateLimiter} {redis : Redis} {zone : LocalTime} {limit : ℚ} {first last : ℤ}

theorem allowedIn_none (until' : Until log now) (early : now < first) (identifier : String) :
    allowedIn log identifier first last = 0 := by
  rw [allowedIn,List.countP_eq_zero]
  intro answer member
  have past := until' answer member
  simp only [decide_eq_true_eq]
  rintro ⟨_,_,late,_⟩
  omega

theorem funded_start (rate : 0 ≤ limiter.config.replenishRate) (nonneg : 0 ≤ limit) (interval : first ≤ last) :
    Funded limiter.config limit first last identifier [] redis := by
  refine ⟨?_,Or.inl rfl⟩
  have accrued := earned_nonneg rate interval
  have none' : allowedIn [] identifier first last = 0 := rfl
  rw [none']
  push_cast
  linarith

theorem funded_state (until' : Until log now) (funded : Funded limiter.config limit first last identifier log redis)
    (granted : allowedIn log identifier first last ≠ 0) :
    let state := storedState limiter.config redis now identifier
    first ≤ state.lastRefill ∧ state.lastRefill ≤ now ∧
      (state.lastRefill ≤ last → allowedIn log identifier first last + state.tokens ≤
        limit + earned limiter.config first state.lastRefill) := by
  rcases funded.backed with none' | ⟨state,answer,stored,member,time,since,covered⟩
  · exact absurd none' granted
  · have current : storedState limiter.config redis now identifier = state := by simp [storedState,stored]
    intro state'
    rw [show state' = state from current]
    exact ⟨since,time ▸ until' answer member,covered⟩

theorem refilled_covered (until' : Until log now) (rate : 0 ≤ limiter.config.replenishRate)
    (funded : Funded limiter.config limit first last identifier log redis) (begun : first ≤ now) (current : now ≤ last)
    (cap : applied ≤ limit) :
    let state := storedState limiter.config redis now identifier
    allowedIn log identifier first last + min applied (state.tokens + tokensFor limiter.config (now - state.lastRefill)) ≤
      limit + earned limiter.config first now := by
  intro state
  have accrued := earned_nonneg rate begun
  by_cases granted : allowedIn log identifier first last = 0
  · have capped := min_le_left applied (state.tokens + tokensFor limiter.config (now - state.lastRefill))
    rw [granted]
    push_cast
    linarith
  · obtain ⟨since,past,covered⟩ := funded_state until' funded granted
    have account := covered (past.trans current)
    have credit := tokensFor_le_earned limiter.config state.lastRefill now
    have split' := earned_split limiter.config first state.lastRefill now
    have filled := min_le_right applied (state.tokens + tokensFor limiter.config (now - state.lastRefill))
    linarith

theorem funded_own (bucket : limiter.config.algorithm = .token_bucket) (rate : 0 ≤ limiter.config.replenishRate)
    (until' : Until log now) (applied : (answerTo limiter zone redis now request).result.limitApplied ≤ limit)
    (funded : Funded limiter.config limit first last request.identifier log redis) :
    Funded limiter.config limit first last request.identifier (log ++ [answerTo limiter zone redis now request])
      (checkStored limiter zone redis now request).2 := by
  have atLeastOne := limiter.finalLimit_pos (limiter.calculateAdjustments redis zone request).1
  obtain ⟨checked,call⟩ : ∃ checked, checked = checkTokenBucket limiter.config now
      (storedState limiter.config redis now request.identifier)
      (limiter.finalLimit (limiter.calculateAdjustments redis zone request).1)
      (limiter.calculateAdjustments redis zone request).1 := ⟨_,rfl⟩
  have decided : answerTo limiter zone redis now request = ⟨request.identifier,now,checked.1⟩ := by
    simp only [answerTo,checkStored,checkAlgorithm,bucket,call]
  have written : (checkStored limiter zone redis now request).2.states request.identifier =
      some (stringify checked.2) := by
    rw [checkStored_states,Function.update_self]
    simp only [checkAlgorithm,bucket,call]
  have refilled : checked.2.lastRefill = now := by rw [call]; exact checkTokenBucket_lastRefill
  rw [decided] at applied ⊢
  have cap : limiter.finalLimit (limiter.calculateAdjustments redis zone request).1 ≤ limit := by
    rw [call] at applied; exact applied
  have counted := allowedIn_snoc log ⟨request.identifier,now,checked.1⟩ request.identifier first last
  by_cases begun : first ≤ now
  · by_cases current : now ≤ last
    · have covered := refilled_covered until' rate funded begun current cap
      dsimp only at covered
      rw [← checkTokenBucket_spent atLeastOne,← call] at covered
      simp only [begun,current,and_true,true_and] at counted
      have account : (allowedIn (log ++ [⟨request.identifier,now,checked.1⟩]) request.identifier first last : ℚ) +
          checked.2.tokens ≤ limit + earned limiter.config first now := by
        rw [counted]
        push_cast
        linarith
      refine ⟨?_,Or.inr ⟨checked.2,⟨request.identifier,now,checked.1⟩,written,List.mem_concat_self,refilled.symm,?_,?_⟩⟩
      rotate_left
      · rw [refilled]; exact begun
      · intro _; rw [refilled]; exact account
      cases granted : checked.1.allowed with
      | true =>
          have solvent : 0 ≤ checked.2.tokens := by rw [call] at granted ⊢; exact allowed_solvent atLeastOne granted
          have rest := earned_nonneg rate current
          have split' := earned_split limiter.config first now last
          linarith
      | false =>
          rw [counted,granted]
          simpa using funded.bounded
    · simp only [current,and_false,if_false,add_zero] at counted
      refine ⟨by rw [counted]; exact funded.bounded,
        Or.inr ⟨checked.2,⟨request.identifier,now,checked.1⟩,written,List.mem_concat_self,refilled.symm,?_,?_⟩⟩
      · rw [refilled]; exact begun
      · intro past; rw [refilled] at past; exact absurd past current
  · have nothing : allowedIn log request.identifier first last = 0 := allowedIn_none until' (not_le.mp begun) _
    simp only [begun,false_and,and_false,if_false,add_zero,nothing] at counted
    refine ⟨?_,Or.inl counted⟩
    rw [counted,← nothing]
    exact funded.bounded

theorem funded_other (other : request.identifier ≠ identifier)
    (funded : Funded limiter.config limit first last identifier log redis) :
    Funded limiter.config limit first last identifier (log ++ [answerTo limiter zone redis now request])
      (checkStored limiter zone redis now request).2 := by
  have counted := allowedIn_snoc log (answerTo limiter zone redis now request) identifier first last
  have foreign : (answerTo limiter zone redis now request).identifier ≠ identifier := other
  simp only [foreign,false_and,if_false,add_zero] at counted
  refine ⟨by rw [counted]; exact funded.bounded,?_⟩
  rw [counted]
  rcases funded.backed with none' | ⟨state,answer,stored,member,rest⟩
  · exact Or.inl none'
  · refine Or.inr ⟨state,answer,?_,List.mem_append_left _ member,rest⟩
    rw [checkStored_states,Function.update_of_ne (Ne.symm other)]
    exact stored

theorem storedRun_funded (zone : LocalTime) (bucket : limiter.config.algorithm = .token_bucket)
    (rate : 0 ≤ limiter.config.replenishRate) (nonneg : 0 ≤ limit) (interval : first ≤ last) (ordered : Ordered events)
    (limits : ∀ answer ∈ storedLog limiter zone redis events,
      answer.identifier = identifier → answer.result.limitApplied ≤ limit) :
    Funded limiter.config limit first last identifier (storedLog limiter zone redis events)
      (storedRun limiter zone redis events) := by
  induction events using calls_induction identifier with
  | nil => exact funded_start rate nonneg interval
  | own events now request same ih =>
      subst identifier
      obtain ⟨before,until'⟩ := ordered_snoc limiter zone redis ordered
      rw [storedLog_snoc] at limits ⊢
      rw [storedRun_snoc]
      have funded := ih before (fun answer member => limits answer (List.mem_append_left _ member))
      exact funded_own bucket rate until' (limits _ (List.mem_append_right _ (by simp [storedStep])) rfl) funded
  | other events now request same ih =>
      rw [storedLog_snoc] at limits ⊢
      rw [storedRun_snoc]
      have funded := ih (ordered_init ordered) (fun answer member => limits answer (List.mem_append_left _ member))
      exact funded_other same funded
  | quiet events event quiet ih =>
      rw [storedLog_quiet _ _ _ _ quiet] at limits ⊢
      rw [storedRun_quiet _ _ _ _ quiet]
      exact ih (ordered_init ordered) limits

end Steps

def ownTime (identifier : String) : Event → Option ℤ
  | .check now request => if request.identifier = identifier then some now else none
  | .manageCacheSize | .cleanupExpiredEntries _ => none

-- The bucket is not overdrawn, and it was refilled no later than the calls to come.
def Solvent (config : RateLimitConfig) (current : Option RateLimitState) (identifier : String) (events : List Event) :
    Prop :=
  match current with
  | none => 0 ≤ config.baseLimit
  | some state => 0 ≤ state.tokens ∧ ∀ now ∈ events.filterMap (ownTime identifier), state.lastRefill ≤ now

section Runs
variable {limiter : AdaptiveRateLimiter} {redis : Redis}

theorem solvent_state (solvent : Solvent limiter.config ((redis.states request.identifier).map parse) request.identifier
      (.check now request :: events)) :
    0 ≤ (storedState limiter.config redis now request.identifier).tokens ∧
      (storedState limiter.config redis now request.identifier).lastRefill ≤ now := by
  cases stored : redis.states request.identifier with
  | none =>
      rw [stored] at solvent
      simp only [storedState,stored]
      exact ⟨solvent,le_refl _⟩
  | some image =>
      rw [stored] at solvent
      simp only [storedState,stored]
      exact ⟨solvent.1,solvent.2 now (by simp [ownTime])⟩

theorem solvent_mono (fewer : ∀ now ∈ later.filterMap (ownTime identifier), now ∈ events.filterMap (ownTime identifier))
    (solvent : Solvent config current identifier events) : Solvent config current identifier later := by
  cases current with
  | none => exact solvent
  | some state => exact ⟨solvent.1,fun now member => solvent.2 now (fewer now member)⟩

theorem solvent_tail (solvent : Solvent config current identifier (event :: events)) :
    Solvent config current identifier events := by
  refine solvent_mono (fun now member => ?_) solvent
  rw [List.filterMap_cons]
  split
  · exact member
  · exact List.mem_cons_of_mem _ member

theorem ownTime_call (own : ownTime identifier event = some now) : event.callTime = some now := by
  cases event with
  | check time request =>
      simp only [ownTime] at own
      split at own
      · exact own
      · cases own
  | manageCacheSize => cases own
  | cleanupExpiredEntries time => cases own

theorem solvent_step (bucket : limiter.config.algorithm = .token_bucket) (rate : 0 ≤ limiter.config.replenishRate)
    (ordered : Ordered (event :: events))
    (solvent : Solvent limiter.config ((redis.states identifier).map parse) identifier (event :: events)) :
    Solvent limiter.config (((storedStep limiter zone redis event).1.states identifier).map parse) identifier events := by
  cases event with
  | check now request =>
      by_cases same : request.identifier = identifier
      · subst identifier
        obtain ⟨tokens,past⟩ := solvent_state solvent
        have later : ∀ time ∈ events.filterMap (ownTime request.identifier), now ≤ time := by
          intro time member
          obtain ⟨event,here,own⟩ := List.mem_filterMap.mp member
          unfold Ordered at ordered
          exact (List.pairwise_cons.mp ordered).1 time (List.mem_filterMap.mpr ⟨event,here,ownTime_call own⟩)
        simp only [storedStep,checkStored_states,Function.update_self,Option.map_some,parse_stringify,checkAlgorithm,bucket]
        refine ⟨checkTokenBucket_solvent rate (AdaptiveRateLimiter.finalLimit_pos _ _) tokens past,?_⟩
        rw [checkTokenBucket_lastRefill]
        exact later
      · have other : identifier ≠ request.identifier := fun equal => same equal.symm
        simp only [storedStep,checkStored_states,Function.update_of_ne other]
        exact solvent_tail solvent
  | manageCacheSize => exact solvent_tail solvent
  | cleanupExpiredEntries now => exact solvent_tail solvent

theorem ordered_tail (ordered : Ordered (event :: events)) : Ordered events := by
  unfold Ordered at ordered ⊢
  rw [List.filterMap_cons] at ordered
  split at ordered
  · exact ordered
  · exact (List.pairwise_cons.mp ordered).2

theorem storedRun_solvent (zone : LocalTime) (bucket : limiter.config.algorithm = .token_bucket)
    (rate : 0 ≤ limiter.config.replenishRate) (ordered : Ordered (before ++ rest))
    (solvent : Solvent limiter.config ((redis.states identifier).map parse) identifier (before ++ rest)) :
    Solvent limiter.config (((storedRun limiter zone redis before).states identifier).map parse) identifier rest := by
  induction before generalizing redis with
  | nil => exact solvent
  | cons event before ih => exact ih (ordered_tail ordered) (solvent_step bucket rate ordered solvent)

end Runs

-- A token bucket limiter, its cache and the eviction included, from any state that
-- cache and store agree on. What it grants is bounded in any case.
theorem token_bucket_bounded (w : World) (zone : LocalTime) (identifier : String) (events : List Event) (L : ℚ)
    (bucket : w.limiter.config.algorithm = .token_bucket) (rate : 0 ≤ w.limiter.config.replenishRate)
    (kept : Coherent w.limiter w.redis) (ordered : Ordered events) (nonneg : 0 ≤ L)
    (limits : ∀ answer ∈ w.log zone events, answer.identifier = identifier → answer.result.limitApplied ≤ L) :
    (∀ first last : ℤ, first ≤ last →
      (allowedIn (w.log zone events) identifier first last : ℚ) ≤
        L + (last - first) * w.limiter.config.replenishRate / 1000) ∧
    (Solvent w.limiter.config (w.currentState identifier) identifier events →
      ∀ before now request rest, events = before ++ .check now request :: rest → request.identifier = identifier →
      let reached := w.run zone before
      let called := reached.limiter.checkRateLimit reached.redis zone now request
      ∃ state, World.currentState ⟨called.2.1,called.2.2⟩ identifier = some state ∧
        0 ≤ state.tokens ∧ state.tokens ≤ called.1.limitApplied) := by
  have start : Refines w.limiter w w.redis := ⟨rfl,kept,rfl⟩
  have current := refines_currentState start identifier
  constructor
  · intro first last interval
    rw [(refines_run zone start events).2] at limits ⊢
    have bounded := (storedRun_funded zone bucket rate nonneg interval ordered limits).bounded
    unfold earned at bounded
    push_cast at bounded
    exact bounded
  · intro solvent before now request rest split' same
    subst same split'
    rw [current] at solvent
    have here := storedRun_solvent zone bucket rate ordered solvent
    obtain ⟨tokens,past⟩ := solvent_state here
    intro reached called
    have refines := (refines_run zone start before).1
    have next := (refines_step zone reached _ (.check now request) refines).1
    have after := (refines_currentState next request.identifier).trans
      (by simp only [storedStep,checkStored_states,Function.update_self,Option.map_some,parse_stringify]; rfl)
    have result : called.1 = _ := refines_check refines zone now request
    simp only [checkAlgorithm,bucket] at after
    rw [result,checkStored,checkAlgorithm_limit]
    have atLeastOne := w.limiter.finalLimit_pos
    exact ⟨_,after,checkTokenBucket_solvent rate (atLeastOne _) tokens past,checkTokenBucket_capped (atLeastOne _)⟩

theorem token_bucket_bounded_burst :
    (allowedIn (World.log noon ⟨onePerSecond .token_bucket,.empty⟩
      [.check 0 sameClient,.cleanupExpiredEntries 5000,.check 0 sameClient]) "client" 0 500 : ℚ) ≤
        1 + (500 - 0) * 1 / 1000 :=
  (token_bucket_bounded ⟨onePerSecond .token_bucket,.empty⟩ noon "client"
    [.check 0 sameClient,.cleanupExpiredEntries 5000,.check 0 sameClient] 1 rfl (by decide +kernel)
    (refines_start _ _ rfl).2.1 (by decide) (by decide +kernel) (by decide +kernel)).1 0 500 (by decide)

-- A bucket that some other clock refilled one second ahead of this one.
def ahead : Redis :=
  { Redis.empty with
    states := Function.update Redis.empty.states "client" (some (stringify { drained with lastRefill := 1000 })) }

-- The empty bucket is charged for the second that has not passed yet.
theorem future_refill_overdraws :
    let w : World := ⟨onePerSecond .token_bucket,ahead⟩
    Coherent w.limiter w.redis ∧ Ordered [.check 0 sameClient] ∧
    (w.currentState "client").map RateLimitState.tokens = some 0 ∧
    (w.log noon [.check 0 sameClient]).map (fun answer => answer.result.limitApplied) = [1] ∧
    ((w.run noon [.check 0 sameClient]).currentState "client").map RateLimitState.tokens = some (-1) :=
  ⟨(refines_start _ _ rfl).2.1,by decide,by decide +kernel,by decide +kernel,by decide +kernel⟩

end PhantomFlow.RateLimit.TokenBound
