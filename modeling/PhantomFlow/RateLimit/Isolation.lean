import PhantomFlow.RateLimit.LimiterRuns
import PhantomFlow.RateLimit.Manager

namespace PhantomFlow.RateLimit.Isolation
open Library Library.Machine

def governedBy (zone : LocalTime) (policyId : String) (w : ManagerWorld) : ManagerEvent → Bool
  | .checkRateLimit _ request => decide ((w.manager.activePolicy zone request).policyId = policyId)
  | _ => false

def cachedState (w : ManagerWorld) (policyId identifier : String) : Option RateLimitState :=
  (w.manager.limiters.get policyId).bind (fun limiter => limiter.localCache.get identifier)

-- A request of the policy finds its own state: in its limiter's cache, or in the
-- store because the identifier's latest request, if any, was the policy's too.
def Owned (zone : LocalTime) (policyId : String) (w : ManagerWorld) : ManagerEvent → Prop
  | .checkRateLimit _ request => (w.manager.activePolicy zone request).policyId = policyId →
      (cachedState w policyId request.identifier).isSome = true ∨
      w.governed request.identifier = none ∨ w.governed request.identifier = some policyId
  | _ => True

instance (zone : LocalTime) (policyId : String) (w : ManagerWorld) (event : ManagerEvent) :
    Decidable (Owned zone policyId w event) := by
  unfold Owned
  cases event <;> infer_instance

-- What a limiter reads of a profile. A profile that is created on first use reads
-- as the absent one did.
def profileView (redis : Redis) (key : String) : UserProfile × ℚ :=
  match redis.profiles key with
  | some profile => (profile.userProfile,profile.trustScore)
  | none => (.new,1/2)

structure Alike (policyId : String) (s t : ManagerWorld) : Prop where
  config : s.manager.config = t.manager.config
  policies : s.manager.policies = t.manager.policies
  limiter : s.manager.limiters.get policyId = t.manager.limiters.get policyId
  profiles : ∀ key, profileView s.redis key = profileView t.redis key
  states : ∀ identifier, s.governed identifier = none ∨ s.governed identifier = some policyId →
    s.redis.states identifier = t.redis.states identifier

section Limiter
variable (limiter : AdaptiveRateLimiter) (zone : LocalTime) (request : RateLimitRequest)

theorem getUserProfile_read (redis : Redis) :
    ((limiter.getUserProfile redis request).1.userProfile,(limiter.getUserProfile redis request).1.trustScore) =
      profileView redis (AdaptiveRateLimiter.profileKey request) := by
  unfold AdaptiveRateLimiter.getUserProfile profileView
  split <;> simp_all [AdaptiveRateLimiter.newProfile]

theorem getUserProfile_view (redis : Redis) (key : String) :
    profileView (limiter.getUserProfile redis request).2 key = profileView redis key := by
  unfold AdaptiveRateLimiter.getUserProfile
  split
  · rfl
  · rename_i absent
    by_cases same : key = AdaptiveRateLimiter.profileKey request
    · subst key; simp [profileView,absent,AdaptiveRateLimiter.newProfile]
    · simp [profileView,Function.update_of_ne same]

theorem calculateAdjustments_view (redis other : Redis) (same : ∀ key, profileView redis key = profileView other key) :
    (limiter.calculateAdjustments redis zone request).1 = (limiter.calculateAdjustments other zone request).1 := by
  have read := (getUserProfile_read limiter request redis).trans
    ((same _).trans (getUserProfile_read limiter request other).symm)
  obtain ⟨profile,trust⟩ := Prod.mk.inj read
  simp only [AdaptiveRateLimiter.calculateAdjustments,AdaptiveRateLimiter.calculateUserAdjustment,profile,trust]

theorem checkRateLimit_view (redis : Redis) (now : ℤ) (key : String) :
    profileView (limiter.checkRateLimit redis zone now request).2.2 key = profileView redis key :=
  getUserProfile_view limiter request redis key

theorem checkRateLimit_frame (redis : Redis) (now : ℤ) (other : identifier ≠ request.identifier) :
    (limiter.checkRateLimit redis zone now request).2.2.states identifier = redis.states identifier := by
  simp only [AdaptiveRateLimiter.checkRateLimit,AdaptiveRateLimiter.updateState,Function.update_of_ne other,
    calculateAdjustments_states]

-- A check depends on the store only through the profile and, where the cache
-- misses, through the identifier's state.
theorem checkRateLimit_alike (redis other : Redis) (now : ℤ)
    (profiles : ∀ key, profileView redis key = profileView other key)
    (states : (limiter.localCache.get request.identifier).isSome = true ∨
      redis.states request.identifier = other.states request.identifier) :
    (limiter.checkRateLimit redis zone now request).1 = (limiter.checkRateLimit other zone now request).1 ∧
    (limiter.checkRateLimit redis zone now request).2.1 = (limiter.checkRateLimit other zone now request).2.1 ∧
    (limiter.checkRateLimit redis zone now request).2.2.states request.identifier =
      (limiter.checkRateLimit other zone now request).2.2.states request.identifier := by
  have adjustments := calculateAdjustments_view limiter zone request redis other profiles
  have got : limiter.getState redis now request.identifier = limiter.getState other now request.identifier := by
    unfold AdaptiveRateLimiter.getState
    cases cached : limiter.localCache.get request.identifier with
    | some state => rfl
    | none =>
        rcases states with hit | same
        · simp [cached] at hit
        · simp [same]
  simp [AdaptiveRateLimiter.checkRateLimit,AdaptiveRateLimiter.updateState,got,adjustments]

end Limiter

section Manager
variable {zone : LocalTime} {policyId : String} {s t : ManagerWorld}

theorem activePolicy_alike (alike : Alike policyId s t) (request : RateLimitRequest) :
    s.manager.activePolicy zone request = t.manager.activePolicy zone request := by
  simp only [RateLimitManager.activePolicy,alike.config,alike.policies]

theorem governedBy_alike (alike : Alike policyId s t) (someone : String) (event : ManagerEvent) :
    governedBy zone someone s event = governedBy zone someone t event := by
  cases event <;> simp [governedBy,activePolicy_alike alike]

theorem foreign_left (alike : Alike policyId s t) (now : ℤ) (request : RateLimitRequest)
    (foreign : (s.manager.activePolicy zone request).policyId ≠ policyId) :
    Alike policyId (s.step zone (.checkRateLimit now request)).1 t := by
  refine ⟨alike.config,alike.policies,?_,?_,?_⟩
  · simpa [ManagerWorld.step,RateLimitManager.checkRateLimit,OrderedMap.get_set_other _ _ foreign.symm]
      using alike.limiter
  · intro key
    exact (checkRateLimit_view _ zone request s.redis now key).trans (alike.profiles key)
  · intro identifier last
    by_cases same : identifier = request.identifier
    · subst identifier
      simp [ManagerWorld.step,foreign] at last
    · simp only [ManagerWorld.step,Function.update_of_ne same] at last ⊢
      exact (checkRateLimit_frame _ zone request s.redis now same).trans (alike.states identifier last)

theorem foreign_both (alike : Alike policyId s t) (now : ℤ) (request : RateLimitRequest)
    (foreign : (s.manager.activePolicy zone request).policyId ≠ policyId) :
    Alike policyId (s.step zone (.checkRateLimit now request)).1 (t.step zone (.checkRateLimit now request)).1 := by
  have left := foreign_left alike now request foreign
  rw [activePolicy_alike alike] at foreign
  refine ⟨left.config,left.policies,?_,?_,?_⟩
  · simpa [ManagerWorld.step,RateLimitManager.checkRateLimit,OrderedMap.get_set_other _ _ foreign.symm]
      using left.limiter
  · intro key
    exact (left.profiles key).trans (checkRateLimit_view _ zone request t.redis now key).symm
  · intro identifier last
    by_cases same : identifier = request.identifier
    · subst identifier
      simp [ManagerWorld.step,activePolicy_alike alike,foreign] at last
    · exact (left.states identifier last).trans (checkRateLimit_frame _ zone request t.redis now same).symm

theorem getLimiter_alike (alike : Alike policyId s t) (request : RateLimitRequest)
    (own : (s.manager.activePolicy zone request).policyId = policyId) :
    s.manager.getLimiter (s.manager.activePolicy zone request) =
      t.manager.getLimiter (t.manager.activePolicy zone request) := by
  simp only [← activePolicy_alike alike,RateLimitManager.getLimiter,own,alike.limiter,RateLimitManager.newLimiter,
    alike.config]

theorem cached_or_same (alike : Alike policyId s t) (request : RateLimitRequest)
    (own : (s.manager.activePolicy zone request).policyId = policyId)
    (owned : Owned zone policyId s (.checkRateLimit now request)) :
    ((s.manager.getLimiter (s.manager.activePolicy zone request)).localCache.get request.identifier).isSome = true ∨
      s.redis.states request.identifier = t.redis.states request.identifier := by
  rcases owned own with cached | last
  · left
    cases registered : s.manager.limiters.get policyId with
    | none => simp [cachedState,registered] at cached
    | some limiter => simpa [cachedState,RateLimitManager.getLimiter,own,registered] using cached
  · exact Or.inr (alike.states _ last)

theorem own_both (alike : Alike policyId s t) (now : ℤ) (request : RateLimitRequest)
    (own : (s.manager.activePolicy zone request).policyId = policyId)
    (owned : Owned zone policyId s (.checkRateLimit now request)) :
    Alike policyId (s.step zone (.checkRateLimit now request)).1 (t.step zone (.checkRateLimit now request)).1 ∧
      (s.step zone (.checkRateLimit now request)).2 = (t.step zone (.checkRateLimit now request)).2 := by
  have active : s.manager.activePolicy zone request = t.manager.activePolicy zone request :=
    activePolicy_alike alike request
  have own' : (t.manager.activePolicy zone request).policyId = policyId := by rw [← active]; exact own
  obtain ⟨result,limiter,stored⟩ := checkRateLimit_alike
    (s.manager.getLimiter (s.manager.activePolicy zone request)) zone request s.redis t.redis now alike.profiles
    (cached_or_same alike request own owned)
  have fetched := getLimiter_alike alike request own
  rw [fetched] at result limiter stored
  refine ⟨⟨alike.config,alike.policies,?_,?_,?_⟩,?_⟩
  · simp [ManagerWorld.step,RateLimitManager.checkRateLimit,own,own',fetched,limiter]
  · intro key
    exact (checkRateLimit_view _ zone request s.redis now key).trans
      ((alike.profiles key).trans (checkRateLimit_view _ zone request t.redis now key).symm)
  · intro identifier last
    by_cases same : identifier = request.identifier
    · subst identifier
      simpa [ManagerWorld.step,RateLimitManager.checkRateLimit,fetched] using stored
    · simp only [ManagerWorld.step,Function.update_of_ne same] at last
      exact (checkRateLimit_frame _ zone request s.redis now same).trans
        ((alike.states identifier last).trans (checkRateLimit_frame _ zone request t.redis now same).symm)
  · simp [ManagerWorld.step,RateLimitManager.checkRateLimit,fetched,result]

theorem cleanupExpiredEntries_settings (manager : RateLimitManager) (key : String) (now : ℤ) :
    (manager.cleanupExpiredEntries key now).config = manager.config ∧
      (manager.cleanupExpiredEntries key now).policies = manager.policies := by
  unfold RateLimitManager.cleanupExpiredEntries
  split <;> exact ⟨rfl,rfl⟩

theorem cleanupExpiredEntries_limiter (manager : RateLimitManager) (key : String) (now : ℤ) (policyId : String) :
    (manager.cleanupExpiredEntries key now).limiters.get policyId = (manager.limiters.get policyId).map
      (fun limiter => if policyId = key then limiter.cleanupExpiredEntries now else limiter) := by
  unfold RateLimitManager.cleanupExpiredEntries
  by_cases same : policyId = key
  · subst key
    split <;> simp_all
  · split <;> simp [OrderedMap.get_set_other _ _ same,same]

theorem edit_alike (alike : Alike policyId s t) (event : ManagerEvent)
    (edit : ∀ now request, event ≠ .checkRateLimit now request) :
    Alike policyId (s.step zone event).1 (t.step zone event).1 := by
  have managed : ∀ left right : RateLimitManager, left.config = right.config → left.policies = right.policies →
      left.limiters.get policyId = right.limiters.get policyId →
      Alike policyId { s with manager := left } { t with manager := right } :=
    fun _ _ config policies limiter => ⟨config,policies,limiter,alike.profiles,alike.states⟩
  have edited : ∀ outcome : Bool × RateLimitPolicies,
      Alike policyId (s.edit (s.manager.afterEdit outcome)).1 (t.edit (t.manager.afterEdit outcome)).1 := by
    intro outcome
    unfold RateLimitManager.afterEdit
    split
    · exact managed _ _ alike.config rfl rfl
    · exact managed _ _ alike.config alike.policies alike.limiter
  cases event with
  | checkRateLimit now request => exact absurd rfl (edit now request)
  | addPolicy policy =>
      simp only [ManagerWorld.step,RateLimitManager.addPolicy,alike.policies]
      split
      · exact managed _ _ alike.config rfl rfl
      · exact managed _ _ alike.config alike.policies alike.limiter
  | updatePolicy key updates =>
      simpa only [ManagerWorld.step,RateLimitManager.updatePolicy,alike.policies] using edited _
  | removePolicy key => simpa only [ManagerWorld.step,RateLimitManager.removePolicy,alike.policies] using edited _
  | togglePolicy key enabled =>
      refine managed _ _ alike.config ?_ alike.limiter
      simp only [RateLimitManager.togglePolicy,alike.policies]
  | activateEmergencyMode =>
      refine managed _ _ alike.config ?_ rfl
      simp only [RateLimitManager.activateEmergencyMode,RateLimitManager.togglePolicy,
        RateLimitManager.clearLimiterCache,alike.policies]
  | deactivateEmergencyMode =>
      refine managed _ _ alike.config ?_ rfl
      simp only [RateLimitManager.deactivateEmergencyMode,RateLimitManager.togglePolicy,
        RateLimitManager.clearLimiterCache,alike.policies]
  | performCleanup =>
      refine managed _ _ alike.config alike.policies ?_
      simp only [RateLimitManager.performCleanup,OrderedMap.get_filter,alike.policies,alike.limiter]
  | cleanupExpiredEntries key now =>
      obtain ⟨config,policies⟩ := cleanupExpiredEntries_settings s.manager key now
      obtain ⟨config',policies'⟩ := cleanupExpiredEntries_settings t.manager key now
      refine managed _ _ (by rw [config,config',alike.config]) (by rw [policies,policies',alike.policies]) ?_
      rw [cleanupExpiredEntries_limiter,cleanupExpiredEntries_limiter,alike.limiter]

end Manager

-- Requests of `foreign` do not change what `own` answers, in every run in which the
-- requests of `own` find their own state.
theorem owned_requests_isolated (manager : RateLimitManager) (redis : Redis) (zone : LocalTime)
    (foreign own : String) (events : List ManagerEvent) (different : foreign ≠ own)
    (owned : Along (ManagerWorld.step zone) (Owned zone own) (.start manager redis) events) :
    observed (ManagerWorld.step zone) (governedBy zone own) (.start manager redis) events =
      observed (ManagerWorld.step zone) (governedBy zone own) (.start manager redis)
        (kept (ManagerWorld.step zone) (governedBy zone foreign) (.start manager redis) events) := by
  have start : Alike own (.start manager redis) (.start manager redis) :=
    ⟨rfl,rfl,rfl,fun _ => rfl,fun _ _ => rfl⟩
  refine observed_kept ?_ ?_ start owned
  · intro s t event alike _ dropped
    cases event with
    | checkRateLimit now request =>
        have governs : (s.manager.activePolicy zone request).policyId = foreign := by
          simpa [governedBy] using dropped
        have apart : (s.manager.activePolicy zone request).policyId ≠ own := by rw [governs]; exact different
        exact ⟨by simp [governedBy,apart],foreign_left alike now request apart⟩
    | _ => simp [governedBy] at dropped
  · intro s t event alike condition _
    refine ⟨?_,governedBy_alike alike own event,?_⟩
    · cases event with
      | checkRateLimit now request =>
          by_cases governs : (s.manager.activePolicy zone request).policyId = own
          · exact (own_both alike now request governs condition).1
          · exact foreign_both alike now request governs
      | _ => exact edit_alike alike _ (by simp)
    · intro seen
      cases event with
      | checkRateLimit now request => exact (own_both alike now request (by simpa [governedBy] using seen) condition).2
      | _ => simp [governedBy] at seen

-- Two policies of one request a second, for two endpoints.
def onEndpoint (policyId endpoint : String) : RateLimitPolicy where
  policyId
  name := policyId
  enabled := true
  priority := 2
  conditions := { endpoints := some [endpoint] }
  limits := ⟨⟨.token_bucket,1,1000,1⟩,[],fun _ => none⟩
  actions := ⟨1,0⟩

def twoPolicies : RateLimitManager :=
  .create ⟨createGeneralAPIPolicy,[onEndpoint "a" "/a",onEndpoint "b" "/b"],[],[]⟩

def clientTo (endpoint : String) : RateLimitRequest := ⟨"client",endpoint,"GET","127.0.0.1",none,none,none,0⟩

-- After a request of its own, policy `b` works on its cached state, whatever `a`
-- stores in between.
theorem owned_requests_isolated_cached :
    let events := [.checkRateLimit 0 (clientTo "/b"),.checkRateLimit 1000 (clientTo "/a"),
      .checkRateLimit 1000 (clientTo "/b")]
    observed (ManagerWorld.step noon) (governedBy noon "b") (.start twoPolicies .empty) events =
      observed (ManagerWorld.step noon) (governedBy noon "b") (.start twoPolicies .empty)
        (kept (ManagerWorld.step noon) (governedBy noon "a") (.start twoPolicies .empty) events) :=
  owned_requests_isolated twoPolicies .empty noon "a" "b" _ (by decide) (by decide +kernel)

def decisions (replies : List ManagerReply) : List Bool :=
  replies.filterMap (fun reply => match reply with
    | .checked result => some result.allowed
    | _ => none)

-- The first request of `b` after one of `a` loads the empty bucket `a` stored and is
-- refused. Without the request of `a` it is allowed.
theorem foreign_state_adopted :
    let events := [.checkRateLimit 0 (clientTo "/a"),.checkRateLimit 0 (clientTo "/b")]
    decisions (observed (ManagerWorld.step noon) (governedBy noon "b") (.start twoPolicies .empty) events) = [false] ∧
    decisions (observed (ManagerWorld.step noon) (governedBy noon "b") (.start twoPolicies .empty)
      (kept (ManagerWorld.step noon) (governedBy noon "a") (.start twoPolicies .empty) events)) = [true] := by
  exact ⟨by decide +kernel,by decide +kernel⟩

end PhantomFlow.RateLimit.Isolation
