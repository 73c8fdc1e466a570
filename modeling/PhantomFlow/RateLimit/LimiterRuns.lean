import Mathlib.Data.List.Induction
import PhantomFlow.Library.Machine
import PhantomFlow.RateLimit.Limiter

namespace PhantomFlow.RateLimit
open Library Library.Machine

structure World where
  limiter : AdaptiveRateLimiter
  redis : Redis

-- Calls run one after another; the two cache maintenance tasks may run at any
-- point between them.
inductive Event where
  | check (now : ℤ) (request : RateLimitRequest)
  | manageCacheSize
  | cleanupExpiredEntries (now : ℤ)

structure Answer where
  identifier : String
  time : ℤ
  result : RateLimitResult
  deriving DecidableEq

def World.step (zone : LocalTime) (w : World) : Event → World × Option Answer
  | .check now request =>
    let checked := w.limiter.checkRateLimit w.redis zone now request
    (⟨checked.2.1,checked.2.2⟩,some ⟨request.identifier,now,checked.1⟩)
  | .manageCacheSize => (⟨w.limiter.manageCacheSize,w.redis⟩,none)
  | .cleanupExpiredEntries now => (⟨w.limiter.cleanupExpiredEntries now,w.redis⟩,none)

def World.run (zone : LocalTime) (w : World) (events : List Event) : World :=
  (exec (World.step zone) w events).1
def World.log (zone : LocalTime) (w : World) (events : List Event) : List Answer :=
  (exec (World.step zone) w events).2.filterMap id

def World.currentState (w : World) (identifier : String) : Option RateLimitState :=
  (w.limiter.localCache.get identifier).or ((w.redis.states identifier).map parse)

def Event.callTime : Event → Option ℤ
  | .check now _ => some now
  | _ => none
def Ordered (events : List Event) : Prop := (events.filterMap Event.callTime).Pairwise (· ≤ ·)
instance (events : List Event) : Decidable (Ordered events) :=
  inferInstanceAs (Decidable (List.Pairwise (· ≤ ·) (events.filterMap Event.callTime)))

def Until (log : List Answer) (now : ℤ) : Prop := ∀ answer ∈ log, answer.time ≤ now
instance (log : List Answer) (now : ℤ) : Decidable (Until log now) :=
  inferInstanceAs (Decidable (∀ answer ∈ log, answer.time ≤ now))

theorem until_snoc (until' : Until (log ++ [answer]) now) : Until log now ∧ answer.time ≤ now :=
  ⟨fun a member => until' a (List.mem_append_left _ member),until' answer (by simp)⟩

def allowedIn (log : List Answer) (identifier : String) (first last : ℤ) : ℕ :=
  log.countP (fun answer =>
    decide (answer.identifier = identifier ∧ answer.result.allowed = true ∧
      first ≤ answer.time ∧ answer.time ≤ last))

theorem allowedIn_snoc (log : List Answer) (answer : Answer) (identifier : String) (first last : ℤ) :
    allowedIn (log ++ [answer]) identifier first last = allowedIn log identifier first last +
      if answer.identifier = identifier ∧ answer.result.allowed = true ∧
        first ≤ answer.time ∧ answer.time ≤ last then 1 else 0 := by
  simp [allowedIn,List.countP_append,List.countP_cons]

-- Every cached state is the one Redis holds. A lost cache entry then changes
-- nothing that a later call reads.
def Coherent (limiter : AdaptiveRateLimiter) (redis : Redis) : Prop :=
  ∀ identifier state, limiter.localCache.get identifier = some state →
    redis.states identifier = some (stringify state)

def storedState (config : RateLimitConfig) (redis : Redis) (now : ℤ) (identifier : String) : RateLimitState :=
  match redis.states identifier with
  | some image => parse image
  | none => freshState config now identifier

-- A call from its limit on, whatever calculated the limit and the factors behind it.
def AdaptiveRateLimiter.checkLimited (limiter : AdaptiveRateLimiter) (redis : Redis) (now : ℤ)
    (request : RateLimitRequest) (limit : ℚ) (adjustments : Adjustments) :
    RateLimitResult × AdaptiveRateLimiter × Redis :=
  let got := limiter.getState redis now request.identifier
  let looked := limiter.getUserProfile redis request
  let checked := checkAlgorithm limiter.config now got.1 limit adjustments
  (checked.1,got.2.updateState looked.2 request.identifier checked.2)

def storedLimited (limiter : AdaptiveRateLimiter) (redis : Redis) (now : ℤ) (request : RateLimitRequest) (limit : ℚ)
    (adjustments : Adjustments) : RateLimitResult × Redis :=
  let looked := limiter.getUserProfile redis request
  let checked := checkAlgorithm limiter.config now (storedState limiter.config redis now request.identifier)
    limit adjustments
  (checked.1,
    { looked.2 with
      states := Function.update looked.2.states request.identifier (some (stringify checked.2)) })

def checkStored (limiter : AdaptiveRateLimiter) (zone : LocalTime) (redis : Redis) (now : ℤ)
    (request : RateLimitRequest) : RateLimitResult × Redis :=
  let adjusted := limiter.calculateAdjustments redis zone request
  let checked := checkAlgorithm limiter.config now (storedState limiter.config redis now request.identifier)
    (limiter.finalLimit adjusted.1) adjusted.1
  (checked.1,
    { adjusted.2 with
      states := Function.update adjusted.2.states request.identifier (some (stringify checked.2)) })

def answerTo (limiter : AdaptiveRateLimiter) (zone : LocalTime) (redis : Redis) (now : ℤ)
    (request : RateLimitRequest) : Answer :=
  ⟨request.identifier,now,(checkStored limiter zone redis now request).1⟩

def SameSettings (left right : AdaptiveRateLimiter) : Prop :=
  { left with localCache := .empty } = { right with localCache := .empty }

theorem checkStored_settings (same : SameSettings left right) :
    checkStored left zone redis now request = checkStored right zone redis now request := by
  cases left; cases right; cases same; rfl

theorem settings_config (same : SameSettings left right) : left.config = right.config := by
  cases left; cases right; cases same; rfl

theorem manageCacheSize_settings (limiter : AdaptiveRateLimiter) :
    SameSettings limiter.manageCacheSize limiter := by
  unfold AdaptiveRateLimiter.manageCacheSize
  split <;> rfl

theorem manageCacheSize_get {limiter : AdaptiveRateLimiter}
    (found : limiter.manageCacheSize.localCache.get identifier = some state) :
    limiter.localCache.get identifier = some state := by
  unfold AdaptiveRateLimiter.manageCacheSize at found
  split at found
  · exact OrderedMap.get_dropOldest_some found
  · exact found

theorem coherent_manage (coherent : Coherent limiter redis) : Coherent limiter.manageCacheSize redis :=
  fun identifier state found => coherent identifier state (manageCacheSize_get found)

theorem coherent_cleanup (coherent : Coherent limiter redis) :
    Coherent (limiter.cleanupExpiredEntries now) redis :=
  fun identifier state found => coherent identifier state (OrderedMap.get_filter_some found)

theorem getState_stored (coherent : Coherent limiter redis) :
    (limiter.getState redis now identifier).1 = storedState limiter.config redis now identifier := by
  unfold AdaptiveRateLimiter.getState storedState
  cases cached : limiter.localCache.get identifier with
  | none => rfl
  | some state => simp [coherent identifier state cached]

theorem getState_settings (limiter : AdaptiveRateLimiter) (redis : Redis) (now : ℤ) (identifier : String) :
    SameSettings (limiter.getState redis now identifier).2 limiter := manageCacheSize_settings _

theorem getState_others {limiter : AdaptiveRateLimiter} {redis : Redis} (other : identifier' ≠ identifier)
    (found : (limiter.getState redis now identifier).2.localCache.get identifier' = some state) :
    limiter.localCache.get identifier' = some state := by
  have before := manageCacheSize_get found
  rwa [OrderedMap.get_set_other _ _ other] at before

theorem getUserProfile_states (limiter : AdaptiveRateLimiter) (redis : Redis) (request : RateLimitRequest) :
    (limiter.getUserProfile redis request).2.states = redis.states := by
  unfold AdaptiveRateLimiter.getUserProfile
  split <;> rfl

theorem calculateAdjustments_states (limiter : AdaptiveRateLimiter) (redis : Redis) (zone : LocalTime)
    (request : RateLimitRequest) : (limiter.calculateAdjustments redis zone request).2.states = redis.states :=
  getUserProfile_states limiter redis request

theorem storedLimited_states (limiter : AdaptiveRateLimiter) :
    (storedLimited limiter redis now request limit adjustments).2.states =
      Function.update redis.states request.identifier (some (stringify (checkAlgorithm limiter.config now
        (storedState limiter.config redis now request.identifier) limit adjustments).2)) := by
  simp [storedLimited,getUserProfile_states]

theorem checkStored_states (limiter : AdaptiveRateLimiter) :
    (checkStored limiter zone redis now request).2.states =
      Function.update redis.states request.identifier (some (stringify (checkAlgorithm limiter.config now
        (storedState limiter.config redis now request.identifier)
        (limiter.finalLimit (limiter.calculateAdjustments redis zone request).1)
        (limiter.calculateAdjustments redis zone request).1).2)) := storedLimited_states limiter

theorem storedLimited_self (limiter : AdaptiveRateLimiter) (redis : Redis) (now later : ℤ)
    (request : RateLimitRequest) (limit : ℚ) (adjustments : Adjustments) :
    storedState config (storedLimited limiter redis now request limit adjustments).2 later request.identifier =
      (checkAlgorithm limiter.config now (storedState limiter.config redis now request.identifier) limit
        adjustments).2 := by
  rw [storedState,storedLimited_states,Function.update_self]
  exact parse_stringify _

theorem storedLimited_other (limiter : AdaptiveRateLimiter) (redis : Redis) (now later : ℤ) (limit : ℚ)
    (adjustments : Adjustments) (other : identifier ≠ request.identifier) :
    storedState config (storedLimited limiter redis now request limit adjustments).2 later identifier =
      storedState config redis later identifier := by
  rw [storedState,storedLimited_states,Function.update_of_ne other,storedState]

theorem storedState_self (limiter : AdaptiveRateLimiter) (zone : LocalTime) (redis : Redis) (now later : ℤ)
    (request : RateLimitRequest) :
    storedState config (checkStored limiter zone redis now request).2 later request.identifier =
      (checkAlgorithm limiter.config now (storedState limiter.config redis now request.identifier)
        (limiter.finalLimit (limiter.calculateAdjustments redis zone request).1)
        (limiter.calculateAdjustments redis zone request).1).2 :=
  storedLimited_self limiter redis now later request _ _

theorem storedState_other (limiter : AdaptiveRateLimiter) (zone : LocalTime) (redis : Redis) (now later : ℤ)
    (other : identifier ≠ request.identifier) :
    storedState config (checkStored limiter zone redis now request).2 later identifier =
      storedState config redis later identifier := storedLimited_other limiter redis now later _ _ other

-- The cache is transparent: a coherent limiter answers and stores as the limiter
-- without a cache does, and stays coherent.
theorem checkLimited_stored (coherent : Coherent limiter redis) (now : ℤ) (request : RateLimitRequest) (limit : ℚ)
    (adjustments : Adjustments) :
    (limiter.checkLimited redis now request limit adjustments).1 =
        (storedLimited limiter redis now request limit adjustments).1 ∧
      (limiter.checkLimited redis now request limit adjustments).2.2 =
        (storedLimited limiter redis now request limit adjustments).2 := by
  simp [AdaptiveRateLimiter.checkLimited,AdaptiveRateLimiter.updateState,storedLimited,getState_stored coherent]

theorem checkLimited_settings (limiter : AdaptiveRateLimiter) (redis : Redis) (now : ℤ) (request : RateLimitRequest)
    (limit : ℚ) (adjustments : Adjustments) :
    SameSettings (limiter.checkLimited redis now request limit adjustments).2.1 limiter :=
  getState_settings limiter redis now request.identifier

theorem checkLimited_coherent (coherent : Coherent limiter redis) :
    Coherent (limiter.checkLimited redis now request limit adjustments).2.1
      (limiter.checkLimited redis now request limit adjustments).2.2 := by
  intro identifier state found
  simp only [AdaptiveRateLimiter.checkLimited,AdaptiveRateLimiter.updateState] at found ⊢
  by_cases same : identifier = request.identifier
  · subst identifier
    rw [OrderedMap.get_set_self] at found
    rw [Function.update_self,Option.some.inj found]
  · rw [OrderedMap.get_set_other _ _ same] at found
    rw [Function.update_of_ne same,getUserProfile_states]
    exact coherent identifier state (getState_others same found)

theorem checkRateLimit_stored (coherent : Coherent limiter redis) (zone : LocalTime) (now : ℤ)
    (request : RateLimitRequest) :
    (limiter.checkRateLimit redis zone now request).1 = (checkStored limiter zone redis now request).1 ∧
      (limiter.checkRateLimit redis zone now request).2.2 = (checkStored limiter zone redis now request).2 :=
  checkLimited_stored coherent now request _ _

theorem checkRateLimit_settings (limiter : AdaptiveRateLimiter) (redis : Redis) (zone : LocalTime) (now : ℤ)
    (request : RateLimitRequest) : SameSettings (limiter.checkRateLimit redis zone now request).2.1 limiter :=
  checkLimited_settings limiter redis now request _ _

theorem checkRateLimit_coherent (coherent : Coherent limiter redis) :
    Coherent (limiter.checkRateLimit redis zone now request).2.1
      (limiter.checkRateLimit redis zone now request).2.2 := checkLimited_coherent coherent

def storedStep (limiter : AdaptiveRateLimiter) (zone : LocalTime) (redis : Redis) : Event → Redis × Option Answer
  | .check now request =>
    ((checkStored limiter zone redis now request).2,some (answerTo limiter zone redis now request))
  | .manageCacheSize | .cleanupExpiredEntries _ => (redis,none)

def storedRun (limiter : AdaptiveRateLimiter) (zone : LocalTime) (redis : Redis) (events : List Event) : Redis :=
  (exec (storedStep limiter zone) redis events).1
def storedLog (limiter : AdaptiveRateLimiter) (zone : LocalTime) (redis : Redis) (events : List Event) :
    List Answer := (exec (storedStep limiter zone) redis events).2.filterMap id

def Refines (limiter : AdaptiveRateLimiter) (w : World) (redis : Redis) : Prop :=
  SameSettings w.limiter limiter ∧ Coherent w.limiter w.redis ∧ w.redis = redis

theorem refines_step (zone : LocalTime) (w : World) (redis : Redis) (event : Event)
    (refines : Refines limiter w redis) :
    Refines limiter (w.step zone event).1 (storedStep limiter zone redis event).1 ∧
      (w.step zone event).2 = (storedStep limiter zone redis event).2 := by
  obtain ⟨same,coherent,rfl⟩ := refines
  cases event with
  | check now request =>
      obtain ⟨result,stored⟩ := checkRateLimit_stored coherent zone now request
      rw [checkStored_settings same] at result stored
      refine ⟨⟨(checkRateLimit_settings _ _ _ _ _).trans same,checkRateLimit_coherent coherent,stored⟩,?_⟩
      simp [World.step,storedStep,answerTo,result]
  | manageCacheSize =>
      exact ⟨⟨(manageCacheSize_settings _).trans same,coherent_manage coherent,rfl⟩,rfl⟩
  | cleanupExpiredEntries now => exact ⟨⟨same,coherent_cleanup coherent,rfl⟩,rfl⟩

theorem refines_run (zone : LocalTime) (refines : Refines limiter w redis) (events : List Event) :
    Refines limiter (w.run zone events) (storedRun limiter zone redis events) ∧
      w.log zone events = storedLog limiter zone redis events := by
  obtain ⟨final,same⟩ := exec_simulates (refines_step zone) refines events
  exact ⟨final,congrArg (List.filterMap id) same⟩

theorem refines_start (limiter : AdaptiveRateLimiter) (redis : Redis) (empty : limiter.localCache = .empty) :
    Refines limiter ⟨limiter,redis⟩ redis := by
  refine ⟨rfl,?_,rfl⟩
  intro identifier state found
  simp [empty] at found

theorem refines_check (refines : Refines limiter w redis) (zone : LocalTime) (now : ℤ)
    (request : RateLimitRequest) : (w.limiter.checkRateLimit w.redis zone now request).1 =
      (checkStored limiter zone redis now request).1 := by
  obtain ⟨settings,coherent,rfl⟩ := refines
  rw [(checkRateLimit_stored coherent zone now request).1,checkStored_settings settings]

theorem refines_currentState (refines : Refines limiter w redis) (identifier : String) :
    w.currentState identifier = (redis.states identifier).map parse := by
  obtain ⟨_,coherent,rfl⟩ := refines
  unfold World.currentState
  cases cached : w.limiter.localCache.get identifier with
  | none => simp
  | some state => simp [coherent identifier state cached]

theorem storedRun_snoc (limiter : AdaptiveRateLimiter) (zone : LocalTime) (redis : Redis) (events : List Event)
    (event : Event) : storedRun limiter zone redis (events ++ [event]) =
      (storedStep limiter zone (storedRun limiter zone redis events) event).1 := by
  simp [storedRun,exec_snoc]

theorem storedLog_snoc (limiter : AdaptiveRateLimiter) (zone : LocalTime) (redis : Redis) (events : List Event)
    (event : Event) : storedLog limiter zone redis (events ++ [event]) = storedLog limiter zone redis events ++
      ((storedStep limiter zone (storedRun limiter zone redis events) event).2).toList := by
  simp only [storedLog,storedRun,exec_snoc,List.filterMap_append]
  cases (storedStep limiter zone (exec (storedStep limiter zone) redis events).1 event).2 <;> simp

-- Induction on a run as one identifier sees it: its own calls, the calls of others,
-- and the cache maintenance, which reaches neither the store nor the log.
@[elab_as_elim]
theorem calls_induction (identifier : String) {motive : List Event → Prop} (nil : motive [])
    (own : ∀ events now request, request.identifier = identifier → motive events →
      motive (events ++ [.check now request]))
    (other : ∀ events now request, request.identifier ≠ identifier → motive events →
      motive (events ++ [.check now request]))
    (quiet : ∀ events event, event.callTime = none → motive events → motive (events ++ [event]))
    (events : List Event) : motive events := by
  induction events using List.reverseRecOn with
  | nil => exact nil
  | append_singleton events event ih =>
      cases event with
      | check now request =>
          by_cases same : request.identifier = identifier
          · exact own events now request same ih
          · exact other events now request same ih
      | manageCacheSize => exact quiet events _ rfl ih
      | cleanupExpiredEntries now => exact quiet events _ rfl ih

theorem storedRun_quiet (limiter : AdaptiveRateLimiter) (zone : LocalTime) (redis : Redis) (events : List Event)
    (quiet : event.callTime = none) :
    storedRun limiter zone redis (events ++ [event]) = storedRun limiter zone redis events := by
  rw [storedRun_snoc]
  cases event with
  | check now request => cases quiet
  | manageCacheSize => rfl
  | cleanupExpiredEntries now => rfl

theorem storedLog_quiet (limiter : AdaptiveRateLimiter) (zone : LocalTime) (redis : Redis) (events : List Event)
    (quiet : event.callTime = none) :
    storedLog limiter zone redis (events ++ [event]) = storedLog limiter zone redis events := by
  rw [storedLog_snoc]
  cases event with
  | check now request => cases quiet
  | manageCacheSize => exact List.append_nil _
  | cleanupExpiredEntries now => exact List.append_nil _

-- A profile that is missing reads like the one that is then stored, so a lookup
-- changes no later one: the limit of a call depends on the request alone.
def SameProfiles (limiter : AdaptiveRateLimiter) (left right : Redis) : Prop :=
  ∀ key, (left.profiles key).getD limiter.newProfile = (right.profiles key).getD limiter.newProfile

theorem getUserProfile_profile (limiter : AdaptiveRateLimiter) (redis : Redis) (request : RateLimitRequest) :
    (limiter.getUserProfile redis request).1 =
      (redis.profiles (AdaptiveRateLimiter.profileKey request)).getD limiter.newProfile := by
  unfold AdaptiveRateLimiter.getUserProfile
  split
  · rename_i stored; simp [stored]
  · rename_i missing; simp [missing]

theorem getUserProfile_profiles (limiter : AdaptiveRateLimiter) (redis : Redis) (request : RateLimitRequest) :
    SameProfiles limiter (limiter.getUserProfile redis request).2 redis := by
  intro key
  unfold AdaptiveRateLimiter.getUserProfile
  split
  · rfl
  · rename_i missing
    by_cases same : key = AdaptiveRateLimiter.profileKey request
    · subst key; simp [missing]
    · simp [Function.update_of_ne same]

theorem calculateAdjustments_profiles (same : SameProfiles limiter left right) (zone : LocalTime)
    (request : RateLimitRequest) :
    (limiter.calculateAdjustments left zone request).1 = (limiter.calculateAdjustments right zone request).1 := by
  simp only [AdaptiveRateLimiter.calculateAdjustments,getUserProfile_profile]
  rw [same]

theorem storedRun_profiles (limiter : AdaptiveRateLimiter) (zone : LocalTime) (redis : Redis) (events : List Event) :
    SameProfiles limiter (storedRun limiter zone redis events) redis := by
  induction events using List.reverseRecOn with
  | nil => exact fun _ => rfl
  | append_singleton events event ih =>
      rw [storedRun_snoc]
      cases event with
      | check now request => exact fun key => (getUserProfile_profiles limiter _ request key).trans (ih key)
      | manageCacheSize => exact ih
      | cleanupExpiredEntries now => exact ih

def limitOf (limiter : AdaptiveRateLimiter) (redis : Redis) (zone : LocalTime) (request : RateLimitRequest) : ℚ :=
  limiter.finalLimit (limiter.calculateAdjustments redis zone request).1

theorem limitOf_pos (limiter : AdaptiveRateLimiter) (redis : Redis) (zone : LocalTime) (request : RateLimitRequest) :
    1 ≤ limitOf limiter redis zone request := limiter.finalLimit_pos _

theorem limitOf_whole (limiter : AdaptiveRateLimiter) (redis : Redis) (zone : LocalTime)
    (request : RateLimitRequest) : ∃ n : ℤ, limitOf limiter redis zone request = n := limiter.finalLimit_whole _

theorem storedRun_adjustments (limiter : AdaptiveRateLimiter) (zone : LocalTime) (redis : Redis) (events : List Event)
    (request : RateLimitRequest) :
    (limiter.calculateAdjustments (storedRun limiter zone redis events) zone request).1 =
      (limiter.calculateAdjustments redis zone request).1 :=
  calculateAdjustments_profiles (storedRun_profiles limiter zone redis events) zone request

theorem checkStored_run (limiter : AdaptiveRateLimiter) (zone : LocalTime) (redis : Redis) (events : List Event)
    (now : ℤ) (request : RateLimitRequest) :
    (checkStored limiter zone (storedRun limiter zone redis events) now request).1 =
      (checkAlgorithm limiter.config now
        (storedState limiter.config (storedRun limiter zone redis events) now request.identifier)
        (limitOf limiter redis zone request) (limiter.calculateAdjustments redis zone request).1).1 := by
  simp only [checkStored,storedRun_adjustments,limitOf]

theorem storedState_run (limiter : AdaptiveRateLimiter) (zone : LocalTime) (redis : Redis) (events : List Event)
    (now later : ℤ) (request : RateLimitRequest) :
    storedState limiter.config (storedRun limiter zone redis (events ++ [.check now request])) later
        request.identifier =
      (checkAlgorithm limiter.config now
        (storedState limiter.config (storedRun limiter zone redis events) now request.identifier)
        (limitOf limiter redis zone request) (limiter.calculateAdjustments redis zone request).1).2 := by
  rw [storedRun_snoc,storedStep,storedState_self,storedRun_adjustments,limitOf]

theorem storedLog_times (limiter : AdaptiveRateLimiter) (zone : LocalTime) (redis : Redis) (events : List Event) :
    (storedLog limiter zone redis events).map Answer.time = events.filterMap Event.callTime := by
  induction events using List.reverseRecOn with
  | nil => rfl
  | append_singleton events event ih =>
      rw [storedLog_snoc,List.map_append,ih,List.filterMap_append]
      cases event <;> simp [storedStep,answerTo,Event.callTime]

theorem ordered_init (ordered : Ordered (events ++ rest)) : Ordered events := by
  unfold Ordered at ordered ⊢
  rw [List.filterMap_append] at ordered
  exact (List.pairwise_append.mp ordered).1

theorem ordered_snoc (limiter : AdaptiveRateLimiter) (zone : LocalTime) (redis : Redis)
    (ordered : Ordered (events ++ [.check now request])) :
    Ordered events ∧ Until (storedLog limiter zone redis events) now := by
  refine ⟨ordered_init ordered,?_⟩
  intro answer member
  have time : answer.time ∈ events.filterMap Event.callTime := by
    rw [← storedLog_times limiter zone redis]
    exact List.mem_map_of_mem (f:=Answer.time) member
  unfold Ordered at ordered
  rw [List.filterMap_append] at ordered
  exact (List.pairwise_append.mp ordered).2.2 _ time _ (by simp [Event.callTime])

def World.stateFor (w : World) (now : ℤ) (identifier : String) : RateLimitState :=
  (w.currentState identifier).getD (freshState w.limiter.config now identifier)

theorem stateFor_stored (refines : Refines limiter w redis) (now : ℤ) (identifier : String) :
    w.stateFor now identifier = storedState limiter.config redis now identifier := by
  rw [World.stateFor,refines_currentState refines,settings_config refines.1,storedState]
  cases redis.states identifier <;> rfl

theorem reached_check (limiter : AdaptiveRateLimiter) (redis : Redis) (zone : LocalTime) (events : List Event)
    (now : ℤ) (request : RateLimitRequest) (started : limiter.localCache = .empty) :
    let reached := World.run zone ⟨limiter,redis⟩ events
    (reached.limiter.checkRateLimit reached.redis zone now request).1 =
      (checkAlgorithm limiter.config now (reached.stateFor now request.identifier)
        (limitOf limiter redis zone request) (limiter.calculateAdjustments redis zone request).1).1 := by
  intro reached
  have refines := (refines_run zone (refines_start limiter redis started) events).1
  rw [refines_check refines,checkStored_run,stateFor_stored refines]

theorem reached_state (limiter : AdaptiveRateLimiter) (redis : Redis) (zone : LocalTime) (events : List Event)
    (now later : ℤ) (request : RateLimitRequest) (started : limiter.localCache = .empty) :
    (World.run zone ⟨limiter,redis⟩ (events ++ [.check now request])).stateFor later request.identifier =
      (checkAlgorithm limiter.config now
        ((World.run zone ⟨limiter,redis⟩ events).stateFor now request.identifier)
        (limitOf limiter redis zone request) (limiter.calculateAdjustments redis zone request).1).2 := by
  have before := (refines_run zone (refines_start limiter redis started) events).1
  have after := (refines_run zone (refines_start limiter redis started) (events ++ [.check now request])).1
  rw [stateFor_stored before,stateFor_stored after,storedState_run]

theorem storedState_between (limiter : AdaptiveRateLimiter) (zone : LocalTime) (redis : Redis)
    (events between : List Event) (now : ℤ) (identifier : String)
    (others : ∀ time other, .check time other ∈ between → other.identifier ≠ identifier) :
    storedState limiter.config (storedRun limiter zone redis (events ++ between)) now identifier =
      storedState limiter.config (storedRun limiter zone redis events) now identifier := by
  induction between using calls_induction identifier with
  | nil => rw [List.append_nil]
  | own between time request own ih => exact absurd own (others time request (by simp))
  | other between time request other ih =>
      rw [← List.append_assoc,storedRun_snoc,storedStep,storedState_other _ _ _ _ _ (Ne.symm other)]
      exact ih fun time' request' member => others time' request' (List.mem_append_left _ member)
  | quiet between event quiet ih =>
      rw [← List.append_assoc,storedRun_quiet _ _ _ _ quiet]
      exact ih fun time' request' member => others time' request' (List.mem_append_left _ member)

theorem reached_between (limiter : AdaptiveRateLimiter) (redis : Redis) (zone : LocalTime)
    (events between : List Event) (now : ℤ) (identifier : String) (started : limiter.localCache = .empty)
    (others : ∀ time other, .check time other ∈ between → other.identifier ≠ identifier) :
    (World.run zone ⟨limiter,redis⟩ (events ++ between)).stateFor now identifier =
      (World.run zone ⟨limiter,redis⟩ events).stateFor now identifier := by
  have before := (refines_run zone (refines_start limiter redis started) events).1
  have after := (refines_run zone (refines_start limiter redis started) (events ++ between)).1
  rw [stateFor_stored before,stateFor_stored after,storedState_between _ _ _ _ _ _ _ others]

def onePerSecond (algorithm : RateLimitAlgorithm) : AdaptiveRateLimiter :=
  .create ⟨algorithm,1,1000,1⟩ [] (fun _ => none) [] []
def Redis.empty : Redis := ⟨fun _ => none,fun _ => none⟩
def noon : LocalTime := ⟨fun _ => 12,fun _ => 3⟩
def sameClient : RateLimitRequest := ⟨"client","/api","GET","127.0.0.1",none,none,none,0⟩

end PhantomFlow.RateLimit
