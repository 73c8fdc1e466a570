import PhantomFlow.Library.Rounding
import PhantomFlow.RateLimit.LimiterRuns

namespace PhantomFlow.RateLimit
open Library Library.Machine

-- The limit of one call as it was calculated. Whatever a product of doubles comes to,
-- its floor and one at least is a whole number from one on.
structure Quote where
  limit : ℕ
  adjustments : Adjustments
  atLeastOne : 1 ≤ limit

theorem Quote.positive (quote : Quote) : (1 : ℚ) ≤ quote.limit := by exact_mod_cast quote.atLeastOne

namespace AdaptiveRateLimiter
variable (r : Rounding ℚ) (limiter : AdaptiveRateLimiter) (profile : UserRateProfile) (zone : LocalTime)
  (request : RateLimitRequest)

def roundedAdjustments : Adjustments :=
  let threatBased := limiter.calculateThreatAdjustment (request.threatScore.getD 0)
  let trustAdjustment := r.add (1/2) (r.mul profile.trustScore (1/2))
  let userBased := r.mul (limiter.userFactor profile.userProfile) trustAdjustment
  let geographic := limiter.calculateGeographicAdjustment request.ipAddress
  let temporal := limiter.calculateTemporalAdjustment zone request.timestamp
  { threatBased, userBased, geographic, temporal,
    final := r.mul (r.mul (r.mul threatBased userBased) geographic) temporal }

def quote : Quote :=
  let adjustments := limiter.roundedAdjustments r profile zone request
  { limit := max 1 ⌊r.mul limiter.config.baseLimit adjustments.final⌋.toNat
    adjustments
    atLeastOne := le_max_left _ _ }

def checkRounded (redis : Redis) (now : ℤ) : RateLimitResult × AdaptiveRateLimiter × Redis :=
  let quote := limiter.quote r (limiter.getUserProfile redis request).1 zone request
  limiter.checkLimited redis now request quote.limit quote.adjustments

theorem quote_exact (redis : Redis) :
    ((limiter.quote .exact (limiter.getUserProfile redis request).1 zone request).limit : ℚ) =
      limiter.finalLimit (limiter.calculateAdjustments redis zone request).1 := by
  have whole (n : ℤ) : ((max 1 n.toNat : ℕ) : ℚ) = ((max 1 n : ℤ) : ℚ) := by
    rw [← Int.cast_natCast (max 1 n.toNat)]
    congr 1
    omega
  have same := whole ⌊limiter.config.baseLimit * (limiter.calculateAdjustments redis zone request).1.final⌋
  rw [Int.cast_max,Int.cast_one] at same
  exact same

theorem checkRounded_exact (redis : Redis) (now : ℤ) :
    checkRounded .exact limiter zone request redis now = limiter.checkRateLimit redis zone now request := by
  unfold checkRounded
  simp only [quote_exact]
  rfl

end AdaptiveRateLimiter

inductive QuotedEvent where
  | check (now : ℤ) (request : RateLimitRequest) (quote : Quote)
  | manageCacheSize
  | cleanupExpiredEntries (now : ℤ)

def QuotedEvent.event : QuotedEvent → Event
  | .check now request _ => .check now request
  | .manageCacheSize => .manageCacheSize
  | .cleanupExpiredEntries now => .cleanupExpiredEntries now

def World.quotedStep (w : World) : QuotedEvent → World × Option Answer
  | .check now request quote =>
    let checked := w.limiter.checkLimited w.redis now request quote.limit quote.adjustments
    (⟨checked.2.1,checked.2.2⟩,some ⟨request.identifier,now,checked.1⟩)
  | .manageCacheSize => (⟨w.limiter.manageCacheSize,w.redis⟩,none)
  | .cleanupExpiredEntries now => (⟨w.limiter.cleanupExpiredEntries now,w.redis⟩,none)

def World.quotedRun (w : World) (events : List QuotedEvent) : World := (exec World.quotedStep w events).1
def World.quotedLog (w : World) (events : List QuotedEvent) : List Answer :=
  (exec World.quotedStep w events).2.filterMap id

def QuotedOrdered (events : List QuotedEvent) : Prop := Ordered (events.map QuotedEvent.event)
instance (events : List QuotedEvent) : Decidable (QuotedOrdered events) :=
  inferInstanceAs (Decidable (Ordered (events.map QuotedEvent.event)))

theorem quotedOrdered_init (ordered : QuotedOrdered (events ++ rest)) : QuotedOrdered events := by
  unfold QuotedOrdered at ordered ⊢
  rw [List.map_append] at ordered
  exact ordered_init ordered

-- A run of the code, in whatever arithmetic, is a run with the limits it calculates.
def Event.quoted (r : Rounding ℚ) (limiter : AdaptiveRateLimiter) (zone : LocalTime) (redis : Redis) :
    Event → QuotedEvent
  | .check now request =>
    .check now request (limiter.quote r (limiter.getUserProfile redis request).1 zone request)
  | .manageCacheSize => .manageCacheSize
  | .cleanupExpiredEntries now => .cleanupExpiredEntries now

def World.roundedStep (r : Rounding ℚ) (zone : LocalTime) (w : World) (event : Event) : World × Option Answer :=
  w.quotedStep (event.quoted r w.limiter zone w.redis)

theorem roundedStep_exact (zone : LocalTime) (w : World) (event : Event) :
    w.roundedStep .exact zone event = w.step zone event := by
  cases event with
  | check now request =>
      have same := AdaptiveRateLimiter.checkRounded_exact w.limiter zone request w.redis now
      unfold AdaptiveRateLimiter.checkRounded at same
      simp only [World.roundedStep,Event.quoted,World.quotedStep,World.step,same]
  | manageCacheSize => rfl
  | cleanupExpiredEntries now => rfl

theorem quoted_event (r : Rounding ℚ) (limiter : AdaptiveRateLimiter) (zone : LocalTime) (redis : Redis)
    (event : Event) : (event.quoted r limiter zone redis).event = event := by
  cases event <;> rfl

theorem quotedOrdered_map {r : Rounding ℚ} (ordered : Ordered events) :
    QuotedOrdered (events.map (Event.quoted r limiter zone redis)) := by
  unfold QuotedOrdered
  rw [List.map_map]
  simpa [Function.comp_def,quoted_event] using ordered

theorem quote_settings (same : SameSettings left right) (r : Rounding ℚ) (profile : UserRateProfile) :
    left.quote r profile zone request = right.quote r profile zone request := by
  cases left; cases right; cases same; rfl

theorem newProfile_settings (same : SameSettings left right) : left.newProfile = right.newProfile := by
  cases left; cases right; cases same; rfl

theorem quoted_same (settings : SameSettings left right) (profiles : SameProfiles right redis other)
    (r : Rounding ℚ) (zone : LocalTime) (event : Event) :
    event.quoted r left zone redis = event.quoted r right zone other := by
  cases event with
  | check now request =>
      simp only [Event.quoted,getUserProfile_profile,newProfile_settings settings]
      rw [profiles (AdaptiveRateLimiter.profileKey request),quote_settings settings]
  | manageCacheSize => rfl
  | cleanupExpiredEntries now => rfl

theorem quotedStep_settings (w : World) (event : QuotedEvent) :
    SameSettings (w.quotedStep event).1.limiter w.limiter := by
  cases event with
  | check now request quote => exact checkLimited_settings _ _ _ _ _ _
  | manageCacheSize => exact manageCacheSize_settings _
  | cleanupExpiredEntries now => rfl

theorem quotedStep_profiles (w : World) (event : QuotedEvent) :
    SameProfiles w.limiter (w.quotedStep event).1.redis w.redis := by
  cases event with
  | check now request quote => exact getUserProfile_profiles w.limiter w.redis request
  | manageCacheSize => exact fun _ => rfl
  | cleanupExpiredEntries now => exact fun _ => rfl

theorem rounded_run_quoted (r : Rounding ℚ) (zone : LocalTime) (limiter : AdaptiveRateLimiter) (redis : Redis)
    (events : List Event) :
    exec (World.roundedStep r zone) ⟨limiter,redis⟩ events =
      exec World.quotedStep ⟨limiter,redis⟩ (events.map (Event.quoted r limiter zone redis)) := by
  let related (w w' : World) := w = w' ∧ SameSettings w.limiter limiter ∧ SameProfiles limiter w.redis redis
  have lockstep : ∀ w w' event, related w w' →
      related (w.roundedStep r zone event).1 (w'.quotedStep (event.quoted r limiter zone redis)).1 ∧
        id (w.roundedStep r zone event).2 = (w'.quotedStep (event.quoted r limiter zone redis)).2 := by
    rintro w _ event ⟨rfl,settings,profiles⟩
    have quoted := quoted_same settings profiles r zone event
    have kept := quotedStep_profiles w (event.quoted r limiter zone redis)
    unfold World.roundedStep
    rw [quoted]
    refine ⟨⟨rfl,(quotedStep_settings _ _).trans settings,?_⟩,rfl⟩
    intro key
    have here := kept key
    rw [newProfile_settings settings] at here
    exact here.trans (profiles key)
  have start : related ⟨limiter,redis⟩ ⟨limiter,redis⟩ := ⟨rfl,rfl,fun _ => rfl⟩
  obtain ⟨⟨final,-,-⟩,same⟩ := exec_translated (Event.quoted r limiter zone redis) id lockstep start events
  rw [List.map_id] at same
  exact Prod.ext final same

def storedQuotedStep (limiter : AdaptiveRateLimiter) (redis : Redis) : QuotedEvent → Redis × Option Answer
  | .check now request quote =>
    let checked := storedLimited limiter redis now request quote.limit quote.adjustments
    (checked.2,some ⟨request.identifier,now,checked.1⟩)
  | .manageCacheSize | .cleanupExpiredEntries _ => (redis,none)

def storedQuotedRun (limiter : AdaptiveRateLimiter) (redis : Redis) (events : List QuotedEvent) : Redis :=
  (exec (storedQuotedStep limiter) redis events).1
def storedQuotedLog (limiter : AdaptiveRateLimiter) (redis : Redis) (events : List QuotedEvent) : List Answer :=
  (exec (storedQuotedStep limiter) redis events).2.filterMap id

theorem storedStep_quoted (limiter : AdaptiveRateLimiter) (zone : LocalTime) (redis : Redis) (event : Event) :
    storedStep limiter zone redis event = storedQuotedStep limiter redis (event.quoted .exact limiter zone redis) := by
  cases event with
  | check now request =>
      simp only [Event.quoted,storedQuotedStep,AdaptiveRateLimiter.quote_exact]
      rfl
  | manageCacheSize => rfl
  | cleanupExpiredEntries now => rfl

theorem stored_run_quoted (limiter : AdaptiveRateLimiter) (zone : LocalTime) (redis : Redis) (events : List Event) :
    storedRun limiter zone redis events =
        storedQuotedRun limiter redis (events.map (Event.quoted .exact limiter zone redis)) ∧
      storedLog limiter zone redis events =
        storedQuotedLog limiter redis (events.map (Event.quoted .exact limiter zone redis)) := by
  let related (left right : Redis) := left = right ∧ SameProfiles limiter left redis
  have lockstep : ∀ left right event, related left right →
      related (storedStep limiter zone left event).1
          (storedQuotedStep limiter right (event.quoted .exact limiter zone redis)).1 ∧
        id (storedStep limiter zone left event).2 =
          (storedQuotedStep limiter right (event.quoted .exact limiter zone redis)).2 := by
    rintro left _ event ⟨rfl,profiles⟩
    rw [storedStep_quoted,quoted_same rfl profiles]
    refine ⟨⟨rfl,?_⟩,rfl⟩
    cases event with
    | check now request => exact fun key => (getUserProfile_profiles limiter left request key).trans (profiles key)
    | manageCacheSize => exact profiles
    | cleanupExpiredEntries now => exact profiles
  have start : related redis redis := ⟨rfl,fun _ => rfl⟩
  obtain ⟨⟨final,-⟩,same⟩ := exec_translated (Event.quoted .exact limiter zone redis) id lockstep start events
  rw [List.map_id] at same
  exact ⟨final,congrArg (List.filterMap id) same⟩

section Stored
variable (limiter : AdaptiveRateLimiter) (redis : Redis)

theorem storedQuotedRun_snoc (events : List QuotedEvent) (event : QuotedEvent) :
    storedQuotedRun limiter redis (events ++ [event]) =
      (storedQuotedStep limiter (storedQuotedRun limiter redis events) event).1 := by
  simp [storedQuotedRun,exec_snoc]

theorem storedQuotedLog_snoc (events : List QuotedEvent) (event : QuotedEvent) :
    storedQuotedLog limiter redis (events ++ [event]) = storedQuotedLog limiter redis events ++
      ((storedQuotedStep limiter (storedQuotedRun limiter redis events) event).2).toList := by
  simp only [storedQuotedLog,storedQuotedRun,exec_snoc,List.filterMap_append]
  cases (storedQuotedStep limiter (exec (storedQuotedStep limiter) redis events).1 event).2 <;> simp

-- Induction on a run as one identifier sees it: its own calls, the calls of others,
-- and the cache maintenance, which reaches neither the store nor the log.
@[elab_as_elim]
theorem quoted_induction (identifier : String) {motive : List QuotedEvent → Prop} (nil : motive [])
    (own : ∀ events now request quote, request.identifier = identifier → motive events →
      motive (events ++ [.check now request quote]))
    (other : ∀ events now request quote, request.identifier ≠ identifier → motive events →
      motive (events ++ [.check now request quote]))
    (quiet : ∀ events event, event.event.callTime = none → motive events → motive (events ++ [event]))
    (events : List QuotedEvent) : motive events := by
  induction events using List.reverseRecOn with
  | nil => exact nil
  | append_singleton events event ih =>
      cases event with
      | check now request quote =>
          by_cases same : request.identifier = identifier
          · exact own events now request quote same ih
          · exact other events now request quote same ih
      | manageCacheSize => exact quiet events _ rfl ih
      | cleanupExpiredEntries now => exact quiet events _ rfl ih

variable {event : QuotedEvent}

theorem storedQuotedRun_quiet (events : List QuotedEvent) (quiet : event.event.callTime = none) :
    storedQuotedRun limiter redis (events ++ [event]) = storedQuotedRun limiter redis events := by
  rw [storedQuotedRun_snoc]
  cases event with
  | check now request quote => cases quiet
  | manageCacheSize => rfl
  | cleanupExpiredEntries now => rfl

theorem storedQuotedLog_quiet (events : List QuotedEvent) (quiet : event.event.callTime = none) :
    storedQuotedLog limiter redis (events ++ [event]) = storedQuotedLog limiter redis events := by
  rw [storedQuotedLog_snoc]
  cases event with
  | check now request quote => cases quiet
  | manageCacheSize => exact List.append_nil _
  | cleanupExpiredEntries now => exact List.append_nil _

theorem storedQuotedLog_times (events : List QuotedEvent) :
    (storedQuotedLog limiter redis events).map Answer.time =
      (events.map QuotedEvent.event).filterMap Event.callTime := by
  induction events using List.reverseRecOn with
  | nil => rfl
  | append_singleton events event ih =>
      rw [storedQuotedLog_snoc,List.map_append,ih,List.map_append,List.filterMap_append]
      cases event <;> simp [storedQuotedStep,QuotedEvent.event,Event.callTime]

theorem quotedOrdered_snoc {events : List QuotedEvent} (ordered : QuotedOrdered (events ++ [.check now request quote])) :
    QuotedOrdered events ∧ Until (storedQuotedLog limiter redis events) now := by
  refine ⟨quotedOrdered_init ordered,?_⟩
  intro answer member
  have time : answer.time ∈ (events.map QuotedEvent.event).filterMap Event.callTime := by
    rw [← storedQuotedLog_times limiter redis]
    exact List.mem_map_of_mem (f:=Answer.time) member
  unfold QuotedOrdered Ordered at ordered
  rw [List.map_append,List.filterMap_append] at ordered
  exact (List.pairwise_append.mp ordered).2.2 _ time _ (by simp [QuotedEvent.event,Event.callTime])

end Stored
end PhantomFlow.RateLimit
