import PhantomFlow.RateLimit.Enforcement

namespace PhantomFlow.RateLimit.Enforcement
open Library Library.Machine RateLimitEnforcementService

def Blocked (service : RateLimitEnforcementService) (now : ℤ) (ipAddress : String) : Prop :=
  ipAddress ∈ service.blockedIPs ∧ ∀ expiry ∈ service.blockedExpiry.get ipAddress, now ≤ expiry

instance (service : RateLimitEnforcementService) (now : ℤ) (ipAddress : String) :
    Decidable (Blocked service now ipAddress) :=
  inferInstanceAs (Decidable (_ ∧ _))

def Prolongs (service : RateLimitEnforcementService) (now : ℤ) (ipAddress : String) (durationMs : ℚ) : Prop :=
  ∀ expiry ∈ service.blockedExpiry.get ipAddress, now ≤ expiry → expiry ≤ expiryTime now durationMs

instance (service : RateLimitEnforcementService) (now : ℤ) (ipAddress : String) (durationMs : ℚ) :
    Decidable (Prolongs service now ipAddress durationMs) :=
  inferInstanceAs (Decidable (∀ expiry ∈ service.blockedExpiry.get ipAddress, now ≤ expiry → _))

-- Blocks are only prolonged; no handler enforces the limit itself for a blocked
-- address; and the middleware is not told to exempt one.
def Respects (service : RateLimitEnforcementService) : Event → Prop
  | .blockIP now ipAddress durationMs => Prolongs service now ipAddress durationMs
  | .enforceRateLimit now _ req => ¬Blocked service now (extractClientIP req)
  | .middleware now options req => Blocked service now (extractClientIP req) → service.exempt options req = false
  | .unblockIP _ | .cleanupExpiredBlocks _ => True

instance (service : RateLimitEnforcementService) : (event : Event) → Decidable (Respects service event)
  | .blockIP now ipAddress durationMs => inferInstanceAs (Decidable (Prolongs service now ipAddress durationMs))
  | .enforceRateLimit _ _ _ => inferInstanceAs (Decidable (¬_))
  | .middleware _ _ _ => inferInstanceAs (Decidable (_ → _))
  | .unblockIP _ | .cleanupExpiredBlocks _ => inferInstanceAs (Decidable True)

def Guarded (service : RateLimitEnforcementService) (ipAddress : String) (bound : ℤ) : Prop :=
  ipAddress ∈ service.blockedIPs ∧ ∃ expiry, service.blockedExpiry.get ipAddress = some expiry ∧ bound ≤ expiry

section Steps
variable {service : RateLimitEnforcementService} {now bound : ℤ} {ipAddress : String}

theorem guarded_blocked (guarded : Guarded service ipAddress bound) (early : now ≤ bound) :
    Blocked service now ipAddress := by
  obtain ⟨member,expiry,stored,later⟩ := guarded
  refine ⟨member,fun other found => ?_⟩
  rw [stored] at found
  cases found
  omega

theorem isIPBlocked_exact : (service.isIPBlocked now ipAddress).1 = true ↔ Blocked service now ipAddress := by
  unfold isIPBlocked Blocked
  by_cases member : ipAddress ∈ service.blockedIPs
  · cases stored : service.blockedExpiry.get ipAddress with
    | none => simp [member]
    | some expiry =>
        by_cases ended : expiry < now
        · simp [member,ended]
        · simp [member,ended,not_lt.mp ended]
  · simp [member]

theorem isIPBlocked_state (blocked : Blocked service now ipAddress) :
    (service.isIPBlocked now ipAddress).2 = service := by
  obtain ⟨member,running⟩ := blocked
  unfold isIPBlocked
  simp only [member,if_true]
  cases stored : service.blockedExpiry.get ipAddress with
  | none => rfl
  | some expiry =>
      have current : ¬ expiry < now := not_lt.mpr (running expiry stored)
      simp [current]

theorem blockIP_guarded (ipAddress : String) (durationMs : ℚ) :
    Guarded (service.blockIP now ipAddress durationMs) ipAddress (expiryTime now durationMs) := by
  refine ⟨?_,expiryTime now durationMs,OrderedMap.get_set_self _ _ _,le_refl _⟩
  unfold blockIP
  dsimp only
  split
  · assumption
  · simp

theorem guarded_blockIP (guarded : Guarded service ipAddress bound) (other : String) (durationMs : ℚ) (early : now ≤ bound)
    (prolongs : other = ipAddress → Prolongs service now ipAddress durationMs) :
    Guarded (service.blockIP now other durationMs) ipAddress bound := by
  obtain ⟨member,expiry,stored,later⟩ := guarded
  by_cases same : ipAddress = other
  · subst other
    have next := @blockIP_guarded service now ipAddress durationMs
    have longer := prolongs rfl expiry stored (early.trans later)
    obtain ⟨inside,ending,written,reaches⟩ := next
    exact ⟨inside,ending,written,later.trans (longer.trans reaches)⟩
  · refine ⟨?_,expiry,(OrderedMap.get_set_other _ _ same).trans stored,later⟩
    unfold blockIP
    dsimp only
    split
    · exact member
    · exact List.mem_append_left _ member

theorem guarded_unblockIP (guarded : Guarded service ipAddress bound) (other : String) (different : other ≠ ipAddress) :
    Guarded (service.unblockIP other) ipAddress bound := by
  obtain ⟨member,expiry,stored,later⟩ := guarded
  refine ⟨by simp [unblockIP,member,Ne.symm different],expiry,?_,later⟩
  exact (OrderedMap.get_delete _ _ _).trans ((if_neg (Ne.symm different)).trans stored)

theorem guarded_cleanup (guarded : Guarded service ipAddress bound) (early : now ≤ bound) :
    Guarded (service.cleanupExpiredBlocks now) ipAddress bound := by
  obtain ⟨member,expiry,stored,later⟩ := guarded
  have running : ipAddress ∉ (service.blockedExpiry.filter (fun _ expiry => decide (expiry < now))).keys := by
    intro expired
    obtain ⟨entry,here,same⟩ := List.mem_map.mp expired
    have found := (OrderedMap.get_exact _ _ _).mpr here
    rw [OrderedMap.get_filter,same,stored] at found
    simp at found
    omega
  refine ⟨by simp [cleanupExpiredBlocks,member,running],expiry,?_,later⟩
  rw [cleanupExpiredBlocks,OrderedMap.get_filter,stored]
  simp [running]

theorem guarded_isIPBlocked (guarded : Guarded service ipAddress bound) (other : String) (early : now ≤ bound) :
    Guarded (service.isIPBlocked now other).2 ipAddress bound := by
  by_cases same : other = ipAddress
  · rw [same,isIPBlocked_state (guarded_blocked guarded early)]
    exact guarded
  · unfold isIPBlocked
    split
    · split
      · split
        · exact guarded_unblockIP guarded other same
        · exact guarded
      · exact guarded
    · exact guarded

theorem guarded_checkLimit (zone : LocalTime) (guarded : Guarded service ipAddress bound)
    (options : RateLimitMiddlewareOptions) (req : HttpRequest) (early : now ≤ bound)
    (other : extractClientIP req ≠ ipAddress) :
    Guarded (service.checkLimit zone now options req).1 ipAddress bound := by
  unfold checkLimit
  dsimp only
  split
  · exact guarded
  · unfold handleRateLimitViolation
    dsimp only
    split
    · exact guarded_blockIP guarded (extractClientIP req) _ early (fun same => absurd same other)
    · exact guarded

end Steps
section Runs
variable {zone : LocalTime} {service : RateLimitEnforcementService} {bound : ℤ} {ipAddress : String}

theorem guarded_step (event : Event) (guarded : Guarded service ipAddress bound) (respects : Respects service event)
    (early : ∀ now ∈ event.time, now ≤ bound) (kept : event ≠ .unblockIP ipAddress) :
    Guarded (step zone service event).1 ipAddress bound := by
  cases event with
  | blockIP now other durationMs =>
      exact guarded_blockIP guarded other durationMs (early now rfl) (fun same => same ▸ respects)
  | unblockIP other => exact guarded_unblockIP guarded other (fun same => kept (same ▸ rfl))
  | enforceRateLimit now options req =>
      apply guarded_checkLimit zone guarded options req (early now rfl)
      rintro rfl
      exact respects (guarded_blocked guarded (early now rfl))
  | middleware now options req =>
      have before := early now rfl
      simp only [step,middleware]
      split
      · exact guarded
      · split
        · exact guarded_isIPBlocked guarded _ before
        · rename_i free
          apply guarded_checkLimit zone (guarded_isIPBlocked guarded _ before) options req before
          rintro rfl
          exact absurd (isIPBlocked_exact.mpr (guarded_blocked guarded before)) free
  | cleanupExpiredBlocks now => exact guarded_cleanup guarded (early now rfl)

theorem guarded_run (events : List Event) (guarded : Guarded service ipAddress bound)
    (respects : Along (step zone) Respects service events)
    (early : ∀ event ∈ events, ∀ now ∈ event.time, now ≤ bound) (kept : Event.unblockIP ipAddress ∉ events) :
    Guarded (exec (step zone) service events).1 ipAddress bound := by
  induction events generalizing service with
  | nil => exact guarded
  | cons event rest ih =>
      rw [List.forall_mem_cons] at early
      rw [List.mem_cons,not_or] at kept
      exact ih (guarded_step event guarded respects.1 early.1 (Ne.symm kept.1)) respects.2 early.2 kept.2

theorem guarded_refused (call : Event) (caller : call.caller = some (ipAddress,now))
    (guarded : Guarded service ipAddress bound) (respects : Respects service call) (early : now ≤ bound) :
    (step zone service call).2.refused = true := by
  cases call with
  | enforceRateLimit time options req =>
      cases caller
      exact absurd (guarded_blocked guarded early) respects
  | middleware time options req =>
      cases caller
      have blocked := guarded_blocked guarded early
      simp [step,middleware,respects blocked,isIPBlocked_exact.mpr blocked,Reply.refused]
  | blockIP time other durationMs => cases caller
  | unblockIP other => cases caller
  | cleanupExpiredBlocks time => cases caller

theorem le_truncate {value : ℚ} {n : ℤ} (below : (n : ℚ) < value) : n ≤ JsNumber.truncate value := by
  unfold JsNumber.truncate
  split
  · exact Int.le_floor.mpr below.le
  · exact_mod_cast below.le.trans (Int.le_ceil value)

end Runs

def InOrder (events : List Event) : Prop := (events.filterMap Event.time).Pairwise (· ≤ ·)
instance (events : List Event) : Decidable (InOrder events) :=
  inferInstanceAs (Decidable (List.Pairwise (· ≤ ·) (events.filterMap Event.time)))

theorem inOrder_last (ordered : InOrder (events ++ [call])) (time : call.time = some now) :
    ∀ event ∈ events, ∀ earlier ∈ event.time, earlier ≤ now := by
  intro event member earlier here
  unfold InOrder at ordered
  rw [List.filterMap_append] at ordered
  exact (List.pairwise_append.mp ordered).2.2 earlier (List.mem_filterMap.mpr ⟨event,member,here⟩) now
    (by simp [time])

-- In every run whose steps respect blocks, a call from a blocked address is refused
-- from the block until its end, unless the address is unblocked in between.
theorem blocks_enforced (zone : LocalTime) (service : RateLimitEnforcementService) (before between : List Event)
    (t now : ℤ) (ipAddress : String) (durationMs : ℚ) (call : Event)
    (respects : Along (step zone) Respects service
      (before ++ .blockIP t ipAddress durationMs :: (between ++ [call])))
    (ordered : InOrder (before ++ .blockIP t ipAddress durationMs :: (between ++ [call])))
    (kept : Event.unblockIP ipAddress ∉ between) (caller : call.caller = some (ipAddress,now))
    (running : (now : ℚ) < t + durationMs) :
    (step zone (exec (step zone) service (before ++ .blockIP t ipAddress durationMs :: between)).1 call).2.refused =
      true := by
  have time : call.time = some now := by
    cases call <;> cases caller
    all_goals rfl
  have earlier : ∀ event ∈ between, ∀ time ∈ event.time, time ≤ expiryTime t durationMs := by
    rw [← List.cons_append,← List.append_assoc] at ordered
    intro event member moment here
    exact (inOrder_last ordered time event (by simp [member]) moment here).trans (le_truncate running)
  obtain ⟨_,_,rest⟩ := along_append.mp respects
  obtain ⟨meantime,last,_⟩ := along_append.mp rest
  have guarded := guarded_run between (blockIP_guarded ipAddress durationMs) meantime earlier kept
  rw [exec_append]
  exact guarded_refused call caller guarded last (le_truncate running)

def visitor : HttpRequest := ⟨some "203.0.113.7",none,none,none,fun _ => none,none,"/api/data","GET"⟩
def standard : RateLimitEnforcementService := .create defaultConfig ⟨createGeneralAPIPolicy,[],[],[]⟩ .empty

theorem blocks_enforced_prolonged :
    (step noon (exec (step noon) standard [.middleware 0 {} visitor,.blockIP 0 "203.0.113.7" 60000,
      .cleanupExpiredBlocks 1000,.blockIP 2000 "203.0.113.7" 60000]).1 (.middleware 59999 {} visitor)).2.refused = true :=
  blocks_enforced noon standard [.middleware 0 {} visitor]
    [.cleanupExpiredBlocks 1000,.blockIP 2000 "203.0.113.7" 60000] 0 59999 "203.0.113.7" 60000 (.middleware 59999 {} visitor)
    (by decide +kernel) (by decide +kernel) (by simp) (by decide +kernel) (by norm_num)

-- A handler that enforces the limit itself lets a blocked address in, and a second,
-- shorter block opens the first one early.
theorem block_bypassed_and_shortened :
    (step noon (exec (step noon) standard [.blockIP 0 "203.0.113.7" 60000]).1
      (.enforceRateLimit 1 {} visitor)).2.refused = false ∧
    (step noon (exec (step noon) standard [.blockIP 0 "203.0.113.7" 600000,.blockIP 0 "203.0.113.7" 1000]).1
      (.middleware 5000 {} visitor)).2.refused = false := by
  decide +kernel

end PhantomFlow.RateLimit.Enforcement
