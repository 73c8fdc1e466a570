import Mathlib.Data.Fintype.Card
import PhantomFlow.RateLimit.SlidingWindow
import PhantomFlow.RateLimit.TokenBucket

namespace PhantomFlow.RateLimit.Interleaving
open Library Library.Machine

-- Where one `checkRateLimit` call of the identifier stands between two awaits. A
-- state object is its address: calls that hold the same address write the same
-- object.
inductive Stage where
  | called
  | awaitingRedis
  | awaitingProfile (object : ℕ)
  | checking (object : ℕ)
  | updating (object : ℕ) (allowed : Bool)
  | done (allowed : Bool)
  deriving DecidableEq

def Stage.object : Stage → Option ℕ
  | .awaitingProfile object | .checking object | .updating object _ => some object
  | .called | .awaitingRedis | .done _ => none

def Stage.admitted : Stage → Bool
  | .updating _ allowed | .done allowed => allowed
  | _ => false

-- One process, one identifier: the objects on the heap, the local cache entry,
-- the text Redis holds, and every call.
structure Process (ι : Type) where
  heap : ℕ → RateLimitState
  allocated : ℕ
  cached : Option ℕ
  redis : Option StateImage
  calls : ι → Stage

variable {ι : Type} [DecidableEq ι]
  (config : RateLimitConfig) (identifier : String) (now : ℤ) (limit : ℕ) (adjustments : Adjustments)

def Process.start : Process ι :=
  ⟨fun _ => freshState config now identifier,0,none,none,fun _ => .called⟩

def stateFrom : Option StateImage → RateLimitState
  | some image => parse image
  | none => freshState config now identifier

def Process.move (s : Process ι) (call : ι) (stage : Stage) : Process ι :=
  { s with calls := Function.update s.calls call stage }

-- The call runs up to its next await. A lookup that hits continues with the
-- shared object; a lookup that missed builds its own object from the reply and
-- overwrites the cache entry with it.
def Process.step (s : Process ι) (call : ι) : Process ι × Unit :=
  (match s.calls call with
  | .called => match s.cached with
    | some object => s.move call (.awaitingProfile object)
    | none => s.move call .awaitingRedis
  | .awaitingRedis =>
    { s with
      heap := Function.update s.heap s.allocated (stateFrom config identifier now s.redis)
      allocated := s.allocated + 1
      cached := some s.allocated }.move call (.awaitingProfile s.allocated)
  | .awaitingProfile object => s.move call (.checking object)
  | .checking object =>
    let checked := checkAlgorithm config now (s.heap object) limit adjustments
    { s with heap := Function.update s.heap object checked.2 }.move call (.updating object checked.1.allowed)
  | .updating object allowed =>
    { s with cached := some object, redis := some (stringify (s.heap object)) }.move call (.done allowed)
  | .done _ => s,())

-- No lookup misses while another call still waits for its reply.
def Exclusive (s : Process ι) (call : ι) : Prop :=
  s.calls call = .called → s.cached = none → ∀ other, s.calls other ≠ .awaitingRedis

instance [Fintype ι] (s : Process ι) (call : ι) : Decidable (Exclusive s call) :=
  inferInstanceAs (Decidable (s.calls call = .called → s.cached = none → ∀ other, s.calls other ≠ .awaitingRedis))

section Counting
variable [Fintype ι]

def Process.admitted (s : Process ι) : ℕ := (Finset.univ.filter (fun call => (s.calls call).admitted = true)).card

theorem admitted_move_same (s : Process ι) (call : ι) (stage : Stage)
    (same : stage.admitted = (s.calls call).admitted) : (s.move call stage).admitted = s.admitted := by
  unfold Process.admitted Process.move
  congr 1
  apply Finset.filter_congr
  intro other _
  by_cases equal : other = call
  · subst other; simp [same]
  · simp [Function.update_of_ne equal]

theorem admitted_move_new (s : Process ι) (call : ι) (stage : Stage) (pending : (s.calls call).admitted = false)
    (granted : stage.admitted = true) : (s.move call stage).admitted = s.admitted + 1 := by
  have grown : Finset.univ.filter (fun other => ((s.move call stage).calls other).admitted = true) =
      insert call (Finset.univ.filter (fun other => (s.calls other).admitted = true)) := by
    ext other
    rw [Finset.mem_insert,Finset.mem_filter,Finset.mem_filter]
    by_cases equal : other = call
    · subst other; simp [Process.move,granted]
    · simp [Process.move,equal]
  unfold Process.admitted
  rw [grown,Finset.card_insert_of_notMem (by simp [pending])]

end Counting

def Accounts (state : RateLimitState) (admitted : ℕ) : Prop :=
  admitted ≤ limit ∧ match config.algorithm with
    | .sliding_window =>
      (∀ time ∈ state.requests.map RequestEntry.timestamp, time = now) ∧ totalCount state.requests = admitted
    | .token_bucket => state.lastRefill = now ∧ (admitted : ℚ) + min (limit : ℚ) state.tokens ≤ limit
    | .adaptive_hybrid => False

theorem accounts_start (atMost : config.algorithm = .sliding_window ∨ config.algorithm = .token_bucket) :
    Accounts config now limit (freshState config now identifier) 0 := by
  refine ⟨Nat.zero_le _,?_⟩
  rcases atMost with sliding | token
  · simp [sliding,freshState,totalCount]
  · simp [token,freshState]

variable {config now limit}

theorem all_in_window {requests : List RequestEntry} (window : 0 ≤ config.timeWindowMs)
    (times : ∀ time ∈ requests.map RequestEntry.timestamp, time = now) :
    requests.filter (inWindow config now) = requests := by
  rw [List.filter_eq_self]
  intro entry member
  have time := times entry.timestamp (List.mem_map_of_mem (f:=RequestEntry.timestamp) member)
  simp [inWindow,time,window]

theorem accounts_sliding (sliding : config.algorithm = .sliding_window) (window : 0 ≤ config.timeWindowMs)
    (accounts : Accounts config now limit state admitted) :
    Accounts config now limit (checkAlgorithm config now state limit adjustments).2
      (admitted + if (checkAlgorithm config now state limit adjustments).1.allowed then 1 else 0) := by
  obtain ⟨atMost,entries⟩ := accounts
  simp only [sliding] at entries
  obtain ⟨times,total⟩ := entries
  have whole := all_in_window window times
  have decided : (checkSlidingWindow config now state limit adjustments).1.allowed = true ↔ admitted < limit := by
    simp [checkSlidingWindow,whole,total]
  simp only [checkAlgorithm,sliding,Accounts,SlidingWindow.checkSlidingWindow_requests,whole]
  split
  · rename_i allowed
    have moments : ∀ time ∈ (addCurrent now state.requests).map RequestEntry.timestamp, time = now := by
      intro time member
      rcases SlidingWindow.addCurrent_times member with old | new
      · exact times time old
      · exact new
    have counted := SlidingWindow.addCurrent_counted config now now state.requests
    rw [all_in_window window moments,whole] at counted
    refine ⟨decided.mp allowed,moments,?_⟩
    rw [counted,total,if_pos (by omega)]
  · exact ⟨atMost,times,total⟩

theorem accounts_token (token : config.algorithm = .token_bucket)
    (accounts : Accounts config now limit state admitted) :
    Accounts config now limit (checkAlgorithm config now state limit adjustments).2
      (admitted + if (checkAlgorithm config now state limit adjustments).1.allowed then 1 else 0) := by
  obtain ⟨atMost,bucket⟩ := accounts
  simp only [token] at bucket
  obtain ⟨since,room⟩ := bucket
  have level : (refill config now state limit).tokens = min (limit : ℚ) state.tokens := by
    simp [refill,since,tokensFor]
  have decided : (checkTokenBucket config now state limit adjustments).1.allowed = true ↔
      1 ≤ min (limit : ℚ) state.tokens := by
    rw [← level]; simp [checkTokenBucket]
  simp only [checkAlgorithm,token,Accounts,TokenBucket.checkTokenBucket_state]
  split
  · rename_i allowed
    have one := decided.mp allowed
    have taken : (takeToken now (refill config now state limit)).tokens = min (limit : ℚ) state.tokens - 1 := by
      simp [takeToken,level]
    have below := min_le_right (limit : ℚ) (min (limit : ℚ) state.tokens - 1)
    refine ⟨?_,rfl,?_⟩
    · have fits : ((admitted + 1 : ℕ) : ℚ) ≤ limit := by push_cast; linarith
      exact_mod_cast fits
    · rw [taken]; push_cast; linarith
  · refine ⟨atMost,rfl,?_⟩
    rw [level,← min_assoc,min_self]
    simpa using room

section Runs
variable [Fintype ι] (config now limit)

-- Before the first object exists, at most one call waits for Redis.
structure Idle (s : Process ι) : Prop where
  cached : s.cached = none
  redis : s.redis = none
  early : ∀ call, s.calls call = .called ∨ s.calls call = .awaitingRedis
  single : ∀ one two, s.calls one = .awaitingRedis → s.calls two = .awaitingRedis → one = two

-- From then on every call works on that one object.
structure Shared (object : ℕ) (s : Process ι) : Prop where
  cached : s.cached = some object
  settled : ∀ call, s.calls call ≠ .awaitingRedis
  same : ∀ call held, (s.calls call).object = some held → held = object
  accounts : Accounts config now limit (s.heap object) s.admitted

def Invariant (s : Process ι) : Prop := Idle s ∨ ∃ object, Shared config now limit object s

variable {config now limit}

omit [DecidableEq ι] in
theorem early_admitted {s : Process ι} (early : ∀ call, s.calls call = .called ∨ s.calls call = .awaitingRedis) :
    s.admitted = 0 := by
  unfold Process.admitted
  rw [Finset.card_eq_zero,Finset.filter_eq_empty_iff]
  intro call _
  rcases early call with stage | stage <;> simp [stage,Stage.admitted]

theorem shared_move (shared : Shared config now limit object s) (call : ι) (stage : Stage)
    (settled : stage ≠ .awaitingRedis) (same : ∀ held, stage.object = some held → held = object)
    (unchanged : stage.admitted = (s.calls call).admitted) :
    Shared config now limit object (s.move call stage) := by
  refine ⟨shared.cached,?_,?_,?_⟩
  · intro other
    by_cases equal : other = call
    · subst other; simpa [Process.move] using settled
    · simpa [Process.move,Function.update_of_ne equal] using shared.settled other
  · intro other held holds
    by_cases equal : other = call
    · subst other; exact same held (by simpa [Process.move] using holds)
    · exact shared.same other held (by simpa [Process.move,Function.update_of_ne equal] using holds)
  · rw [admitted_move_same s call stage unchanged]
    exact shared.accounts

theorem shared_check (shared : Shared config now limit object s) (call : ι) (stage : s.calls call = .checking object)
    (checked : RateLimitResult × RateLimitState)
    (accounts : Accounts config now limit checked.2 (s.admitted + if checked.1.allowed then 1 else 0)) :
    Shared config now limit object ({ s with heap := Function.update s.heap object checked.2 }.move call
      (.updating object checked.1.allowed)) := by
  refine ⟨shared.cached,?_,?_,?_⟩
  · intro other
    by_cases equal : other = call
    · subst other; simp [Process.move]
    · simpa [Process.move,Function.update_of_ne equal] using shared.settled other
  · intro other held holds
    by_cases equal : other = call
    · subst other; simpa [Process.move,Stage.object,eq_comm] using holds
    · exact shared.same other held (by simpa [Process.move,Function.update_of_ne equal] using holds)
  · have counted : ({ s with heap := Function.update s.heap object checked.2 }.move call
        (.updating object checked.1.allowed)).admitted = s.admitted + if checked.1.allowed then 1 else 0 := by
      cases granted : checked.1.allowed with
      | true => exact admitted_move_new _ call _ (by simp [stage,Stage.admitted]) rfl
      | false => exact admitted_move_same _ call _ (by simp [stage,Stage.admitted])
    rw [counted]
    simpa [Process.move] using accounts

omit [Fintype ι] in
theorem idle_waits (idle : Idle s) (call : ι) (exclusive : ∀ other, s.calls other ≠ .awaitingRedis) :
    Idle (s.move call .awaitingRedis) := by
  refine ⟨idle.cached,idle.redis,?_,?_⟩
  · intro other
    by_cases equal : other = call
    · subst other; simp [Process.move]
    · simpa [Process.move,Function.update_of_ne equal] using idle.early other
  · intro one two first second
    have only : ∀ other, (s.move call .awaitingRedis).calls other = .awaitingRedis → other = call := by
      intro other waits
      by_contra different
      exact exclusive other (by simpa [Process.move,Function.update_of_ne different] using waits)
    rw [only one first,only two second]

theorem idle_installs (algorithm : config.algorithm = .sliding_window ∨ config.algorithm = .token_bucket)
    (idle : Idle s) (call : ι) (stage : s.calls call = .awaitingRedis) :
    Shared config now limit s.allocated ({ s with
      heap := Function.update s.heap s.allocated (stateFrom config identifier now s.redis)
      allocated := s.allocated + 1
      cached := some s.allocated }.move call (.awaitingProfile s.allocated)) := by
  refine ⟨rfl,?_,?_,?_⟩
  · intro other waits
    by_cases equal : other = call
    · subst other; simp [Process.move] at waits
    · simp only [Process.move,Function.update_of_ne equal] at waits
      exact equal (idle.single other call waits stage)
  · intro other held holds
    by_cases equal : other = call
    · subst other; simpa [Process.move,Stage.object,eq_comm] using holds
    · simp only [Process.move,Function.update_of_ne equal] at holds
      rcases idle.early other with early | early <;> simp [early,Stage.object] at holds
  · rw [admitted_move_same _ call _ (by simp [stage,Stage.admitted])]
    change Accounts config now limit _ s.admitted
    rw [early_admitted idle.early]
    simpa [Process.move,stateFrom,idle.redis] using accounts_start config identifier now limit algorithm

theorem step_invariant (algorithm : config.algorithm = .sliding_window ∨ config.algorithm = .token_bucket)
    (window : 0 ≤ config.timeWindowMs) (s : Process ι) (call : ι) (invariant : Invariant config now limit s)
    (exclusive : Exclusive s call) :
    Invariant config now limit (s.step config identifier now limit adjustments call).1 := by
  unfold Process.step
  rcases invariant with idle | ⟨object,shared⟩
  · rcases idle.early call with stage | stage
    · simp only [stage,idle.cached]
      exact Or.inl (idle_waits idle call (exclusive stage idle.cached))
    · simp only [stage]
      exact Or.inr ⟨s.allocated,idle_installs identifier algorithm idle call stage⟩
  · refine Or.inr ⟨object,?_⟩
    cases stage : s.calls call with
    | called =>
        simp only [shared.cached]
        exact shared_move shared call _ (by simp) (by simp [Stage.object,eq_comm]) (by simp [stage,Stage.admitted])
    | awaitingRedis => exact absurd stage (shared.settled call)
    | awaitingProfile held =>
        have equal := shared.same call held (by simp [stage,Stage.object])
        subst held
        exact shared_move shared call _ (by simp) (by simp [Stage.object,eq_comm]) (by simp [stage,Stage.admitted])
    | checking held =>
        have equal := shared.same call held (by simp [stage,Stage.object])
        subst held
        apply shared_check shared call stage
        rcases algorithm with sliding | token
        · exact accounts_sliding adjustments sliding window shared.accounts
        · exact accounts_token adjustments token shared.accounts
    | updating held allowed =>
        have equal := shared.same call held (by simp [stage,Stage.object])
        subst held
        have moved := shared_move shared call (.done allowed) (by simp) (by simp [Stage.object])
          (by simp [stage,Stage.admitted])
        exact ⟨rfl,moved.settled,moved.same,moved.accounts⟩
    | done allowed => exact shared

-- Over every interleaving of any number of calls in which no lookup misses while
-- a reply is outstanding, at most `limit` calls are admitted at every moment.
theorem exclusive_lookups_admit_at_most_limit (config : RateLimitConfig) (identifier : String) (now : ℤ) (limit : ℕ)
    (adjustments : Adjustments) (schedule : List ι)
    (algorithm : config.algorithm = .sliding_window ∨ config.algorithm = .token_bucket)
    (window : 0 ≤ config.timeWindowMs)
    (exclusive : Along (Process.step config identifier now limit adjustments) Exclusive
      (.start config identifier now) schedule) :
    Throughout (Process.step config identifier now limit adjustments) (fun s => s.admitted ≤ limit)
      (.start config identifier now) schedule := by
  have initially : Invariant config now limit (.start config identifier now : Process ι) :=
    Or.inl ⟨rfl,rfl,fun _ => Or.inl rfl,fun _ _ waits => by cases waits⟩
  have always := throughout_of_along (fun s call invariant condition =>
    step_invariant identifier adjustments algorithm window s call invariant condition) initially exclusive
  refine always.mono ?_
  rintro s (idle | ⟨object,shared⟩)
  · rw [early_admitted idle.early]; exact Nat.zero_le _
  · exact shared.accounts.1

theorem exclusive_lookups_staggered :
    Throughout (Process.step (onePerSecond .sliding_window).config "client" 0 1 TokenBucket.unit)
      (fun s => s.admitted ≤ 1) (.start (onePerSecond .sliding_window).config "client" 0 : Process (Fin 2))
      [0,0,1,0,1,1,0,1,0] :=
  exclusive_lookups_admit_at_most_limit (onePerSecond .sliding_window).config "client" 0 1 TokenBucket.unit
    [0,0,1,0,1,1,0,1,0] (Or.inl rfl) (by decide) (by decide +kernel)

-- Two calls that both miss before either reply: each works on its own object and
-- both are admitted under a limit of one, by either algorithm.
theorem concurrent_misses_over_admit :
    (exec (Process.step (onePerSecond .sliding_window).config "client" 0 1 TokenBucket.unit)
      (.start (onePerSecond .sliding_window).config "client" 0 : Process (Fin 2))
      [0,1,0,1,0,1,0,1,0,1]).1.admitted = 2 ∧
    (exec (Process.step (onePerSecond .token_bucket).config "client" 0 1 TokenBucket.unit)
      (.start (onePerSecond .token_bucket).config "client" 0 : Process (Fin 2))
      [0,1,0,1,0,1,0,1,0,1]).1.admitted = 2 := by
  exact ⟨by decide +kernel,by decide +kernel⟩

end Runs
end PhantomFlow.RateLimit.Interleaving
