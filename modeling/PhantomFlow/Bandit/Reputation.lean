import Mathlib.Data.List.Induction
import Mathlib.Logic.Function.Basic
import PhantomFlow.Bandit.Decisions
import PhantomFlow.Library.OrderedMap

namespace PhantomFlow.Bandit
open Library Library.Machine

structure CachedReputation where
  result : ReputationResult
  expiresAt : ℤ

structure Computation where
  cacheKey : String
  userId : Option String
  record : Option (Option GraphRecord)

structure ReputationCache where
  cache : OrderedMap String CachedReputation
  pending : ℕ → Option Computation

-- The pieces of `getReputation` between its awaits, and the invalidations.
inductive ReputationEvent where
  | getReputation (call : ℕ) (userId ipAddress : Option String) (now : ℤ)
  -- The query resolves. No record stands for an unknown user, an error, or no graph.
  | readQuery (call : ℕ) (record : Option GraphRecord)
  | computed (call : ℕ) (now : ℤ)
  | invalidateCache (key : Option String)

inductive ReputationOutput where
  | cached (key : String) (result : ReputationResult)
  | started
  | read (key : String) (userId : Option String) (record : Option GraphRecord)
  | computed (key : String) (result : ReputationResult) (now : ℤ)
  | invalidated (key : Option String)
  | disabled

namespace ReputationCache

def cacheTTL : ℤ := 30000

def presentText (text : Option String) : Option String := text.filter (fun given => decide (given ≠ ""))

def cacheKey (userId ipAddress : Option String) : String :=
  ((presentText userId).or (presentText ipAddress)).getD "anonymous"

def create : ReputationCache := ⟨.empty,fun _ => none⟩

variable (service : ReputationCache)

def lookup (key : String) (now : ℤ) : Option ReputationResult :=
  ((service.cache.get key).filter (fun cached => decide (now < cached.expiresAt))).map CachedReputation.result

def put (call : ℕ) (computation : Option Computation) : ReputationCache :=
  { service with pending := Function.update service.pending call computation }

def getReputation (call : ℕ) (userId ipAddress : Option String) (now : ℤ) : ReputationCache × ReputationOutput :=
  if (service.pending call).isSome then (service,.disabled)
  else
    let key := cacheKey userId ipAddress
    match service.lookup key now with
    | some result => (service,.cached key result)
    | none => (service.put call (some ⟨key,presentText userId,none⟩),.started)

def readQuery (call : ℕ) (record : Option GraphRecord) : ReputationCache × ReputationOutput :=
  match service.pending call with
  | some ⟨key,userId,none⟩ =>
    let answered := if userId.isSome then record else none
    (service.put call (some ⟨key,userId,some answered⟩),.read key userId answered)
  | _ => (service,.disabled)

def computed (call : ℕ) (now : ℤ) : ReputationCache × ReputationOutput :=
  match service.pending call with
  | some ⟨key,_,some record⟩ =>
    let result := UserReputationService.computeReputation record
    ({ service.put call none with cache := service.cache.set key ⟨result,now + cacheTTL⟩ },.computed key result now)
  | _ => (service,.disabled)

-- `if (key)`: an empty key clears everything.
def invalidateCache (key : Option String) : ReputationCache :=
  match presentText key with
  | some deleted => { service with cache := service.cache.delete deleted }
  | none => { service with cache := .empty }

def step : ReputationEvent → ReputationCache × ReputationOutput
  | .getReputation call userId ipAddress now => service.getReputation call userId ipAddress now
  | .readQuery call record => service.readQuery call record
  | .computed call now => service.computed call now
  | .invalidateCache key => (service.invalidateCache key,.invalidated key)

end ReputationCache

section Past

def touches (key : String) : ReputationOutput → Prop
  | .computed other _ _ => other = key
  | .invalidated other => ReputationCache.presentText other = some key ∨ ReputationCache.presentText other = none
  | _ => False

def Holds (past : List ReputationOutput) (key : String) (result : ReputationResult) (time : ℤ) : Prop :=
  ∃ before after, past = before ++ .computed key result time :: after ∧ ∀ output ∈ after, ¬ touches key output

theorem holds_snoc (past : List ReputationOutput) (output : ReputationOutput) (key : String) (result : ReputationResult)
    (time : ℤ) : Holds (past ++ [output]) key result time ↔
      output = .computed key result time ∨ (¬ touches key output ∧ Holds past key result time) := by
  constructor
  · intro holds
    obtain ⟨before,after,split,untouched⟩ := holds
    rcases List.eq_nil_or_concat after with rfl | ⟨earlier,last,rfl⟩
    · exact .inl (List.cons.inj (List.append_inj_right' split rfl)).1
    · rw [List.concat_eq_append] at split untouched
      have cut : past ++ [output] = (before ++ .computed key result time :: earlier) ++ [last] := by
        rw [split,List.append_assoc]
        rfl
      obtain ⟨same,ends⟩ := List.append_inj' cut rfl
      have equal : output = last := (List.cons.inj ends).1
      subst equal
      exact .inr ⟨untouched output (List.mem_append_right _ (List.mem_singleton_self _)),before,earlier,same,
        fun other member => untouched other (List.mem_append_left _ member)⟩
  · intro either
    rcases either with rfl | ⟨apart,before,after,rfl,untouched⟩
    · exact ⟨past,[],rfl,fun _ none => absurd none List.not_mem_nil⟩
    · refine ⟨before,after ++ [output],by rw [List.append_assoc]; rfl,?_⟩
      intro other member
      rcases List.mem_append.mp member with earlier | last
      · exact untouched other earlier
      · exact List.mem_singleton.mp last ▸ apart

end Past

structure Remembers (service : ReputationCache) (past : List ReputationOutput) : Prop where
  exact : ∀ key result time,
    service.cache.get key = some ⟨result,time + ReputationCache.cacheTTL⟩ ↔ Holds past key result time
  reading : ∀ call key userId record, service.pending call = some ⟨key,userId,some record⟩ →
    .read key userId record ∈ past
  asked : ∀ call key userId record, service.pending call = some ⟨key,userId,record⟩ → ∀ user, userId = some user → key = user
  read : ∀ key userId record, .read key userId record ∈ past →
    (∀ user, userId = some user → key = user) ∧ (userId = none → record = none)
  computed : ∀ key result time, .computed key result time ∈ past →
    ∃ userId record, .read key userId record ∈ past ∧ result = UserReputationService.computeReputation record

theorem create_remembers : Remembers .create [] where
  exact := by
    intro key result time
    constructor
    · intro none
      cases none
    · intro holds
      obtain ⟨before,after,split,_⟩ := holds
      exact absurd split.symm (List.append_ne_nil_of_right_ne_nil _ (List.cons_ne_nil _ _))
  reading := fun _ _ _ _ none => nomatch none
  asked := fun _ _ _ _ none => nomatch none
  read := fun _ _ _ none => absurd none List.not_mem_nil
  computed := fun _ _ _ none => absurd none List.not_mem_nil

section Steps
variable {service : ReputationCache} {past : List ReputationOutput}

theorem Remembers.noted (remembers : Remembers service past) {next : ReputationCache} {output : ReputationOutput}
    (exact : ∀ key result time, next.cache.get key = some ⟨result,time + ReputationCache.cacheTTL⟩ ↔
      Holds (past ++ [output]) key result time)
    (reading : ∀ call key userId record, next.pending call = some ⟨key,userId,some record⟩ →
      .read key userId record ∈ past ++ [output])
    (asked : ∀ call key userId record, next.pending call = some ⟨key,userId,record⟩ → ∀ user, userId = some user → key = user)
    (read : ∀ key userId record, output = .read key userId record →
      (∀ user, userId = some user → key = user) ∧ (userId = none → record = none))
    (computed : ∀ key result time, output = .computed key result time →
      ∃ userId record, .read key userId record ∈ past ∧ result = UserReputationService.computeReputation record) :
    Remembers next (past ++ [output]) where
  exact := exact
  reading := reading
  asked := asked
  read := by
    intro key userId record member
    rcases List.mem_append.mp member with earlier | last
    · exact remembers.read key userId record earlier
    · exact read key userId record (List.mem_singleton.mp last).symm
  computed := by
    intro key result time member
    have found : ∃ userId record, .read key userId record ∈ past ∧
        result = UserReputationService.computeReputation record := by
      rcases List.mem_append.mp member with earlier | last
      · exact remembers.computed key result time earlier
      · exact computed key result time (List.mem_singleton.mp last).symm
    obtain ⟨userId,record,here,same⟩ := found
    exact ⟨userId,record,List.mem_append_left _ here,same⟩

theorem Remembers.quiet (remembers : Remembers service past) {output : ReputationOutput} (pending : ℕ → Option Computation)
    (silent : ∀ key, ¬ touches key output)
    (reading : ∀ call key userId record, pending call = some ⟨key,userId,some record⟩ →
      .read key userId record ∈ past ++ [output])
    (asked : ∀ call key userId record, pending call = some ⟨key,userId,record⟩ → ∀ user, userId = some user → key = user)
    (read : ∀ key userId record, output = .read key userId record →
      (∀ user, userId = some user → key = user) ∧ (userId = none → record = none)) :
    Remembers { service with pending } (past ++ [output]) := by
  refine remembers.noted ?_ reading asked read ?_
  · intro key result time
    rw [holds_snoc]
    constructor
    · exact fun found => .inr ⟨silent key,(remembers.exact key result time).mp found⟩
    · intro either
      rcases either with rfl | ⟨_,holds⟩
      · exact absurd rfl (silent key)
      · exact (remembers.exact key result time).mpr holds
  · intro key result time written
    subst written
    exact absurd rfl (silent key)

theorem Remembers.same (remembers : Remembers service past) {output : ReputationOutput} (silent : ∀ key, ¬ touches key output)
    (other : ∀ key userId record, output ≠ .read key userId record) : Remembers service (past ++ [output]) :=
  remembers.quiet service.pending silent
    (fun call key userId record found => List.mem_append_left _ (remembers.reading call key userId record found))
    remembers.asked (fun key userId record equal => absurd equal (other key userId record))

theorem cacheKey_user {userId ipAddress : Option String} (user : String)
    (present : ReputationCache.presentText userId = some user) : ReputationCache.cacheKey userId ipAddress = user := by
  rw [ReputationCache.cacheKey,present]
  rfl

theorem getReputation_remembers (remembers : Remembers service past) (call : ℕ) (userId ipAddress : Option String)
    (now : ℤ) : Remembers (service.getReputation call userId ipAddress now).1
      (past ++ [(service.getReputation call userId ipAddress now).2]) := by
  unfold ReputationCache.getReputation
  split
  · exact remembers.same (fun _ touched => touched) (fun _ _ _ => nofun)
  · dsimp only
    split
    · exact remembers.same (fun _ touched => touched) (fun _ _ _ => nofun)
    · refine remembers.quiet _ (fun _ touched => touched) ?_ ?_ (fun _ _ _ => nofun)
      · intro other key user record found
        rw [Function.update_apply] at found
        split at found
        · cases found
        · exact List.mem_append_left _ (remembers.reading other key user record found)
      · intro other key user record found
        rw [Function.update_apply] at found
        split at found
        · cases found
          exact fun present same => cacheKey_user present same
        · exact remembers.asked other key user record found

theorem readQuery_remembers (remembers : Remembers service past) (call : ℕ) (record : Option GraphRecord) :
    Remembers (service.readQuery call record).1 (past ++ [(service.readQuery call record).2]) := by
  unfold ReputationCache.readQuery
  split
  · rename_i key userId waiting
    refine remembers.quiet _ (fun _ touched => touched) ?_ ?_ ?_
    · intro other key' user record' found
      rw [Function.update_apply] at found
      split at found
      · cases found
        exact List.mem_append_right _ (List.mem_singleton_self _)
      · exact List.mem_append_left _ (remembers.reading other key' user record' found)
    · intro other key' user record' found
      rw [Function.update_apply] at found
      split at found
      · cases found
        exact remembers.asked call key userId none waiting
      · exact remembers.asked other key' user record' found
    · intro key' user record' same
      cases same
      refine ⟨remembers.asked call key userId none waiting,fun anonymous => ?_⟩
      rw [anonymous]
      rfl
  · exact remembers.same (fun _ touched => touched) (fun _ _ _ => nofun)

theorem computed_remembers (remembers : Remembers service past) (call : ℕ) (now : ℤ) :
    Remembers (service.computed call now).1 (past ++ [(service.computed call now).2]) := by
  unfold ReputationCache.computed
  split
  · rename_i key userId record waiting
    let result := UserReputationService.computeReputation record
    refine remembers.noted ?_ ?_ ?_ (fun _ _ _ written => by cases written) ?_
    · intro other result' time
      rw [holds_snoc]
      change (service.cache.set key ⟨result,now + ReputationCache.cacheTTL⟩).get other = _ ↔ _
      rw [OrderedMap.get_set]
      split
      · rename_i same
        subst same
        constructor
        · intro found
          have equal := Option.some.inj found
          have results : result = result' := congrArg CachedReputation.result equal
          have times : now + ReputationCache.cacheTTL = time + ReputationCache.cacheTTL :=
            congrArg CachedReputation.expiresAt equal
          have same : now = time := by omega
          rw [← results,← same]
          exact .inl rfl
        · intro either
          rcases either with written | ⟨apart,_⟩
          · cases written
            rfl
          · exact absurd rfl apart
      · rename_i different
        rw [remembers.exact]
        constructor
        · exact fun holds => .inr ⟨fun same => different same.symm,holds⟩
        · intro either
          rcases either with written | ⟨_,holds⟩
          · cases written
            exact absurd rfl different
          · exact holds
    · intro other key' user record' found
      have kept : Function.update service.pending call none other = some ⟨key',user,some record'⟩ := found
      rw [Function.update_apply] at kept
      split at kept
      · cases kept
      · exact List.mem_append_left _ (remembers.reading other key' user record' kept)
    · intro other key' user record' found
      have kept : Function.update service.pending call none other = some ⟨key',user,record'⟩ := found
      rw [Function.update_apply] at kept
      split at kept
      · cases kept
      · exact remembers.asked other key' user record' kept
    · intro key' result' time written
      cases written
      exact ⟨userId,record,remembers.reading call key userId record waiting,rfl⟩
  · exact remembers.same (fun _ touched => touched) (fun _ _ _ written => by cases written)

theorem invalidateCache_remembers (remembers : Remembers service past) (key : Option String) :
    Remembers (service.invalidateCache key) (past ++ [.invalidated key]) := by
  have exact : ∀ name result time, (service.invalidateCache key).cache.get name =
      some ⟨result,time + ReputationCache.cacheTTL⟩ ↔ Holds (past ++ [.invalidated key]) name result time := by
    intro name result time
    have kept : (service.invalidateCache key).cache.get name =
        if ReputationCache.presentText key = some name ∨ ReputationCache.presentText key = none then none
        else service.cache.get name := by
      unfold ReputationCache.invalidateCache
      cases here : ReputationCache.presentText key with
      | none => simp
      | some deleted =>
          dsimp only
          rw [OrderedMap.get_delete]
          by_cases same : name = deleted
          · simp [same]
          · have apart : ¬ deleted = name := fun equal => same equal.symm
            simp [same,apart]
    rw [holds_snoc,kept]
    by_cases touched : ReputationCache.presentText key = some name ∨ ReputationCache.presentText key = none
    · rw [if_pos touched]
      constructor
      · intro none
        cases none
      · intro either
        rcases either with written | ⟨apart,_⟩
        · cases written
        · exact absurd touched apart
    · rw [if_neg touched,remembers.exact]
      constructor
      · exact fun holds => .inr ⟨touched,holds⟩
      · intro either
        rcases either with written | ⟨_,holds⟩
        · cases written
        · exact holds
  have pending : (service.invalidateCache key).pending = service.pending := by
    unfold ReputationCache.invalidateCache
    split <;> rfl
  refine remembers.noted exact ?_ ?_ (fun _ _ _ written => by cases written) (fun _ _ _ written => by cases written)
  · rw [pending]
    exact fun call name userId record found => List.mem_append_left _ (remembers.reading call name userId record found)
  · rw [pending]
    exact remembers.asked

theorem step_remembers (remembers : Remembers service past) (event : ReputationEvent) :
    Remembers (service.step event).1 (past ++ [(service.step event).2]) := by
  cases event with
  | getReputation call userId ipAddress now => exact getReputation_remembers remembers call userId ipAddress now
  | readQuery call record => exact readQuery_remembers remembers call record
  | computed call now => exact computed_remembers remembers call now
  | invalidateCache key => exact invalidateCache_remembers remembers key

end Steps

theorem run_remembers (events : List ReputationEvent) :
    Remembers (exec ReputationCache.step .create events).1 (exec ReputationCache.step .create events).2 := by
  induction events using List.reverseRecOn with
  | nil => exact create_remembers
  | append_singleton events event ih =>
      rw [exec_snoc]
      exact step_remembers ih event

-- However calls, queries and invalidations overlap, the cache answers with the last
-- computation for the key that nothing has touched since, and for 30 seconds. Every
-- computation is of a record read for that very user, or of none.
theorem reputations_recent (events : List ReputationEvent) :
    let run := exec ReputationCache.step .create events
    (∀ userId ipAddress now result, run.1.lookup (ReputationCache.cacheKey userId ipAddress) now = some result ↔
        ∃ time, Holds run.2 (ReputationCache.cacheKey userId ipAddress) result time ∧ now < time + 30000) ∧
      ∀ key result time, .computed key result time ∈ run.2 →
        ∃ userId record, .read key userId record ∈ run.2 ∧ result = UserReputationService.computeReputation record ∧
          (∀ user, userId = some user → key = user) ∧ (userId = none → record = none) := by
  intro run
  have remembers : Remembers run.1 run.2 := run_remembers events
  constructor
  · intro userId ipAddress now result
    rw [ReputationCache.lookup,Option.map_eq_some_iff]
    constructor
    · intro found
      obtain ⟨cached,here,rfl⟩ := found
      obtain ⟨stored,live⟩ := Option.filter_eq_some_iff.mp here
      have kept : cached = ⟨cached.result,cached.expiresAt - ReputationCache.cacheTTL + ReputationCache.cacheTTL⟩ := by
        rw [Int.sub_add_cancel]
      rw [kept] at stored
      refine ⟨_,(remembers.exact _ _ _).mp stored,?_⟩
      have unexpired : now < cached.expiresAt := of_decide_eq_true live
      have day : ReputationCache.cacheTTL = 30000 := rfl
      omega
    · intro held
      obtain ⟨time,holds,live⟩ := held
      exact ⟨_,Option.filter_eq_some_iff.mpr ⟨(remembers.exact _ _ _).mpr holds,decide_eq_true live⟩,rfl⟩
  · intro key result time member
    obtain ⟨userId,record,read,same⟩ := remembers.computed key result time member
    obtain ⟨user,anonymous⟩ := remembers.read key userId record read
    exact ⟨userId,record,read,same,user,anonymous⟩

end PhantomFlow.Bandit
