import Mathlib.Data.List.Range
import PhantomFlow.Threading.WorkerPool

namespace PhantomFlow.Threading
open Library.Machine

-- The pool beside what its owner has of it: the sender, and the threads whose handle is
-- held. `left` are the threads that have left their loop, `joining` is what `drop` has
-- yet to join, once it has begun.
structure OwnedPool where
  pool : WorkerPool
  sender : Bool
  handles : List ℕ
  left : List ℕ
  joining : Option (List ℕ)
  deriving DecidableEq

inductive OwnerEvent where
  | event (event : PoolEvent)
  | breakLoop (thread : ℕ)
  | drop
  | join

def PoolEvent.thread : PoolEvent → Option ℕ
  | .receive i | .jobReturns i | .jobPanics i | .updateStatistics i _ => some i
  | .execute | .executeWithTimeout | .countSubmitted | .resize _ => none

namespace OwnedPool

def create (size : ℕ) : Option OwnedPool :=
  (WorkerPool.create size).map fun pool => ⟨pool,true,List.range size,[],none⟩

variable (s : OwnedPool)

-- A truncated handle detaches its thread, which goes on.
def resizedHandles (newSize : ℕ) : List ℕ :=
  if newSize = 0 ∨ 0 < s.pool.uncounted then s.handles
  else s.handles.take newSize ++ List.range' s.pool.threads.length (newSize - s.pool.workers)

def call (event : PoolEvent) : OwnedPool × Option (Except PoolError Unit) :=
  let next := poolStep s.pool event
  let handles := match event with
    | .resize newSize => s.resizedHandles newSize
    | _ => s.handles
  ({ s with pool := next.1, handles := handles },next.2)

-- `recv` fails once the sender is gone and the channel is empty.
def breakLoop (thread : ℕ) : OwnedPool :=
  match s.pool.threads[thread]?,s.pool.queue,s.sender with
  | some .waiting,[],false => { s with left := thread :: s.left }
  | _,_,_ => s

-- It takes the pool mutably, as `resize` does: no call is under way.
def drop : OwnedPool :=
  if s.joining.isSome ∨ 0 < s.pool.uncounted then s
  else { s with sender := false, joining := some s.handles }

-- It waits for a thread that is still in its loop. Of one that panicked it unwraps the
-- error, and `drop` gets no further.
def join : OwnedPool :=
  match s.joining with
  | some (worker :: rest) => if worker ∈ s.left then { s with joining := some rest } else s
  | _ => s

def step : OwnerEvent → OwnedPool × Option (Except PoolError Unit)
  | .event event =>
    match event.thread with
    | some thread => if thread ∈ s.left then (s,none) else s.call event
    | none => if s.joining.isSome then (s,none) else s.call event
  | .breakLoop thread => (s.breakLoop thread,none)
  | .drop => (s.drop,none)
  | .join => (s.join,none)

end OwnedPool

def Settled (pool : WorkerPool) : Prop :=
  Thread.gone ∉ pool.threads → pool.poisoned = false ∧
    pool.stats.tasksSubmitted + pool.uncounted = pool.accepted ∧
    pool.started.length = pool.stats.tasksCompleted + pool.busy

structure Draining (s : OwnedPool) : Prop where
  ordered : InOrder s.pool
  settled : Settled s.pool
  owned : s.handles ≠ []
  closed : s.sender = s.joining.isNone
  finished : ∀ thread ∈ s.left, s.pool.threads[thread]? = some .waiting ∧ s.sender = false ∧ s.pool.queue = []
  joined : ∀ rest, s.joining = some rest → s.pool.uncounted = 0 ∧ ∀ thread ∈ s.handles, thread ∈ rest ∨ thread ∈ s.left

section Books
variable {pool : WorkerPool}

theorem gone_mem_set {threads : List Thread} (found : threads[i]? = some thread) (alive : thread ≠ .gone) (next : Thread)
    (gone : Thread.gone ∈ threads) : Thread.gone ∈ threads.set i next := by
  obtain ⟨j,there⟩ := List.mem_iff_getElem?.mp gone
  have other : i ≠ j := by
    rintro rfl
    exact alive (Option.some.inj (found.symm.trans there))
  refine List.mem_iff_getElem?.mpr ⟨j,?_⟩
  rw [List.getElem?_set_ne other]
  exact there

theorem Settled.put (settled : Settled pool) (found : pool.threads[i]? = some thread) (alive : thread ≠ .gone)
    {next : WorkerPool} (after : Thread) (threads : next.threads = pool.threads.set i after)
    (poisoned : next.poisoned = pool.poisoned)
    (counted : next.stats.tasksSubmitted = pool.stats.tasksSubmitted ∧ next.uncounted = pool.uncounted ∧
      next.accepted = pool.accepted)
    (moved : next.started.length + thread.busy.toNat + pool.stats.tasksCompleted =
      pool.started.length + after.busy.toNat + next.stats.tasksCompleted) : Settled next := by
  intro none
  rw [threads] at none
  obtain ⟨clean,submitted,started⟩ := settled fun gone => none (gone_mem_set found alive after gone)
  obtain ⟨same,waiting,accepted⟩ := counted
  refine ⟨poisoned.trans clean,?_,?_⟩
  · rw [same,waiting,accepted]
    exact submitted
  · have busy := countP_busy_set found after
    simp only [WorkerPool.busy,threads] at started ⊢
    omega

theorem settled_of_gone (found : pool.threads[i]? = some thread) {next : WorkerPool}
    (threads : next.threads = pool.threads.set i .gone) : Settled next := by
  intro none
  rw [threads] at none
  exact absurd (List.mem_set (List.getElem?_eq_some_iff.mp found).1 _) none

theorem send_settled (settled : Settled pool) (error : PoolError) : Settled (pool.send error).1 := by
  unfold WorkerPool.send
  split
  · intro none
    obtain ⟨clean,submitted,started⟩ := settled none
    refine ⟨clean,?_,started⟩
    change pool.stats.tasksSubmitted + (pool.uncounted + 1) = pool.accepted + 1
    omega
  · exact settled

theorem countSubmitted_settled (settled : Settled pool) : Settled pool.countSubmitted.1 := by
  unfold WorkerPool.countSubmitted
  split
  · split
    · rename_i poisoned
      intro none
      exact absurd ((settled none).1.symm.trans poisoned) Bool.noConfusion
    · intro none
      obtain ⟨clean,submitted,started⟩ := settled none
      refine ⟨clean,?_,started⟩
      change pool.stats.tasksSubmitted + 1 + (pool.uncounted - 1) = pool.accepted
      omega
  · exact settled

theorem receive_settled (settled : Settled pool) (i : ℕ) : Settled (pool.receive i) := by
  rcases pool.receive_cases i with same | ⟨job,rest,found,_,next⟩
  · rw [same]
    exact settled
  · rw [next]
    refine settled.put found nofun (.running job) rfl rfl ⟨rfl,rfl,rfl⟩ ?_
    simp only [List.length_append,List.length_singleton,Thread.busy,Bool.toNat_false,Bool.toNat_true]

theorem jobReturns_settled (settled : Settled pool) (i : ℕ) : Settled (pool.jobReturns i) := by
  rcases pool.jobReturns_cases i with same | ⟨job,found,next⟩
  · rw [same]
    exact settled
  · rw [next]
    exact settled.put found nofun (.recording job) rfl rfl ⟨rfl,rfl,rfl⟩ rfl

theorem jobPanics_settled (settled : Settled pool) (i : ℕ) : Settled (pool.jobPanics i) := by
  rcases pool.jobPanics_cases i with same | ⟨job,found,next⟩
  · rw [same]
    exact settled
  · rw [next]
    exact settled_of_gone found rfl

theorem updateStatistics_settled (settled : Settled pool) (i executionTime : ℕ) :
    Settled (pool.updateStatistics i executionTime) := by
  unfold WorkerPool.updateStatistics
  split
  · rename_i job found
    split
    · exact settled_of_gone found rfl
    · rename_i clean
      obtain ⟨completed,submitted,_⟩ := recordExecution_counts pool.stats executionTime
      dsimp only
      cases panicked : (pool.stats.recordExecution executionTime).2 with
      | true => exact settled_of_gone found rfl
      | false =>
          refine settled.put found nofun .waiting rfl ?_ ⟨submitted,rfl,rfl⟩ ?_
          · exact (Bool.eq_false_iff.mpr clean).symm
          · simp only [completed,Thread.busy,Bool.toNat_false,Bool.toNat_true]
            omega
  · exact settled

theorem resize_settled (settled : Settled pool) (newSize : ℕ) : Settled (pool.resize newSize).1 := by
  have grown : ∀ next : WorkerPool, next.threads = pool.threads ++ List.replicate (newSize - pool.workers) .waiting →
      next.poisoned = pool.poisoned → next.stats.tasksSubmitted = pool.stats.tasksSubmitted →
        next.stats.tasksCompleted = pool.stats.tasksCompleted → next.uncounted = pool.uncounted →
          next.accepted = pool.accepted → next.started = pool.started → Settled next := by
    intro next threads poisoned submitted completed uncounted accepted started none
    rw [threads] at none
    have books := settled fun gone => none (List.mem_append_left _ gone)
    refine ⟨poisoned.trans books.1,?_,?_⟩
    · rw [submitted,uncounted,accepted]
      exact books.2.1
    · rw [started,completed,books.2.2,WorkerPool.busy,WorkerPool.busy,threads,List.countP_append,List.countP_replicate]
      rfl
  unfold WorkerPool.resize
  split
  · exact settled
  · split
    · exact settled
    · dsimp only
      split
      · exact grown _ rfl rfl rfl rfl rfl rfl rfl
      · exact grown _ rfl rfl rfl rfl rfl rfl rfl

theorem poolStep_settled (settled : Settled pool) (event : PoolEvent) : Settled (poolStep pool event).1 := by
  cases event with
  | execute => exact send_settled settled .queueFull
  | executeWithTimeout => exact send_settled settled .timeout
  | countSubmitted => exact countSubmitted_settled settled
  | receive i => exact receive_settled settled i
  | jobReturns i => exact jobReturns_settled settled i
  | jobPanics i => exact jobPanics_settled settled i
  | updateStatistics i executionTime => exact updateStatistics_settled settled i executionTime
  | resize newSize => exact resize_settled settled newSize

theorem poolStep_thread (pool : WorkerPool) (event : PoolEvent) (acting : event.thread = some i) :
    (poolStep pool event).1.uncounted = pool.uncounted ∧ (pool.queue = [] → (poolStep pool event).1.queue = []) ∧
      ∀ j ≠ i, (poolStep pool event).1.threads[j]? = pool.threads[j]? := by
  have others (thread : Thread) : ∀ j ≠ i, (pool.threads.set i thread)[j]? = pool.threads[j]? :=
    fun j other => List.getElem?_set_ne other.symm
  cases event with
  | execute => cases acting
  | executeWithTimeout => cases acting
  | countSubmitted => cases acting
  | resize newSize => cases acting
  | receive i =>
      cases acting
      rcases pool.receive_cases i with same | ⟨job,rest,_,waiting,next⟩
      · rw [poolStep,same]
        exact ⟨rfl,id,fun _ _ => rfl⟩
      · rw [poolStep,next]
        exact ⟨rfl,fun empty => absurd (waiting.symm.trans empty) (List.cons_ne_nil _ _),others _⟩
  | jobReturns i =>
      cases acting
      rcases pool.jobReturns_cases i with same | ⟨job,_,next⟩
      · rw [poolStep,same]
        exact ⟨rfl,id,fun _ _ => rfl⟩
      · rw [poolStep,next]
        exact ⟨rfl,id,others _⟩
  | jobPanics i =>
      cases acting
      rcases pool.jobPanics_cases i with same | ⟨job,_,next⟩
      · rw [poolStep,same]
        exact ⟨rfl,id,fun _ _ => rfl⟩
      · rw [poolStep,next]
        exact ⟨rfl,id,others _⟩
  | updateStatistics i executionTime =>
      cases acting
      rw [poolStep,WorkerPool.updateStatistics]
      split
      · split
        · exact ⟨rfl,id,others _⟩
        · exact ⟨rfl,id,others _⟩
      · exact ⟨rfl,id,fun _ _ => rfl⟩

end Books

section Steps
variable {s : OwnedPool}

theorem Draining.busyLoop (draining : Draining s) (running : s.joining = none) : s.left = [] := by
  cases left : s.left with
  | nil => rfl
  | cons thread rest =>
      obtain ⟨_,gone,_⟩ := draining.finished thread (left ▸ List.mem_cons_self)
      rw [draining.closed,running] at gone
      cases gone

theorem resizedHandles_owned (owned : s.handles ≠ []) (newSize : ℕ) : s.resizedHandles newSize ≠ [] := by
  unfold OwnedPool.resizedHandles
  split
  · exact owned
  · rename_i allowed
    rw [not_or] at allowed
    refine List.append_ne_nil_of_left_ne_nil (List.ne_nil_of_length_pos ?_) _
    have some' := List.length_pos_of_ne_nil owned
    rw [List.length_take]
    omega

theorem call_draining (draining : Draining s) (event : PoolEvent) (running : s.joining = none) :
    Draining (s.call event).1 := by
  have inside := draining.busyLoop running
  refine ⟨poolStep_inOrder s.pool event draining.ordered,poolStep_settled draining.settled event,?_,draining.closed,?_,?_⟩
  · cases event with
    | resize newSize => exact resizedHandles_owned draining.owned newSize
    | _ => exact draining.owned
  · intro thread gone
    change thread ∈ s.left at gone
    rw [inside] at gone
    exact absurd gone List.not_mem_nil
  · intro rest begun
    exact absurd (running.symm.trans begun) nofun

theorem act_draining (draining : Draining s) (event : PoolEvent) (acting : event.thread = some i) (inside : i ∉ s.left) :
    Draining (s.call event).1 := by
  obtain ⟨uncounted,queue,others⟩ := poolStep_thread s.pool event acting
  have handles : (s.call event).1.handles = s.handles := by
    cases event with
    | resize newSize => cases acting
    | _ => rfl
  refine ⟨poolStep_inOrder s.pool event draining.ordered,poolStep_settled draining.settled event,handles ▸ draining.owned,
    draining.closed,?_,?_⟩
  · intro thread gone
    obtain ⟨waiting,closed,empty⟩ := draining.finished thread gone
    refine ⟨?_,closed,queue empty⟩
    exact (others thread fun same => inside (same ▸ gone)).trans waiting
  · intro rest begun
    obtain ⟨none,all⟩ := draining.joined rest begun
    refine ⟨uncounted.trans none,fun thread held => ?_⟩
    rw [handles] at held
    exact all thread held

theorem breakLoop_draining (draining : Draining s) (thread : ℕ) : Draining (s.breakLoop thread) := by
  unfold OwnedPool.breakLoop
  split
  · rename_i found empty closed
    refine { draining with finished := ?_, joined := ?_ }
    · exact List.forall_mem_cons.mpr ⟨⟨found,closed,empty⟩,draining.finished⟩
    · intro rest begun
      obtain ⟨none,all⟩ := draining.joined rest begun
      exact ⟨none,fun other held => (all other held).imp_right (List.mem_cons_of_mem _)⟩
  · exact draining

theorem drop_draining (draining : Draining s) : Draining s.drop := by
  unfold OwnedPool.drop
  split
  · exact draining
  · rename_i allowed
    rw [not_or,not_lt,Nat.le_zero] at allowed
    refine { draining with closed := rfl, finished := ?_, joined := ?_ }
    · intro thread gone
      obtain ⟨waiting,_,empty⟩ := draining.finished thread gone
      exact ⟨waiting,rfl,empty⟩
    · intro rest begun
      cases begun
      exact ⟨allowed.2,fun thread held => .inl held⟩

theorem join_draining (draining : Draining s) : Draining s.join := by
  unfold OwnedPool.join
  split
  · rename_i worker rest begun
    split
    · rename_i gone
      obtain ⟨none,all⟩ := draining.joined _ begun
      refine { draining with closed := ?_, joined := ?_ }
      · rw [draining.closed,begun]
        rfl
      · intro remaining now
        cases now
        refine ⟨none,fun thread held => ?_⟩
        rcases all thread held with waiting | left
        · rcases List.mem_cons.mp waiting with rfl | later
          · exact .inr gone
          · exact .inl later
        · exact .inr left
    · exact draining
  · exact draining

theorem step_draining (s : OwnedPool) (event : OwnerEvent) (draining : Draining s) : Draining (s.step event).1 := by
  cases event with
  | event event =>
      rw [OwnedPool.step]
      split
      · rename_i thread acting
        split
        · exact draining
        · rename_i inside
          exact act_draining draining event acting inside
      · split
        · exact draining
        · rename_i running
          exact call_draining draining event (Option.not_isSome_iff_eq_none.mp running)
  | breakLoop thread => exact breakLoop_draining draining thread
  | drop => exact drop_draining draining
  | join => exact join_draining draining

theorem create_draining (created : OwnedPool.create size = some s) : Draining s := by
  obtain ⟨pool,made,rfl⟩ := Option.map_eq_some_iff.mp created
  have balanced := create_balanced made
  unfold WorkerPool.create at made
  split at made
  · rename_i some'
    cases made
    refine ⟨balanced.ordered,fun _ => ⟨rfl,rfl,?_⟩,?_,rfl,fun _ gone => absurd gone List.not_mem_nil,fun _ begun => nomatch begun⟩
    · simp [WorkerPool.busy,List.countP_replicate,Thread.busy]
    · refine List.ne_nil_of_length_pos ?_
      change 0 < (List.range size).length
      rwa [List.length_range]
  · cases made

end Steps

-- `drop` returns only when no thread it held has panicked and every accepted job has
-- been taken by a worker, in order and once. Where no handle was ever let go, every job
-- has also come to its end and is in the books.
theorem drop_drains (created : OwnedPool.create size = some s) (events : List OwnerEvent)
    (returned : (exec OwnedPool.step s events).1.joining = some []) :
    let owned := (exec OwnedPool.step s events).1
    (∀ thread ∈ owned.handles, owned.pool.threads[thread]? = some .waiting) ∧
      owned.pool.queue = [] ∧ owned.pool.started = List.range owned.pool.accepted ∧
      ((∀ thread < owned.pool.threads.length, thread ∈ owned.handles) →
        owned.pool.stats.tasksSubmitted = owned.pool.accepted ∧
          owned.pool.stats.tasksCompleted = owned.pool.accepted) := by
  intro owned
  have draining : Draining owned := exec_invariant step_draining (create_draining created) events
  obtain ⟨none,all⟩ := draining.joined [] returned
  have left : ∀ thread ∈ owned.handles, thread ∈ owned.left := fun thread held =>
    (all thread held).resolve_left List.not_mem_nil
  obtain ⟨worker,held⟩ := List.exists_mem_of_ne_nil _ draining.owned
  have empty : owned.pool.queue = [] := (draining.finished worker (left worker held)).2.2
  have ordered : owned.pool.started = List.range owned.pool.accepted := by
    have whole := draining.ordered
    rwa [InOrder,empty,List.append_nil] at whole
  refine ⟨fun thread held => (draining.finished thread (left thread held)).1,empty,ordered,fun unshrunk => ?_⟩
  have waiting : ∀ thread ∈ owned.pool.threads, thread = .waiting := by
    intro thread here
    obtain ⟨i,inside,rfl⟩ := List.getElem_of_mem here
    have found := (draining.finished i (left i (unshrunk i inside))).1
    rw [List.getElem?_eq_getElem inside] at found
    exact Option.some.inj found
  have alive : Thread.gone ∉ owned.pool.threads := by
    intro gone
    cases waiting _ gone
  have idle : owned.pool.busy = 0 := by
    refine List.countP_eq_zero.mpr fun thread here => ?_
    rw [waiting thread here]
    exact Bool.false_ne_true
  obtain ⟨_,submitted,started⟩ := draining.settled alive
  rw [ordered,List.length_range,idle] at started
  rw [none] at submitted
  exact ⟨submitted,started.symm⟩

-- Two threads, and a job that is taken before the drop begins and done after it.
theorem drop_drains_two :
    ∃ s, OwnedPool.create 2 = some s ∧
      let owned := (exec OwnedPool.step s [.event .execute,.event .countSubmitted,.event (.receive 1),.drop,.breakLoop 0,
        .join,.event (.jobReturns 1),.event (.updateStatistics 1 5),.breakLoop 1,.join]).1
      owned.pool.stats.tasksCompleted = owned.pool.accepted := by
  refine ⟨_,rfl,?_⟩
  exact ((@drop_drains 2 _ rfl _ rfl).2.2.2 (by decide)).2

end PhantomFlow.Threading
