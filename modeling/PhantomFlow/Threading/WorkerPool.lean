import Mathlib.Algebra.Ring.Nat
import Mathlib.Data.List.Range
import PhantomFlow.Library.Machine

namespace PhantomFlow.Threading
open Library.Machine

def Duration.max : ℕ := (2 ^ 64 - 1) * 1000000000 + 999999999

structure PoolStats where
  tasksSubmitted : ℕ := 0
  tasksCompleted : ℕ := 0
  tasksFailed : ℕ := 0
  workersActive : ℕ := 0
  averageTaskTime : ℕ := 0
  totalExecutionTime : ℕ := 0
  deriving DecidableEq

inductive PoolError where
  | queueFull | timeout | invalidSize
  deriving DecidableEq

-- A job is named by its place in the order of acceptance. A worker thread waits for
-- one, runs it, and holds it until the statistics have it; a thread that panicked is gone.
inductive Thread where
  | waiting
  | running (job : ℕ)
  | recording (job : ℕ)
  | gone
  deriving DecidableEq

def Thread.busy : Thread → Bool
  | .running _ | .recording _ => true
  | .waiting | .gone => false

-- `workers` counts the handles, which `resize` may drop while their threads go on.
-- `uncounted` are the calls between their enqueue and their counter update, and
-- `started` the jobs that were ever run, in order.
structure WorkerPool where
  queue : List ℕ
  accepted : ℕ
  uncounted : ℕ
  threads : List Thread
  workers : ℕ
  stats : PoolStats
  poisoned : Bool
  started : List ℕ
  deriving DecidableEq

def queueCapacity : ℕ := 1000

-- What a worker does under the lock of the statistics. The flag says that it panicked
-- there: the sum of the durations overflowed, or the low 32 bits of the count were 0.
def PoolStats.recordExecution (stats : PoolStats) (executionTime : ℕ) : PoolStats × Bool :=
  let counted := { stats with tasksCompleted := stats.tasksCompleted + 1 }
  if Duration.max < counted.totalExecutionTime + executionTime then (counted,true)
  else
    let timed := { counted with totalExecutionTime := counted.totalExecutionTime + executionTime }
    if timed.tasksCompleted % 2 ^ 32 = 0 then (timed,true)
    else ({ timed with averageTaskTime := timed.totalExecutionTime / (timed.tasksCompleted % 2 ^ 32) },false)

namespace WorkerPool
variable (pool : WorkerPool)

def create (size : ℕ) : Option WorkerPool :=
  if 0 < size then
    some {
      queue := []
      accepted := 0
      uncounted := 0
      threads := List.replicate size .waiting
      workers := size
      stats := { workersActive := size }
      poisoned := false
      started := [] }
  else none

-- `try_send` and `send_timeout` at the moment they are settled: both enqueue where
-- there is room.
def send (error : PoolError) : WorkerPool × Option (Except PoolError Unit) :=
  if pool.queue.length < queueCapacity then
    ({ pool with
      queue := pool.queue ++ [pool.accepted]
      accepted := pool.accepted + 1
      uncounted := pool.uncounted + 1 },none)
  else (pool,some (.error error))

def execute : WorkerPool × Option (Except PoolError Unit) := pool.send .queueFull

def executeWithTimeout : WorkerPool × Option (Except PoolError Unit) := pool.send .timeout

-- The second half of both. On a poisoned lock the caller panics.
def countSubmitted : WorkerPool × Option (Except PoolError Unit) :=
  if 0 < pool.uncounted then
    if pool.poisoned then ({ pool with uncounted := pool.uncounted - 1 },none)
    else
      ({ pool with
        uncounted := pool.uncounted - 1
        stats := { pool.stats with tasksSubmitted := pool.stats.tasksSubmitted + 1 } },some (.ok ()))
  else (pool,none)

def receive (i : ℕ) : WorkerPool :=
  match pool.threads[i]?,pool.queue with
  | some .waiting,job :: rest =>
    { pool with
      queue := rest
      threads := pool.threads.set i (.running job)
      started := pool.started ++ [job] }
  | _,_ => pool

def jobReturns (i : ℕ) : WorkerPool :=
  match pool.threads[i]? with
  | some (.running job) => { pool with threads := pool.threads.set i (.recording job) }
  | _ => pool

-- Nothing catches the panic of a job: it ends the thread.
def jobPanics (i : ℕ) : WorkerPool :=
  match pool.threads[i]? with
  | some (.running _) => { pool with threads := pool.threads.set i .gone }
  | _ => pool

def updateStatistics (i executionTime : ℕ) : WorkerPool :=
  match pool.threads[i]? with
  | some (.recording _) =>
    if pool.poisoned then { pool with threads := pool.threads.set i .gone }
    else
      let recorded := pool.stats.recordExecution executionTime
      { pool with
        stats := recorded.1
        poisoned := recorded.2
        threads := pool.threads.set i (if recorded.2 then .gone else .waiting) }
  | _ => pool

-- It takes the pool mutably, so no other call is under way. Dropping a handle stops no
-- thread, and on a poisoned lock the caller panics once the threads are there.
def resize (newSize : ℕ) : WorkerPool × Option (Except PoolError Unit) :=
  if newSize = 0 then (pool,some (.error .invalidSize))
  else if 0 < pool.uncounted then (pool,none)
  else
    let resized := { pool with
      threads := pool.threads ++ List.replicate (newSize - pool.workers) .waiting
      workers := newSize }
    if pool.poisoned then (resized,none)
    else ({ resized with stats := { pool.stats with workersActive := newSize } },some (.ok ()))

def busy : ℕ := pool.threads.countP Thread.busy

end WorkerPool

inductive PoolEvent where
  | execute
  | executeWithTimeout
  | countSubmitted
  | receive (thread : ℕ)
  | jobReturns (thread : ℕ)
  | jobPanics (thread : ℕ)
  | updateStatistics (thread executionTime : ℕ)
  | resize (newSize : ℕ)

def poolStep (pool : WorkerPool) : PoolEvent → WorkerPool × Option (Except PoolError Unit)
  | .execute => pool.execute
  | .executeWithTimeout => pool.executeWithTimeout
  | .countSubmitted => pool.countSubmitted
  | .receive i => (pool.receive i,none)
  | .jobReturns i => (pool.jobReturns i,none)
  | .jobPanics i => (pool.jobPanics i,none)
  | .updateStatistics i executionTime => (pool.updateStatistics i executionTime,none)
  | .resize newSize => pool.resize newSize

-- A job is under way from its receipt until the statistics have it.
structure Accounted (pool : WorkerPool) : Prop where
  bounded : pool.stats.tasksCompleted + pool.stats.tasksFailed ≤ pool.stats.tasksSubmitted
  once : pool.started.Nodup
  balanced : pool.uncounted = 0 →
    (pool.stats.tasksSubmitted : ℤ) - pool.stats.tasksCompleted - pool.stats.tasksFailed =
      pool.queue.length + pool.busy

-- No job panics, no completion is recorded before the submission that it belongs to is
-- counted, and nobody meets a poisoned lock.
def KeepsAccounts (pool : WorkerPool) : PoolEvent → Prop
  | .countSubmitted => pool.poisoned = false
  | .jobPanics i => ∀ job, pool.threads[i]? ≠ some (.running job)
  | .updateStatistics i _ => ∀ job, pool.threads[i]? = some (.recording job) →
    pool.poisoned = false ∧ pool.stats.tasksCompleted + pool.stats.tasksFailed < pool.stats.tasksSubmitted
  | .execute | .executeWithTimeout | .receive _ | .jobReturns _ | .resize _ => True

def InOrder (pool : WorkerPool) : Prop := pool.started ++ pool.queue = List.range pool.accepted

structure Balanced (pool : WorkerPool) : Prop where
  ordered : InOrder pool
  counted : pool.stats.tasksSubmitted + pool.uncounted = pool.accepted
  finished : pool.started.length = pool.stats.tasksCompleted + pool.stats.tasksFailed + pool.busy
  bounded : pool.stats.tasksCompleted + pool.stats.tasksFailed ≤ pool.stats.tasksSubmitted

theorem InOrder.once {pool : WorkerPool} (ordered : InOrder pool) : pool.started.Nodup := by
  have all : (pool.started ++ pool.queue).Nodup := by
    rw [ordered]
    exact List.nodup_range
  exact (List.nodup_append.mp all).1

theorem Balanced.accounted {pool : WorkerPool} (valid : Balanced pool) : Accounted pool := by
  refine ⟨valid.bounded,valid.ordered.once,?_⟩
  intro none
  have accepted := congrArg List.length valid.ordered
  rw [List.length_append,List.length_range] at accepted
  have counted := valid.counted
  have finished := valid.finished
  omega

theorem countP_busy_set {threads : List Thread} (found : threads[i]? = some thread) (next : Thread) :
    (threads.set i next).countP Thread.busy + thread.busy.toNat = threads.countP Thread.busy + next.busy.toNat := by
  obtain ⟨inside,rfl⟩ := List.getElem?_eq_some_iff.mp found
  rw [List.countP_set inside]
  have present : threads[i].busy = true → 0 < threads.countP Thread.busy := fun busy =>
    List.countP_pos_iff.mpr ⟨threads[i],List.getElem_mem inside,busy⟩
  cases busy : threads[i].busy with
  | false => cases next.busy <;> simp
  | true =>
      have some := present busy
      cases next.busy <;> simp <;> omega

-- What each step does to the threads and to the order of the jobs.
namespace WorkerPool
variable {pool : WorkerPool}

theorem receive_cases (pool : WorkerPool) (i : ℕ) :
    pool.receive i = pool ∨ ∃ job rest, pool.threads[i]? = some .waiting ∧ pool.queue = job :: rest ∧
      pool.receive i = { pool with
        queue := rest
        threads := pool.threads.set i (.running job)
        started := pool.started ++ [job] } := by
  cases found : pool.threads[i]? with
  | none => left; simp [receive,found]
  | some thread =>
      cases thread with
      | waiting =>
          cases waiting : pool.queue with
          | nil => left; simp [receive,found,waiting]
          | cons job rest => right; exact ⟨job,rest,rfl,rfl,by simp [receive,found,waiting]⟩
      | running job => left; simp [receive,found]
      | recording job => left; simp [receive,found]
      | gone => left; simp [receive,found]

theorem jobReturns_cases (pool : WorkerPool) (i : ℕ) :
    pool.jobReturns i = pool ∨ ∃ job, pool.threads[i]? = some (.running job) ∧
      pool.jobReturns i = { pool with threads := pool.threads.set i (.recording job) } := by
  unfold jobReturns
  split
  · rename_i job found
    exact .inr ⟨job,found,rfl⟩
  · exact .inl rfl

theorem jobPanics_cases (pool : WorkerPool) (i : ℕ) :
    pool.jobPanics i = pool ∨ ∃ job, pool.threads[i]? = some (.running job) ∧
      pool.jobPanics i = { pool with threads := pool.threads.set i .gone } := by
  unfold jobPanics
  split
  · rename_i job found
    exact .inr ⟨job,found,rfl⟩
  · exact .inl rfl

end WorkerPool

theorem recordExecution_counts (stats : PoolStats) (executionTime : ℕ) :
    (stats.recordExecution executionTime).1.tasksCompleted = stats.tasksCompleted + 1 ∧
      (stats.recordExecution executionTime).1.tasksSubmitted = stats.tasksSubmitted ∧
      (stats.recordExecution executionTime).1.tasksFailed = stats.tasksFailed := by
  simp only [PoolStats.recordExecution]
  split
  · exact ⟨rfl,rfl,rfl⟩
  · split
    · exact ⟨rfl,rfl,rfl⟩
    · exact ⟨rfl,rfl,rfl⟩

theorem send_inOrder {pool : WorkerPool} (ordered : InOrder pool) (error : PoolError) :
    InOrder (pool.send error).1 := by
  unfold WorkerPool.send
  split
  · simp only [InOrder]
    rw [← List.append_assoc,ordered,List.range_succ]
  · exact ordered

theorem receive_inOrder {pool : WorkerPool} (ordered : InOrder pool) (i : ℕ) : InOrder (pool.receive i) := by
  rcases pool.receive_cases i with same | ⟨job,rest,_,waiting,next⟩
  · rw [same]
    exact ordered
  · rw [InOrder,waiting] at ordered
    rw [next,InOrder,← ordered]
    simp

theorem poolStep_inOrder (pool : WorkerPool) (event : PoolEvent) (ordered : InOrder pool) :
    InOrder (poolStep pool event).1 := by
  cases event with
  | execute => exact send_inOrder ordered .queueFull
  | executeWithTimeout => exact send_inOrder ordered .timeout
  | receive i => exact receive_inOrder ordered i
  | countSubmitted =>
      simp only [poolStep,WorkerPool.countSubmitted]
      split
      · split
        · exact ordered
        · exact ordered
      · exact ordered
  | jobReturns i =>
      rcases pool.jobReturns_cases i with same | ⟨job,_,next⟩
      · rw [poolStep,same]
        exact ordered
      · rw [poolStep,next]
        exact ordered
  | jobPanics i =>
      rcases pool.jobPanics_cases i with same | ⟨job,_,next⟩
      · rw [poolStep,same]
        exact ordered
      · rw [poolStep,next]
        exact ordered
  | updateStatistics i executionTime =>
      simp only [poolStep,WorkerPool.updateStatistics]
      split
      · split
        · exact ordered
        · exact ordered
      · exact ordered
  | resize newSize =>
      simp only [poolStep,WorkerPool.resize]
      split
      · exact ordered
      · split
        · exact ordered
        · split
          · exact ordered
          · exact ordered

theorem send_balanced {pool : WorkerPool} (valid : Balanced pool) (error : PoolError) :
    Balanced (pool.send error).1 := by
  have ordered := send_inOrder valid.ordered error
  have counted := valid.counted
  revert ordered
  unfold WorkerPool.send
  split
  · intro ordered
    refine ⟨ordered,?_,valid.finished,valid.bounded⟩
    simp only
    omega
  · intro _
    exact valid

theorem countSubmitted_balanced {pool : WorkerPool} (valid : Balanced pool) (clean : pool.poisoned = false) :
    Balanced pool.countSubmitted.1 := by
  simp only [WorkerPool.countSubmitted,clean,Bool.false_eq_true,if_false]
  split
  · have counted := valid.counted
    have bounded := valid.bounded
    refine ⟨valid.ordered,?_,valid.finished,?_⟩
    · simp only
      omega
    · simp only
      omega
  · exact valid

theorem receive_balanced {pool : WorkerPool} (valid : Balanced pool) (i : ℕ) : Balanced (pool.receive i) := by
  have ordered := receive_inOrder valid.ordered i
  rcases pool.receive_cases i with same | ⟨job,rest,found,_,next⟩
  · rw [same]
    exact valid
  · rw [next] at ordered ⊢
    have finished := valid.finished
    have busy := countP_busy_set found (.running job)
    simp only [Thread.busy,Bool.toNat_false,Bool.toNat_true] at busy
    refine ⟨ordered,valid.counted,?_,valid.bounded⟩
    simp only [WorkerPool.busy,List.length_append,List.length_singleton] at finished ⊢
    omega

theorem jobReturns_balanced {pool : WorkerPool} (valid : Balanced pool) (i : ℕ) : Balanced (pool.jobReturns i) := by
  rcases pool.jobReturns_cases i with same | ⟨job,found,next⟩
  · rw [same]
    exact valid
  · rw [next]
    have finished := valid.finished
    have busy := countP_busy_set found (.recording job)
    simp only [Thread.busy,Bool.toNat_true] at busy
    refine ⟨valid.ordered,valid.counted,?_,valid.bounded⟩
    simp only [WorkerPool.busy] at finished ⊢
    omega

theorem updateStatistics_balanced {pool : WorkerPool} (valid : Balanced pool) (i executionTime : ℕ)
    (allowed : KeepsAccounts pool (.updateStatistics i executionTime)) :
    Balanced (pool.updateStatistics i executionTime) := by
  unfold WorkerPool.updateStatistics
  split
  · rename_i job found
    obtain ⟨clean,behind⟩ := allowed job found
    obtain ⟨completed,submitted,failed⟩ := recordExecution_counts pool.stats executionTime
    have idle : (if (pool.stats.recordExecution executionTime).2 = true then Thread.gone else .waiting).busy = false := by
      split
      · rfl
      · rfl
    have busy := countP_busy_set found (if (pool.stats.recordExecution executionTime).2 = true then .gone else .waiting)
    rw [idle] at busy
    simp only [Thread.busy,Bool.toNat_false,Bool.toNat_true] at busy
    have finished := valid.finished
    have counted := valid.counted
    simp only [clean,Bool.false_eq_true,if_false]
    refine ⟨valid.ordered,?_,?_,?_⟩
    · rw [submitted]
      exact counted
    · simp only [WorkerPool.busy] at finished ⊢
      rw [completed,failed]
      omega
    · rw [completed,submitted,failed]
      omega
  · exact valid

theorem resize_balanced {pool : WorkerPool} (valid : Balanced pool) (newSize : ℕ) : Balanced (pool.resize newSize).1 := by
  have finished := valid.finished
  have more : (pool.threads ++ List.replicate (newSize - pool.workers) Thread.waiting).countP Thread.busy =
      pool.threads.countP Thread.busy := by
    rw [List.countP_append,List.countP_replicate]
    rfl
  unfold WorkerPool.resize
  split
  · exact valid
  · split
    · exact valid
    · split
      · refine ⟨valid.ordered,valid.counted,?_,valid.bounded⟩
        simp only [WorkerPool.busy] at finished ⊢
        rw [more]
        exact finished
      · refine ⟨valid.ordered,valid.counted,?_,valid.bounded⟩
        simp only [WorkerPool.busy] at finished ⊢
        rw [more]
        exact finished

theorem poolStep_balanced (pool : WorkerPool) (event : PoolEvent) (valid : Balanced pool)
    (allowed : KeepsAccounts pool event) : Balanced (poolStep pool event).1 := by
  cases event with
  | execute => exact send_balanced valid .queueFull
  | executeWithTimeout => exact send_balanced valid .timeout
  | countSubmitted => exact countSubmitted_balanced valid allowed
  | receive i => exact receive_balanced valid i
  | jobReturns i => exact jobReturns_balanced valid i
  | jobPanics i =>
      rcases pool.jobPanics_cases i with same | ⟨job,found,_⟩
      · rw [poolStep,same]
        exact valid
      · exact absurd found (allowed job)
  | updateStatistics i executionTime => exact updateStatistics_balanced valid i executionTime allowed
  | resize newSize => exact resize_balanced valid newSize

theorem create_balanced (created : WorkerPool.create size = some pool) : Balanced pool := by
  unfold WorkerPool.create at created
  split at created
  · cases created
    refine ⟨rfl,rfl,?_,le_refl 0⟩
    simp [WorkerPool.busy,List.countP_replicate,Thread.busy]
  · cases created

-- At most once holds of every interleaving, the books of those that keep the accounts.
theorem pool_accounts (created : WorkerPool.create size = some pool) (events : List PoolEvent) :
    Throughout poolStep (fun pool => pool.started.Nodup) pool events ∧
      (Along poolStep KeepsAccounts pool events → Throughout poolStep Accounted pool events) := by
  have start := create_balanced created
  constructor
  · exact (throughout_of_preserved poolStep_inOrder start.ordered events).mono fun _ ordered => ordered.once
  · intro conditions
    exact (throughout_of_along poolStep_balanced start conditions).mono fun _ valid => valid.accounted

theorem pool_accounts_of_two_jobs :
    WorkerPool.create 1 = some ⟨[],0,0,[.waiting],1,{ workersActive := 1 },false,[]⟩ ∧
      Throughout poolStep Accounted ⟨[],0,0,[.waiting],1,{ workersActive := 1 },false,[]⟩
        [.execute,.countSubmitted,.receive 0,.executeWithTimeout,.jobReturns 0,.countSubmitted,
          .updateStatistics 0 5,.resize 2,.receive 1] := by
  have created : WorkerPool.create 1 = some ⟨[],0,0,[.waiting],1,{ workersActive := 1 },false,[]⟩ := rfl
  refine ⟨created,(pool_accounts created _).2 ?_⟩
  refine ⟨trivial,rfl,trivial,trivial,trivial,rfl,?_,trivial,trivial,trivial⟩
  exact fun _ _ => ⟨rfl,by decide⟩

-- A worker that is done before the submission is counted has completed more than was
-- submitted, and a job that panics is neither completed nor failed for ever.
theorem overtaken_and_panicked_jobs_unaccounted :
    ∃ pool, WorkerPool.create 1 = some pool ∧
      ¬ Accounted (exec poolStep pool [.execute,.receive 0,.jobReturns 0,.updateStatistics 0 5]).1 ∧
      ¬ Accounted (exec poolStep pool [.execute,.countSubmitted,.receive 0,.jobPanics 0]).1 := by
  refine ⟨_,rfl,?_,?_⟩
  · intro accounted
    exact absurd accounted.bounded (by decide)
  · intro accounted
    exact absurd (accounted.balanced rfl) (by decide)

end PhantomFlow.Threading
