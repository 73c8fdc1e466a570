import PhantomFlow.Library.Locks
import PhantomFlow.Storage.Cache

namespace PhantomFlow.Storage
open Library.Locks

inductive CacheLock where
  | data | stats | accessOrder
deriving DecidableEq

namespace CacheLock

-- The order in which the mutating operations take the locks.
def rank : CacheLock → ℕ
  | .data => 0
  | .stats => 1
  | .accessOrder => 2

end CacheLock

section Paths
variable {K : Type u} {V : Type v}

def Operation.mutates : Operation K V → Bool
  | .containsKey _ | .len | .getStats => false
  | _ => true

def Operation.getsStats : Operation K V → Bool
  | .getStats => true
  | _ => false

-- How often the helpers may lock the recency queue: a lookup that hits moves its key,
-- an insertion pops a key if it evicts and then moves its own.
def visits (policy : EvictionPolicy) : Operation K V → List ℕ
  | .get _ => if policy = .lru then [0,1] else [0]
  | .insert _ _ _ | .insertWithTtl _ _ _ _ => if policy = .lru then [1,2] else [0]
  | _ => [0]

-- A helper's guard is dropped when the helper returns, the others at the end, the
-- last one first.
def lockPath : Operation K V → ℕ → List (Action CacheLock)
  | .getStats,_ => [.acquire .stats .read,.acquire .data .read,.release .data,.release .stats]
  | .containsKey _,_ | .len,_ => [.acquire .data .read,.release .data]
  | _,n =>
    [.acquire .data .write,.acquire .stats .write] ++
      (List.replicate n [.acquire .accessOrder .write,.release .accessOrder]).flatten ++
      [.release .stats,.release .data]

def LockPath (policy : EvictionPolicy) (operation : Operation K V) (path : List (Action CacheLock)) : Prop :=
  ∃ n ∈ visits policy operation, path = lockPath operation n

theorem LockPath.exists (policy : EvictionPolicy) (operation : Operation K V) :
    ∃ path, LockPath policy operation path := by
  have nonempty : ∃ n, n ∈ visits policy operation := by
    apply List.exists_mem_of_ne_nil
    cases operation with
    | get key => simp only [visits]; split <;> simp
    | insert key value chance => simp only [visits]; split <;> simp
    | insertWithTtl key value ttl chance => simp only [visits]; split <;> simp
    | _ => simp [visits]
  obtain ⟨n,member⟩ := nonempty
  exact ⟨_,n,member,rfl⟩

theorem follows_mutation {permits : List (CacheLock × Mode) → CacheLock → Mode → Prop} {operation : Operation K V}
    (mutates : operation.mutates = true) (data : permits [] .data .write) (stats : permits [(.data,.write)] .stats .write)
    (order : permits [(.stats,.write),(.data,.write)] .accessOrder .write) (path : LockPath policy operation actions) :
    Follows permits [] actions := by
  obtain ⟨n,_,rfl⟩ := path
  have shape : lockPath operation n = .acquire .data .write :: .acquire .stats .write ::
      ((List.replicate n [.acquire .accessOrder .write,.release .accessOrder]).flatten ++
        [.release .stats,.release .data]) := by
    cases operation <;> first | rfl | cases mutates
  have rest : Follows permits [(.stats,.write),(.data,.write)]
      ((List.replicate n [.acquire .accessOrder .write,.release .accessOrder]).flatten ++
        [.release .stats,.release .data]) := by
    generalize n = m
    induction m with
    | zero => rfl
    | succ m ih => exact ⟨order,ih⟩
  rw [shape]
  exact ⟨data,stats,rest⟩

theorem follows_getsStats {permits : List (CacheLock × Mode) → CacheLock → Mode → Prop} {operation : Operation K V}
    (getsStats : operation.getsStats = true) (stats : permits [] .stats .read)
    (data : permits [(.stats,.read)] .data .read) (path : LockPath policy operation actions) :
    Follows permits [] actions := by
  obtain ⟨n,_,rfl⟩ := path
  cases operation with
  | getStats => exact ⟨stats,data,rfl⟩
  | _ => cases getsStats

theorem follows_reading {permits : List (CacheLock × Mode) → CacheLock → Mode → Prop} {operation : Operation K V}
    (reads : operation.mutates = false) (plain : operation.getsStats = false) (data : permits [] .data .read)
    (path : LockPath policy operation actions) : Follows permits [] actions := by
  obtain ⟨n,_,rfl⟩ := path
  cases operation with
  | containsKey key => exact ⟨data,rfl⟩
  | len => exact ⟨data,rfl⟩
  | getStats => cases plain
  | _ => cases reads

theorem follows_any {permits : List (CacheLock × Mode) → CacheLock → Mode → Prop}
    (first : ∀ lock mode, permits [] lock mode) (second : permits [(.data,.write)] .stats .write)
    (third : permits [(.stats,.write),(.data,.write)] .accessOrder .write) (second' : permits [(.stats,.read)] .data .read)
    {operation : Operation K V} (path : LockPath policy operation actions) : Follows permits [] actions := by
  cases mutates : operation.mutates with
  | true => exact follows_mutation mutates (first _ _) second third path
  | false =>
      cases getsStats : operation.getsStats with
      | true => exact follows_getsStats getsStats (first _ _) second' path
      | false => exact follows_reading mutates getsStats (first _ _) path

end Paths

section Threads
variable {K : Type u} {V : Type v} {ι : Type w} [DecidableEq ι]

def Crossed (programs : ι → List (Operation K V)) : Prop :=
  ∃ i j, i ≠ j ∧ (∃ operation ∈ programs i, operation.getsStats = true) ∧
    ∃ operation ∈ programs j, operation.mutates = true

theorem no_deadlock_of_not_crossed {programs : ι → List (Operation K V)} (apart : ¬ Crossed programs)
    (run : Reaches (LockPath policy) (start programs) s) : ¬ Deadlocked s := by
  by_cases asks : ∃ i, ∃ operation ∈ programs i, operation.getsStats = true
  · obtain ⟨i,asked⟩ := asks
    have quiet : ∀ j, j ≠ i → ∀ operation ∈ programs j, operation.mutates = false := by
      intro j other operation member
      cases mutates : operation.mutates with
      | false => rfl
      | true => exact absurd ⟨i,j,other.symm,asked,operation,member,mutates⟩ apart
    by_cases changes : ∃ operation ∈ programs i, operation.mutates = true
    · -- The others only read the map, one guard at a time.
      refine no_deadlock_of_single i ?_ ?_ run
      · intro j other operation member path taken
        cases getsStats : operation.getsStats with
        | true => exact absurd ⟨j,i,other,⟨operation,member,getsStats⟩,changes⟩ apart
        | false => exact follows_reading (quiet j other operation member) getsStats rfl taken
      · intro operation _ path taken
        exact follows_any (fun _ _ => trivial) trivial trivial trivial taken
    · refine no_deadlock_of_readers ?_ run
      intro j operation member path taken
      have reads : operation.mutates = false := by
        by_cases same : j = i
        · subst j
          cases mutates : operation.mutates with
          | false => rfl
          | true => exact absurd ⟨operation,member,mutates⟩ changes
        · exact quiet j same operation member
      cases getsStats : operation.getsStats with
      | true => exact follows_getsStats getsStats ⟨rfl,by simp⟩ ⟨rfl,by simp⟩ taken
      | false => exact follows_reading reads getsStats ⟨rfl,by simp⟩ taken
  · have bound : ∀ lock, CacheLock.rank lock ≤ 2 := by
      intro lock
      cases lock <;> decide
    refine no_deadlock_of_order CacheLock.rank bound ?_ run
    intro i operation member path taken
    cases mutates : operation.mutates with
    | true => exact follows_mutation mutates (by simp) (by simp [CacheLock.rank]) (by simp [CacheLock.rank]) taken
    | false =>
        cases getsStats : operation.getsStats with
        | true => exact absurd ⟨i,operation,member,getsStats⟩ asks
        | false => exact follows_reading mutates getsStats (by simp) taken

theorem deadlock_of_crossed (policy : EvictionPolicy) {programs : ι → List (Operation K V)}
    (crossed : Crossed programs) : ∃ s, Reaches (LockPath policy) (start programs) s ∧ Deadlocked s := by
  obtain ⟨i,j,distinct,⟨asking,mine,getsStats⟩,changing,theirs,mutates⟩ := crossed
  have possible : ∀ operation : Operation K V, ∃ path, LockPath policy operation path ∧
      Follows (fun held lock _ => ∀ guard ∈ held, guard.1 ≠ lock) [] path := by
    intro operation
    obtain ⟨path,taken⟩ := LockPath.exists policy operation
    exact ⟨path,taken,follows_any (by simp) (by simp) (by simp) (by simp) taken⟩
  have path : LockPath policy asking
      [.acquire .stats .read,.acquire .data .read,.release .data,.release .stats] := by
    cases asking with
    | getStats => exact ⟨0,by simp [visits],rfl⟩
    | _ => cases getsStats
  have path' : ∃ rest, LockPath policy changing (.acquire .data .write :: .acquire .stats .write :: rest) := by
    obtain ⟨_,n,member,_⟩ := LockPath.exists policy changing
    cases changing <;> first | exact ⟨_,n,member,rfl⟩ | cases mutates
  obtain ⟨rest,path'⟩ := path'
  exact deadlock_of_opposite distinct (by decide) possible mine path theirs path' rfl rfl

theorem no_deadlock_iff (policy : EvictionPolicy) (programs : ι → List (Operation K V)) :
    (∀ s, Reaches (LockPath policy) (start programs) s → ¬ Deadlocked s) ↔
      ¬ ∃ i j, i ≠ j ∧ (∃ operation ∈ programs i, operation.getsStats = true) ∧
        ∃ operation ∈ programs j, operation.mutates = true := by
  constructor
  · intro safe crossed
    obtain ⟨s,run,dead⟩ := deadlock_of_crossed policy crossed
    exact safe s run dead
  · intro apart s run
    exact no_deadlock_of_not_crossed apart run

-- `get_stats` holds the counters and waits for the map, `get` the other way round.
theorem get_stats_crosses_get :
    ¬ ∀ s, Reaches (LockPath .lru)
      (start (fun first : Bool => if first then [(.getStats : Operation ℕ ℕ)] else [.get 1])) s → ¬ Deadlocked s := by
  intro safe
  have crossed : Crossed (fun first : Bool => if first then [(.getStats : Operation ℕ ℕ)] else [.get 1]) :=
    ⟨true,false,by decide,⟨.getStats,by simp,rfl⟩,.get 1,by simp,rfl⟩
  obtain ⟨s,run,dead⟩ := deadlock_of_crossed .lru crossed
  exact safe s run dead

end Threads

end PhantomFlow.Storage
