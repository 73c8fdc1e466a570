import Mathlib.Data.List.Dedup
import PhantomFlow.Library.Machine
import PhantomFlow.Storage.Cache

namespace PhantomFlow.Storage
open Library Library.Machine
variable {K : Type u} {V : Type v} [DecidableEq K]

def touched (operation : Operation K V) (answer : Answer V) : List K :=
  match operation,answer with
  | .insert key _ _,_ => [key]
  | .insertWithTtl key _ _ _,_ => [key]
  | .get key,.value (some _) => [key]
  | _,_ => []

def touchingStep (s : Cache K V × List K) (call : ℕ × Operation K V) : (Cache K V × List K) × Answer V :=
  let next := step s.1 call
  ((next.1,s.2 ++ touched call.2 next.2),next.2)

def byRecency (touches : List K) (data : OrderedMap K (CacheEntry V)) : List K := touches.dedup.filter data.has

structure InOrder (s : Cache K V × List K) : Prop where
  lists : s.1.accessOrder.Perm s.1.data.keys
  ordered : s.1.accessOrder = byRecency s.2 s.1.data
  bounded : s.1.len ≤ s.1.config.maxSize

def insertedKey : Operation K V → Option K
  | .insert key _ _ => some key
  | .insertWithTtl key _ _ _ => some key
  | _ => none

def EvictsOldest (s : Cache K V × List K) (call : ℕ × Operation K V) : Prop :=
  ∀ key, insertedKey call.2 = some key → s.1.containsKey key = false → s.1.config.maxSize ≤ s.1.len →
    ∃ oldest rest, byRecency s.2 s.1.data = oldest :: rest ∧
      ∀ k, (step s.1 call).1.data.has k = true ↔ k = key ∨ k ≠ oldest ∧ s.1.data.has k = true

def NothingLost (cache : Cache K V) (call : ℕ × Operation K V) : Prop :=
  match call.2 with
  | .get key => ∀ entry, cache.data.get key = some entry → entry.expired call.1 = false
  | .remove key => cache.containsKey key = false
  | .clear => cache.isEmpty = true
  | .cleanupExpired => ∀ entry ∈ cache.data.values, entry.expired call.1 = false
  | _ => True

section Order

theorem dedup_concat (touches : List K) (key : K) :
    (touches ++ [key]).dedup = touches.dedup.filter (fun k => decide (k ≠ key)) ++ [key] := by
  induction touches with
  | nil => simp
  | cons first rest ih =>
      by_cases again : first ∈ rest
      · rw [List.cons_append,List.dedup_cons_of_mem (by simp [again]),List.dedup_cons_of_mem again,ih]
      · by_cases same : first = key
        · subst first
          rw [List.cons_append,List.dedup_cons_of_mem (by simp),List.dedup_cons_of_notMem again,ih]
          simp
        · rw [List.cons_append,List.dedup_cons_of_notMem (by simp [again,same]),List.dedup_cons_of_notMem again,ih]
          simp [same]

theorem mem_byRecency (touches : List K) (data : OrderedMap K (CacheEntry V)) (k : K) :
    k ∈ byRecency touches data ↔ k ∈ touches ∧ data.has k = true := by
  rw [byRecency,List.mem_filter,List.mem_dedup]

theorem byRecency_nodup (touches : List K) (data : OrderedMap K (CacheEntry V)) : (byRecency touches data).Nodup :=
  (List.nodup_dedup touches).filter _

theorem byRecency_set (touches : List K) (data : OrderedMap K (CacheEntry V)) (key : K) (entry : CacheEntry V) :
    byRecency (touches ++ [key]) (data.set key entry) = Cache.updateAccessOrder (byRecency touches data) key := by
  rw [byRecency,dedup_concat,Cache.updateAccessOrder,byRecency,List.filter_append,List.filter_filter,List.filter_filter]
  congr 1
  · apply List.filter_congr
    intro k _
    rw [OrderedMap.has_set]
    by_cases same : k = key
    · simp [same]
    · simp [same]
  · simp [OrderedMap.has_set]

theorem byRecency_delete (touches : List K) (data : OrderedMap K (CacheEntry V)) (key : K) :
    byRecency touches (data.delete key) = (byRecency touches data).filter (fun k => decide (k ≠ key)) := by
  rw [byRecency,byRecency,List.filter_filter]
  apply List.filter_congr
  intro k _
  rw [OrderedMap.has_delete]

-- Every key was inserted at some time, so the order lists all of them.
theorem lists_of_touched {touches : List K} {data : OrderedMap K (CacheEntry V)}
    (known : ∀ k, data.has k = true → k ∈ touches) : (byRecency touches data).Perm data.keys := by
  rw [List.perm_ext_iff_of_nodup (byRecency_nodup touches data) (show data.keys.Nodup from data.distinct)]
  intro k
  rw [mem_byRecency,← OrderedMap.has_iff]
  exact ⟨And.right,fun here => ⟨known k here,here⟩⟩

end Order

namespace InOrder
variable {s : Cache K V × List K}

theorem known (inOrder : InOrder s) (here : s.1.data.has k = true) : k ∈ s.2 := by
  have listed : k ∈ s.1.accessOrder := inOrder.lists.mem_iff.mpr ((OrderedMap.has_iff _ k).mp here)
  rw [inOrder.ordered,mem_byRecency] at listed
  exact listed.1

theorem of_known (known : ∀ k, s.1.data.has k = true → k ∈ s.2) (ordered : s.1.accessOrder = byRecency s.2 s.1.data)
    (bounded : s.1.len ≤ s.1.config.maxSize) : InOrder s :=
  ⟨by rw [ordered]; exact lists_of_touched known,ordered,bounded⟩

theorem kept (inOrder : InOrder s) (next : InOrder t) (same : t.1.accessOrder = s.1.accessOrder)
    (here : s.1.data.has k = true) : t.1.data.has k = true := by
  rw [OrderedMap.has_iff] at here ⊢
  rw [← inOrder.lists.mem_iff,← same] at here
  exact next.lists.mem_iff.mp here

theorem touch (inOrder : InOrder s) (room : s.1.data.has key = true ∨ s.1.len < s.1.config.maxSize)
    (entry : CacheEntry V) {cache : Cache K V} (data : cache.data = s.1.data.set key entry)
    (order : cache.accessOrder = Cache.updateAccessOrder s.1.accessOrder key) (config : cache.config = s.1.config) :
    InOrder (cache,s.2 ++ [key]) := by
  apply of_known
  · intro k here
    rw [data,OrderedMap.has_set] at here
    rw [List.mem_append,List.mem_singleton]
    rcases Bool.or_eq_true_iff.mp here with same | older
    · exact .inr (of_decide_eq_true same)
    · exact .inl (inOrder.known older)
  · rw [order,data,byRecency_set,inOrder.ordered]
  · have before := inOrder.bounded
    simp only [Cache.len,data,config,OrderedMap.size_set] at before room ⊢
    split
    · exact before
    · rename_i absent
      exact room.resolve_left absent

theorem evict (inOrder : InOrder s) (policy : s.1.config.evictionPolicy = .lru) (capacity : 1 ≤ s.1.config.maxSize)
    (full : s.1.config.maxSize ≤ s.1.len) (chance : Chance K V) :
    ∃ oldest rest, byRecency s.2 s.1.data = oldest :: rest ∧
      (s.1.evictEntry chance).data = s.1.data.delete oldest ∧ (s.1.evictEntry chance).config = s.1.config ∧
      (s.1.evictEntry chance).len < s.1.config.maxSize ∧ InOrder (s.1.evictEntry chance,s.2) := by
  have size : s.1.accessOrder.length = s.1.len := by rw [inOrder.lists.length_eq,OrderedMap.size_keys]; rfl
  cases order : s.1.accessOrder with
  | nil => rw [order,List.length_nil] at size; omega
  | cons oldest rest =>
      have sorted : byRecency s.2 s.1.data = oldest :: rest := by rw [← inOrder.ordered,order]
      have here : s.1.data.has oldest = true := by
        rw [OrderedMap.has_iff,← inOrder.lists.mem_iff,order]
        exact List.mem_cons_self
      have evicted : s.1.evictEntry chance =
          { s.1 with
            data := s.1.data.delete oldest
            accessOrder := rest
            stats := { s.1.stats with evictions := s.1.stats.evictions + 1 } } := by
        simp [Cache.evictEntry,Cache.keyToEvict,policy,Cache.getLruKey,order]
      have smaller := OrderedMap.size_delete s.1.data oldest
      rw [if_pos here] at smaller
      have bounded := inOrder.bounded
      rw [Cache.len] at bounded full
      have distinct : (oldest :: rest).Nodup := by rw [← sorted]; exact byRecency_nodup _ _
      refine ⟨oldest,rest,sorted,by rw [evicted],by rw [evicted],?_,?_⟩
      · simp only [evicted,Cache.len]
        omega
      rw [evicted]
      apply of_known
      · intro k held
        rw [OrderedMap.has_delete,Bool.and_eq_true] at held
        exact inOrder.known held.2
      · change rest = byRecency s.2 (s.1.data.delete oldest)
        rw [byRecency_delete,sorted,List.filter_cons_of_neg (by simp)]
        symm
        rw [List.filter_eq_self]
        intro k later
        rw [List.nodup_cons] at distinct
        exact decide_eq_true (fun same => distinct.1 (by rw [← same]; exact later))
      · rw [Cache.len]
        change (s.1.data.delete oldest).size ≤ s.1.config.maxSize
        omega

theorem insertion (inOrder : InOrder s) (policy : s.1.config.evictionPolicy = .lru) (capacity : 1 ≤ s.1.config.maxSize)
    (chance : Chance K V) (now : ℕ) (key : K) (value : V) (ttl : Option ℕ) :
    InOrder ((s.1.insertWithTtl chance now key value ttl).2,s.2 ++ [key]) := by
  cases overflows : s.1.overflows key with
  | false =>
      have room : s.1.data.has key = true ∨ s.1.len < s.1.config.maxSize := by
        simp only [Cache.overflows,Bool.and_eq_false_iff,decide_eq_false_iff_not,Bool.not_eq_false'] at overflows
        rcases overflows with room | present
        · exact .inr (by rw [Cache.len]; omega)
        · exact .inl present
      rw [Cache.insertWithTtl,overflows]
      exact inOrder.touch room ⟨value,now,now,1,ttl⟩ rfl (by simp [Cache.place,policy]) rfl
  | true =>
      simp only [Cache.overflows,Bool.and_eq_true,decide_eq_true_eq] at overflows
      obtain ⟨oldest,rest,_,_,config,room,evicted⟩ := inOrder.evict policy capacity overflows.1 chance
      have full : s.1.overflows key = true := by simp [Cache.overflows,overflows]
      rw [Cache.insertWithTtl,full]
      refine evicted.touch (.inr (by rw [config]; exact room)) ⟨value,now,now,1,ttl⟩ rfl ?_ rfl
      rw [← config] at policy
      simp [Cache.place,policy]

end InOrder

theorem EvictsOldest.of_inOrder {s : Cache K V × List K} (inOrder : InOrder s)
    (policy : s.1.config.evictionPolicy = .lru) (capacity : 1 ≤ s.1.config.maxSize) (call : ℕ × Operation K V) :
    EvictsOldest s call := by
  have replaced : ∀ key value ttl chance, s.1.containsKey key = false → s.1.config.maxSize ≤ s.1.len →
      ∃ oldest rest, byRecency s.2 s.1.data = oldest :: rest ∧
        ∀ k, (s.1.insertWithTtl chance call.1 key value ttl).2.data.has k = true ↔
          k = key ∨ k ≠ oldest ∧ s.1.data.has k = true := by
    intro key value ttl chance absent full
    obtain ⟨oldest,rest,sorted,data,_⟩ := inOrder.evict policy capacity full chance
    refine ⟨oldest,rest,sorted,fun k => ?_⟩
    have overflows : s.1.overflows key = true := by
      rw [Cache.containsKey] at absent
      simp only [Cache.len] at full
      simp [Cache.overflows,absent,full]
    rw [Cache.insertWithTtl,overflows]
    change ((s.1.evictEntry chance).data.set key _).has k = true ↔ _
    rw [data,OrderedMap.has_set,OrderedMap.has_delete]
    simp
  intro key inserts absent full
  obtain ⟨now,operation⟩ := call
  cases operation with
  | insert key' value chance => cases inserts; exact replaced key value _ chance absent full
  | insertWithTtl key' value ttl chance => cases inserts; exact replaced key value ttl chance absent full
  | _ => cases inserts

section Steps
variable {s : Cache K V × List K}

theorem touchingStep_get (inOrder : InOrder s) (policy : s.1.config.evictionPolicy = .lru) (now : ℕ) (key : K) :
    InOrder (touchingStep s (now,.get key)).1 ↔ NothingLost s.1 (now,.get key) := by
  cases found : s.1.data.get key with
  | none =>
      refine iff_of_true ?_ (by intro entry found'; rw [found] at found'; cases found')
      simp only [touchingStep,step,Cache.get_absent found,touched,List.append_nil]
      exact ⟨inOrder.lists,inOrder.ordered,inOrder.bounded⟩
  | some entry =>
      have here := OrderedMap.has_of_get found
      cases expired : entry.expired now with
      | true =>
          refine iff_of_false ?_ (fun live => by simpa [expired] using live entry found)
          intro next
          simp only [touchingStep,step,Cache.get_expired found expired] at next
          have held := inOrder.kept next rfl here
          simp [OrderedMap.has_delete] at held
      | false =>
          refine iff_of_true ?_ (by intro entry' found'; rw [found] at found'; cases found'; exact expired)
          simp only [touchingStep,step,Cache.get_hit found expired,touched]
          exact inOrder.touch (.inl here) _ rfl (if_pos policy) rfl

theorem touchingStep_remove (inOrder : InOrder s) (now : ℕ) (key : K) :
    InOrder (touchingStep s (now,.remove key)).1 ↔ NothingLost s.1 (now,.remove key) := by
  cases found : s.1.data.get key with
  | none =>
      refine iff_of_true ?_ (by simp [NothingLost,Cache.containsKey,OrderedMap.has,found])
      simp only [touchingStep,step,Cache.remove,found,touched,List.append_nil]
      exact inOrder
  | some entry =>
      have here := OrderedMap.has_of_get found
      refine iff_of_false ?_ (by simp [NothingLost,Cache.containsKey,here])
      intro next
      simp only [touchingStep,step,Cache.remove,found] at next
      have held := inOrder.kept next rfl here
      simp [OrderedMap.has_delete] at held

theorem touchingStep_clear (inOrder : InOrder s) (now : ℕ) :
    InOrder (touchingStep s (now,.clear)).1 ↔ NothingLost s.1 (now,.clear) := by
  constructor
  · intro next
    simp only [NothingLost,Cache.isEmpty,Cache.len,beq_iff_eq,← OrderedMap.size_keys,List.length_eq_zero_iff]
    apply List.eq_nil_iff_forall_not_mem.mpr
    intro k member
    have held := inOrder.kept next rfl ((OrderedMap.has_iff _ k).mpr member)
    cases held
  · intro empty
    simp only [NothingLost,Cache.isEmpty,Cache.len,beq_iff_eq,OrderedMap.size,List.length_eq_zero_iff] at empty
    have none : s.1.data = .empty := OrderedMap.ext empty
    have lists := inOrder.lists
    have ordered := inOrder.ordered
    rw [none] at lists ordered
    refine ⟨lists,?_,Nat.zero_le _⟩
    simp only [touchingStep,step,touched,List.append_nil]
    exact ordered

theorem touchingStep_cleanup (inOrder : InOrder s) (now : ℕ) :
    InOrder (touchingStep s (now,.cleanupExpired)).1 ↔ NothingLost s.1 (now,.cleanupExpired) := by
  constructor
  · intro next entry member
    obtain ⟨k,found⟩ := (OrderedMap.mem_values _ _).mp member
    simp only [touchingStep,step,Cache.cleanupExpired_eq] at next
    have held := inOrder.kept next rfl (k := k) (OrderedMap.has_of_get found)
    simp only [OrderedMap.has,OrderedMap.get_filter,found] at held
    cases expired : entry.expired now with
    | false => rfl
    | true => simp [expired] at held
  · intro live
    have kept : s.1.data.filter (fun _ entry => !entry.expired now) = s.1.data := by
      apply OrderedMap.ext
      rw [OrderedMap.filter,List.filter_eq_self]
      intro entry member
      simp [live entry.2 (List.mem_map_of_mem member)]
    simp only [touchingStep,step,Cache.cleanupExpired_eq,kept,touched,List.append_nil]
    exact ⟨inOrder.lists,inOrder.ordered,inOrder.bounded⟩

theorem touchingStep_exact (inOrder : InOrder s) (policy : s.1.config.evictionPolicy = .lru)
    (capacity : 1 ≤ s.1.config.maxSize) (call : ℕ × Operation K V) :
    InOrder (touchingStep s call).1 ↔ NothingLost s.1 call := by
  obtain ⟨now,operation⟩ := call
  have same : InOrder (s.1,s.2 ++ []) := by rw [List.append_nil]; exact inOrder
  cases operation with
  | get key => exact touchingStep_get inOrder policy now key
  | insert key value chance => exact iff_of_true (inOrder.insertion policy capacity chance now key value _) trivial
  | insertWithTtl key value ttl chance =>
      exact iff_of_true (inOrder.insertion policy capacity chance now key value ttl) trivial
  | remove key => exact touchingStep_remove inOrder now key
  | clear => exact touchingStep_clear inOrder now
  | cleanupExpired => exact touchingStep_cleanup inOrder now
  | containsKey key => exact iff_of_true same trivial
  | len => exact iff_of_true same trivial
  | getStats => exact iff_of_true same trivial

end Steps

theorem lru_in_order_iff (config : CacheConfig) (policy : config.evictionPolicy = .lru) (capacity : 1 ≤ config.maxSize)
    (calls : List (ℕ × Operation K V)) :
    Throughout touchingStep InOrder (Cache.new config,[]) calls ∧
        Along touchingStep EvictsOldest (Cache.new config,[]) calls ↔
      Along step NothingLost (Cache.new config) calls := by
  have start : InOrder ((Cache.new config,[]) : Cache K V × List K) := ⟨.nil,rfl,Nat.zero_le _⟩
  have fixed : ∀ (s : Cache K V × List K) (call : ℕ × Operation K V), s.1.config = config →
      (touchingStep s call).1.1.config = config := by
    intro s call same
    rw [← same]
    exact step_config s.1 call
  have exactly : Throughout touchingStep InOrder (Cache.new config,[]) calls ↔
      Along touchingStep (fun s => NothingLost s.1) (Cache.new config,[]) calls := by
    apply throughout_exact fixed ?_ rfl start
    intro s call same inOrder
    subst config
    exact touchingStep_exact inOrder policy capacity call
  rw [along_projected Prod.fst (fun _ _ => rfl)] at exactly
  rw [← exactly]
  refine ⟨And.left,fun all => ⟨all,?_⟩⟩
  have configured : Along touchingStep (fun s _ => s.1.config = config) (Cache.new config,[]) calls :=
    along_of_valid (fun s call same (_ : True) => fixed s call same) (fun _ _ same => same) rfl (fun _ _ => trivial)
  apply all.along ?_ configured
  intro s call inOrder same
  subst config
  exact .of_inOrder inOrder policy capacity call

-- The history of `test_eviction`: the key that was looked up stays, the other leaves.
def still : Chance ℕ ℕ := ⟨id,fun _ => .refl _,fun _ => 0⟩

theorem lru_in_order_when_read :
    Throughout touchingStep InOrder (Cache.new { maxSize := 2, defaultTtl := none },[])
      [(0,.insert 1 10 still),(1,.insert 2 20 still),(2,.get 1),(3,.insert 3 30 still)] := by
  refine ((lru_in_order_iff { maxSize := 2, defaultTtl := none } rfl (by decide) _).mpr ?_).1
  refine ⟨trivial,trivial,?_,trivial,trivial⟩
  intro entry found
  cases found
  rfl

-- The queue keeps the removed key 1; its turn to be evicted lets 3 in beside 2.
theorem removed_key_breaks_capacity :
    ¬ (Throughout touchingStep InOrder (Cache.new { maxSize := 1, defaultTtl := none },[])
        [(0,.insert 1 10 still),(1,.remove 1),(2,.insert 2 20 still),(3,.insert 3 30 still)] ∧
      Along touchingStep EvictsOldest (Cache.new { maxSize := 1, defaultTtl := none },[])
        [(0,.insert 1 10 still),(1,.remove 1),(2,.insert 2 20 still),(3,.insert 3 30 still)]) := by
  intro both
  have bounded := both.1.final.bounded
  revert bounded
  decide

end PhantomFlow.Storage
