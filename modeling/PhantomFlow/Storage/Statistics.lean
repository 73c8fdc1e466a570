import PhantomFlow.Library.Machine
import PhantomFlow.Storage.Cache

namespace PhantomFlow.Storage
open Library Library.Machine
variable {K : Type u} {V : Type v} [DecidableEq K]

@[mk_iff] structure Balanced (cache : Cache K V) : Prop where
  requests : cache.stats.hits + cache.stats.misses = cache.stats.totalRequests
  entries : (cache.stats.insertions : ℤ) - cache.stats.deletions - cache.stats.evictions = cache.len

def LiveVictim (cache : Cache K V) (key : K) : Prop :=
  cache.config.evictionPolicy = .lru → cache.overflows key = true →
    ∀ oldest, cache.accessOrder.head? = some oldest → cache.containsKey oldest = true

def Counted (cache : Cache K V) (call : ℕ × Operation K V) : Prop :=
  match call.2 with
  | .get key => ∀ entry, cache.data.get key = some entry → entry.expired call.1 = false
  | .insert key _ _ => LiveVictim cache key
  | .insertWithTtl key _ _ _ => LiveVictim cache key
  | .clear => cache.isEmpty = true
  | _ => True

section Victims

theorem minByKey_mem {f : α → ℕ} {items : List α} (found : minByKey f items = some a) : a ∈ items := by
  have folded : ∀ (rest : List α) (least : α),
      rest.foldl (fun least b => if f b < f least then b else least) least ∈ least :: rest := by
    intro rest
    induction rest with
    | nil => intro least; simp
    | cons b rest ih =>
        intro least
        rw [List.foldl_cons]
        split
        · exact List.mem_cons_of_mem least (ih b)
        · rcases List.mem_cons.mp (ih least) with same | later
          · rw [same]; exact List.mem_cons_self
          · exact List.mem_cons_of_mem least (List.mem_cons_of_mem b later)
  cases items with
  | nil => cases found
  | cons first rest => cases found; exact folded rest first

omit [DecidableEq K] in
theorem scanHashes_mem {finish : List K → UInt64} {remaining : List K}
    (found : Cache.scanHashes finish fed minHash selected remaining = some key) :
    selected = some key ∨ key ∈ remaining := by
  induction remaining generalizing fed minHash selected with
  | nil => exact .inl found
  | cons k rest ih =>
      rw [Cache.scanHashes] at found
      split at found
      · rcases ih found with same | later
        · cases same; exact .inr List.mem_cons_self
        · exact .inr (List.mem_cons_of_mem k later)
      · rcases ih found with same | later
        · exact .inl same
        · exact .inr (List.mem_cons_of_mem k later)

theorem has_of_iterated (chance : Chance K V) {data : OrderedMap K (CacheEntry V)}
    (member : key ∈ (chance.iteration data.entries).map Prod.fst) : data.has key = true := by
  rw [OrderedMap.has_iff]
  exact ((chance.permutes data.entries).map Prod.fst).mem_iff.mp member

theorem has_minByKey (chance : Chance K V) {data : OrderedMap K (CacheEntry V)} {f : K × CacheEntry V → ℕ}
    (found : (minByKey f (chance.iteration data.entries)).map Prod.fst = some key) : data.has key = true := by
  obtain ⟨entry,least,rfl⟩ := Option.map_eq_some_iff.mp found
  exact has_of_iterated chance (List.mem_map_of_mem (minByKey_mem least))

-- Only the recency queue can name a key that the map does not hold.
theorem keyToEvict_held {cache : Cache K V} {chance : Chance K V} (chosen : (cache.keyToEvict chance).1 = some key) :
    cache.data.has key = true ∨ cache.config.evictionPolicy = .lru ∧ cache.accessOrder.head? = some key := by
  unfold Cache.keyToEvict at chosen
  split at chosen
  · rename_i policy
    exact .inr ⟨policy,chosen⟩
  · exact .inl (has_minByKey chance chosen)
  · exact .inl (has_minByKey chance chosen)
  · rcases scanHashes_mem chosen with impossible | member
    · cases impossible
    · exact .inl (has_of_iterated chance member)

end Victims

section Steps
variable {cache : Cache K V}

theorem evictEntry_balanced (balanced : Balanced cache) (chance : Chance K V) :
    Balanced (cache.evictEntry chance) ↔
      (cache.config.evictionPolicy = .lru →
        ∀ oldest, cache.accessOrder.head? = some oldest → cache.containsKey oldest = true) := by
  have entries := balanced.entries
  rw [Cache.len] at entries
  have requests := balanced.requests
  cases chosen : cache.keyToEvict chance with
  | mk victim order =>
  cases victim with
  | none =>
      refine iff_of_true ?_ ?_
      · simp only [Cache.evictEntry,chosen]
        exact ⟨requests,entries⟩
      · intro policy oldest head
        simp only [Cache.keyToEvict,policy,Cache.getLruKey,Prod.mk.injEq] at chosen
        rw [chosen.1] at head
        cases head
  | some key =>
      have smaller := OrderedMap.size_delete cache.data key
      have result : Balanced (cache.evictEntry chance) ↔ cache.data.has key = true := by
        simp only [Cache.evictEntry,chosen]
        constructor
        · intro after
          have left := after.entries
          simp only [Cache.len] at left
          by_contra absent
          rw [if_neg absent] at smaller
          omega
        · intro present
          rw [if_pos present] at smaller
          refine ⟨requests,?_⟩
          simp only [Cache.len]
          omega
      rw [result]
      constructor
      · intro present policy oldest head
        simp only [Cache.keyToEvict,policy,Cache.getLruKey,Prod.mk.injEq] at chosen
        rw [chosen.1] at head
        cases head
        exact present
      · intro live
        rcases keyToEvict_held (by rw [chosen]) with held | ⟨policy,head⟩
        · exact held
        · exact live policy key head

theorem place_balanced (now : ℕ) (key : K) (value : V) (ttl : Option ℕ) :
    Balanced (cache.place now key value ttl).2 ↔ Balanced cache := by
  have grown := OrderedMap.size_set cache.data key ⟨value,now,now,1,ttl⟩
  cases found : cache.data.get key with
  | none =>
      have absent := OrderedMap.has_of_get_none found
      rw [absent] at grown
      simp only [balanced_iff,Cache.place,found,Option.map_none,Option.isNone_none,if_true,Cache.len,grown]
      push_cast
      omega
  | some entry =>
      have present := OrderedMap.has_of_get found
      rw [present] at grown
      simp only [balanced_iff,Cache.place,found,Option.map_some,Option.isNone_some,Cache.len,grown]
      rfl

theorem insertWithTtl_balanced (balanced : Balanced cache) (chance : Chance K V) (now : ℕ) (key : K) (value : V)
    (ttl : Option ℕ) : Balanced (cache.insertWithTtl chance now key value ttl).2 ↔ LiveVictim cache key := by
  rw [Cache.insertWithTtl,place_balanced]
  cases overflows : cache.overflows key with
  | false => exact iff_of_true balanced (by intro _ impossible; rw [overflows] at impossible; cases impossible)
  | true =>
      change Balanced (cache.evictEntry chance) ↔ _
      rw [evictEntry_balanced balanced]
      constructor
      · intro live policy _
        exact live policy
      · intro live policy
        exact live policy overflows

theorem step_balanced (enabled : cache.config.enableStats = true) (balanced : Balanced cache)
    (call : ℕ × Operation K V) : Balanced (step cache call).1 ↔ Counted cache call := by
  obtain ⟨now,operation⟩ := call
  have before := balanced
  rw [balanced_iff,Cache.len] at before
  cases operation with
  | get key =>
      cases found : cache.data.get key with
      | none =>
          refine iff_of_true ?_ (by intro entry found'; rw [found] at found'; cases found')
          simp only [step,Cache.get_absent found,enabled,if_true,balanced_iff,Cache.requested,Cache.len]
          omega
      | some entry =>
          have here := OrderedMap.has_of_get found
          cases expired : entry.expired now with
          | true =>
              have smaller := OrderedMap.size_delete cache.data key
              rw [if_pos here] at smaller
              refine iff_of_false ?_ (fun live => by simpa [expired] using live entry found)
              simp only [step,Cache.get_expired found expired,balanced_iff,Cache.requested,Cache.len]
              omega
          | false =>
              refine iff_of_true ?_ (by intro entry' found'; rw [found] at found'; cases found'; exact expired)
              simp only [step,Cache.get_hit found expired,enabled,if_true,balanced_iff,Cache.requested,Cache.len,
                OrderedMap.size_set,here]
              omega
  | insert key value chance => exact insertWithTtl_balanced balanced chance now key value _
  | insertWithTtl key value ttl chance => exact insertWithTtl_balanced balanced chance now key value ttl
  | remove key =>
      refine iff_of_true ?_ trivial
      cases found : cache.data.get key with
      | none =>
          simp only [step,Cache.remove,found]
          exact balanced
      | some entry =>
          have smaller := OrderedMap.size_delete cache.data key
          rw [if_pos (OrderedMap.has_of_get found)] at smaller
          simp only [step,Cache.remove,found,balanced_iff,Cache.len]
          push_cast
          omega
  | clear =>
      simp only [step,Cache.clear,Counted,Cache.isEmpty,balanced_iff,Cache.len,OrderedMap.empty,beq_iff_eq,
        OrderedMap.size,List.length_nil] at before ⊢
      omega
  | cleanupExpired =>
      refine iff_of_true ?_ trivial
      have parts := OrderedMap.size_filter cache.data (fun _ entry => entry.expired now)
      simp only [step,Cache.cleanupExpired_eq,Cache.expiredKeys,List.length_map,balanced_iff,Cache.len]
      push_cast
      omega
  | _ => exact iff_of_true balanced trivial

theorem step_requests (enabled : cache.config.enableStats = true) (call : ℕ × Operation K V)
    (requests : cache.stats.hits + cache.stats.misses = cache.stats.totalRequests) :
    (step cache call).1.stats.hits + (step cache call).1.stats.misses = (step cache call).1.stats.totalRequests := by
  obtain ⟨now,operation⟩ := call
  have evicted : ∀ chance, (cache.evictEntry chance).stats.hits + (cache.evictEntry chance).stats.misses =
      (cache.evictEntry chance).stats.totalRequests := by
    intro chance
    unfold Cache.evictEntry
    split <;> exact requests
  have placed : ∀ (other : Cache K V) key value ttl,
      other.stats.hits + other.stats.misses = other.stats.totalRequests →
        (other.place now key value ttl).2.stats.hits + (other.place now key value ttl).2.stats.misses =
          (other.place now key value ttl).2.stats.totalRequests := by
    intro other key value ttl same
    simp only [Cache.place]
    split <;> exact same
  have inserted : ∀ key value ttl chance, (cache.insertWithTtl chance now key value ttl).2.stats.hits +
      (cache.insertWithTtl chance now key value ttl).2.stats.misses =
        (cache.insertWithTtl chance now key value ttl).2.stats.totalRequests := by
    intro key value ttl chance
    rw [Cache.insertWithTtl]
    split
    · exact placed _ key value ttl (evicted chance)
    · exact placed _ key value ttl requests
  cases operation with
  | get key =>
      simp only [step,Cache.get,enabled,if_true]
      split
      · split <;> simp only <;> omega
      · simp only; omega
  | insert key value chance => exact inserted key value _ chance
  | insertWithTtl key value ttl chance => exact inserted key value ttl chance
  | remove key =>
      simp only [step,Cache.remove]
      split <;> exact requests
  | _ => exact requests

end Steps

theorem statistics_balance_iff (config : CacheConfig) (enabled : config.enableStats = true)
    (calls : List (ℕ × Operation K V)) :
    Throughout step (fun cache => cache.stats.hits + cache.stats.misses = cache.stats.totalRequests)
        (Cache.new config) calls ∧
      (Throughout step Balanced (Cache.new config) calls ↔ Along step Counted (Cache.new config) calls) := by
  have fixed : ∀ (cache : Cache K V) (call : ℕ × Operation K V), cache.config = config →
      (step cache call).1.config = config := by
    intro cache call same
    rw [← same]
    exact step_config cache call
  constructor
  · have both : Throughout step (fun cache => cache.config = config ∧
        cache.stats.hits + cache.stats.misses = cache.stats.totalRequests) (Cache.new config : Cache K V) calls := by
      apply throughout_of_preserved ?_ ⟨rfl,rfl⟩
      intro cache call both
      refine ⟨fixed cache call both.1,step_requests ?_ call both.2⟩
      rw [both.1]
      exact enabled
    exact both.mono (fun _ all => all.2)
  · apply throughout_exact fixed ?_ rfl ⟨rfl,rfl⟩
    intro cache call same balanced
    subst config
    exact step_balanced enabled balanced call

theorem statistics_balance_lfu :
    Throughout step Balanced (Cache.new { maxSize := 1, evictionPolicy := .lfu } : Cache ℕ ℕ)
      [(0,.insert 1 10 ⟨id,fun _ => .refl _,fun _ => 0⟩),(1,.insert 2 20 ⟨id,fun _ => .refl _,fun _ => 0⟩),
        (2,.remove 2)] := by
  refine (statistics_balance_iff { maxSize := 1, evictionPolicy := .lfu } rfl _).2.mpr ?_
  refine ⟨?_,?_,trivial,trivial⟩
  · intro policy
    cases policy
  · intro policy
    cases policy

-- The entry that the lookup finds expired leaves uncounted.
theorem expired_lookup_uncounted :
    ¬ Throughout step Balanced (Cache.new {} : Cache ℕ ℕ)
      [(0,.insertWithTtl 1 10 (some 5) ⟨id,fun _ => .refl _,fun _ => 0⟩),(10,.get 1)] := by
  intro all
  have entries := all.final.entries
  revert entries
  decide

end PhantomFlow.Storage
