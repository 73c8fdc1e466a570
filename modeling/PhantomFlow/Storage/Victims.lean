import PhantomFlow.Storage.Coherence

namespace PhantomFlow.Storage
open Library Library.Machine
variable {K : Type u} {V : Type v} [DecidableEq K]

-- The hashes that a random choice compares are not all the largest number.
def Draws (chance : Chance K V) : Prop := ∀ fed, chance.finish fed < UInt64.ofNat (2 ^ 64 - 1)

def drawing (config : CacheConfig) : Operation K V → Prop
  | .insert _ _ chance => config.evictionPolicy = .random → Draws chance
  | .insertWithTtl _ _ _ chance => config.evictionPolicy = .random → Draws chance
  | _ => True

def Preferred (policy : EvictionPolicy) (victim other : Written V) : Prop :=
  (policy = .lfu → victim.uses ≤ other.uses) ∧ (policy = .ttl → victim.writtenAt ≤ other.writtenAt)

def EvictsPreferred (s : Cache K V × (K → Option (Written V))) (call : ℕ × Operation K V) : Prop :=
  ∀ key, insertedKey call.2 = some key → s.1.overflows key = true →
    ∃ victim written, s.2 victim = some written ∧ s.1.containsKey victim = true ∧
      (∀ k other, s.1.containsKey k = true → s.2 k = some other →
        Preferred s.1.config.evictionPolicy written other) ∧
      ∀ k, (step s.1 call).1.containsKey k = true ↔ k = key ∨ k ≠ victim ∧ s.1.containsKey k = true

section Choice

theorem minByKey_least {f : α → ℕ} {items : List α} (found : minByKey f items = some a) : ∀ b ∈ items, f a ≤ f b := by
  have folded : ∀ (rest : List α) (least : α), ∀ b ∈ least :: rest,
      f (rest.foldl (fun least b => if f b < f least then b else least) least) ≤ f b := by
    intro rest
    induction rest with
    | nil =>
        intro least b member
        rw [List.mem_singleton.mp member]
        exact le_refl _
    | cons first rest ih =>
        intro least b member
        rw [List.foldl_cons]
        have below := ih (if f first < f least then first else least) _ List.mem_cons_self
        have both : f (if f first < f least then first else least) ≤ f least ∧
            f (if f first < f least then first else least) ≤ f first := by
          split
          · omega
          · omega
        rcases List.mem_cons.mp member with rfl | later
        · exact Nat.le_trans below both.1
        · rcases List.mem_cons.mp later with rfl | last
          · exact Nat.le_trans below both.2
          · exact ih _ b (List.mem_cons_of_mem _ last)
  cases items with
  | nil => cases found
  | cons first rest => cases found; exact folded rest first

theorem minByKey_some (f : α → ℕ) {items : List α} (some' : items ≠ []) : ∃ a, minByKey f items = some a := by
  cases items with
  | nil => exact absurd rfl some'
  | cons first rest => exact ⟨_,rfl⟩

omit [DecidableEq K] in
theorem scanHashes_some (finish : List K → UInt64) (fed : List K) (minHash : UInt64) (key : K) (remaining : List K) :
    ∃ k, Cache.scanHashes finish fed minHash (some key) remaining = some k := by
  induction remaining generalizing fed minHash key with
  | nil => exact ⟨key,rfl⟩
  | cons next rest ih =>
      rw [Cache.scanHashes]
      split
      · exact ih _ _ next
      · exact ih _ _ key

omit [DecidableEq K] in
theorem getRandomKey_some {chance : Chance K V} (draws : Draws chance) {data : OrderedMap K (CacheEntry V)}
    (some' : chance.iteration data.entries ≠ []) : ∃ key, Cache.getRandomKey chance data = some key := by
  unfold Cache.getRandomKey
  cases iterated : chance.iteration data.entries with
  | nil => exact absurd iterated some'
  | cons first rest =>
      rw [List.map_cons,Cache.scanHashes]
      rw [if_pos (draws _)]
      exact scanHashes_some _ _ _ _ _

end Choice

section Victims
variable {cache : Cache K V}

theorem minByKey_chosen {iteration : List (K × CacheEntry V)} (f : K × CacheEntry V → ℕ)
    (some' : iteration ≠ []) (iterated : ∀ k entry, (k,entry) ∈ iteration ↔ cache.data.get k = some entry) :
    ∃ victim entry, (minByKey f iteration).map Prod.fst = some victim ∧ cache.data.get victim = some entry ∧
      ∀ k other, cache.data.get k = some other → f (victim,entry) ≤ f (k,other) := by
  obtain ⟨⟨victim,entry⟩,least⟩ := minByKey_some f some'
  refine ⟨victim,entry,?_,(iterated _ _).mp (minByKey_mem least),?_⟩
  · rw [least]
    rfl
  · exact fun k other found => minByKey_least least (k,other) ((iterated k other).mpr found)

theorem keyToEvict_preferred {chance : Chance K V} (queue : cache.config.evictionPolicy ≠ .lru)
    (draws : cache.config.evictionPolicy = .random → Draws chance) (held : 0 < cache.data.size) :
    ∃ victim entry, (cache.keyToEvict chance).1 = some victim ∧ cache.data.get victim = some entry ∧
      ∀ k other, cache.data.get k = some other →
        Preferred cache.config.evictionPolicy entry.written other.written := by
  have permuted := chance.permutes cache.data.entries
  have some' : chance.iteration cache.data.entries ≠ [] := by
    intro empty
    rw [empty] at permuted
    have none := permuted.length_eq
    rw [OrderedMap.size] at held
    rw [List.length_nil] at none
    omega
  have iterated : ∀ k entry, (k,entry) ∈ chance.iteration cache.data.entries ↔ cache.data.get k = some entry := by
    intro k entry
    rw [OrderedMap.get_exact]
    exact permuted.mem_iff
  cases policy : cache.config.evictionPolicy with
  | lru => exact absurd policy queue
  | lfu =>
      obtain ⟨victim,entry,chosen,found,least⟩ := minByKey_chosen (fun e => e.2.accessCount) some' iterated
      refine ⟨victim,entry,?_,found,fun k other held => ?_⟩
      · rw [Cache.keyToEvict,policy]
        exact chosen
      · exact ⟨fun _ => least k other held,fun another => absurd another (by decide)⟩
  | ttl =>
      obtain ⟨victim,entry,chosen,found,least⟩ := minByKey_chosen (fun e => e.2.createdAt) some' iterated
      refine ⟨victim,entry,?_,found,fun k other held => ?_⟩
      · rw [Cache.keyToEvict,policy]
        exact chosen
      · exact ⟨fun another => absurd another (by decide),fun _ => least k other held⟩
  | random =>
      obtain ⟨victim,chosen⟩ := getRandomKey_some (draws policy) some'
      have named : (cache.keyToEvict chance).1 = some victim := by rw [Cache.keyToEvict,policy]; exact chosen
      have present : cache.data.has victim = true := by
        rcases keyToEvict_held named with present | ⟨recency,_⟩
        · exact present
        · exact absurd recency queue
      obtain ⟨entry,found⟩ := Option.isSome_iff_exists.mp present
      refine ⟨victim,entry,named,found,fun _ _ _ => ?_⟩
      exact ⟨fun another => absurd another (by decide),fun another => absurd another (by decide)⟩

theorem evictEntry_data {chance : Chance K V} (chosen : (cache.keyToEvict chance).1 = some victim) :
    (cache.evictEntry chance).data = cache.data.delete victim := by
  unfold Cache.evictEntry
  split
  · rename_i key order named
    rw [named] at chosen
    cases chosen
    rfl
  · rename_i order named
    rw [named] at chosen
    cases chosen

theorem size_insert (chance : Chance K V) (now : ℕ) (key : K) (value : V) (ttl : Option ℕ)
    (queue : cache.config.evictionPolicy ≠ .lru) (draws : cache.config.evictionPolicy = .random → Draws chance)
    (capacity : 1 ≤ cache.config.maxSize) (bounded : cache.len ≤ cache.config.maxSize) :
    (cache.insertWithTtl chance now key value ttl).2.len ≤ cache.config.maxSize := by
  unfold Cache.len at bounded
  unfold Cache.insertWithTtl
  split
  · rename_i overflows
    rw [Cache.overflows,Bool.and_eq_true,decide_eq_true_iff] at overflows
    obtain ⟨victim,entry,chosen,found,_⟩ := keyToEvict_preferred queue draws (by omega)
    have smaller := OrderedMap.size_delete cache.data victim
    rw [if_pos (OrderedMap.has_of_get found)] at smaller
    change ((cache.evictEntry chance).data.set key _).size ≤ _
    rw [evictEntry_data chosen,OrderedMap.size_set]
    split
    · omega
    · omega
  · rename_i fits
    change (cache.data.set key _).size ≤ _
    rw [OrderedMap.size_set]
    split
    · exact bounded
    · rename_i absent
      simp only [Cache.overflows,Bool.and_eq_true,decide_eq_true_iff,not_and,Bool.not_eq_true'] at fits
      by_contra full
      exact absurd (fits (by omega)) (by simpa using absent)

theorem insertion_evicts {store : K → Option (Written V)} (coherent : Coherent cache store) {chance : Chance K V}
    (queue : cache.config.evictionPolicy ≠ .lru) (draws : cache.config.evictionPolicy = .random → Draws chance)
    (capacity : 1 ≤ cache.config.maxSize) (overflows : cache.overflows key = true) (now : ℕ) (value : V) (ttl : Option ℕ) :
    ∃ victim written, store victim = some written ∧ cache.containsKey victim = true ∧
      (∀ k other, cache.containsKey k = true → store k = some other →
        Preferred cache.config.evictionPolicy written other) ∧
      ∀ k, (cache.insertWithTtl chance now key value ttl).2.containsKey k = true ↔
        k = key ∨ k ≠ victim ∧ cache.containsKey k = true := by
  have full := overflows
  rw [Cache.overflows,Bool.and_eq_true,decide_eq_true_iff] at full
  obtain ⟨victim,entry,chosen,found,preferred⟩ := keyToEvict_preferred queue draws (by omega)
  refine ⟨victim,entry.written,coherent victim entry found,OrderedMap.has_of_get found,?_,?_⟩
  · intro k other held record
    obtain ⟨entry',found'⟩ := Option.isSome_iff_exists.mp held
    rw [coherent k entry' found'] at record
    cases record
    exact preferred k entry' found'
  · intro k
    rw [Cache.insertWithTtl,if_pos overflows]
    change ((cache.evictEntry chance).data.set key _).has k = true ↔ _
    rw [evictEntry_data chosen,OrderedMap.has_set,OrderedMap.has_delete,Bool.or_eq_true,Bool.and_eq_true,
      decide_eq_true_iff,decide_eq_true_iff]
    rfl

theorem step_bounded (call : ℕ × Operation K V) (draws : drawing cache.config call.2)
    (queue : cache.config.evictionPolicy ≠ .lru) (capacity : 1 ≤ cache.config.maxSize)
    (bounded : cache.len ≤ cache.config.maxSize) : (step cache call).1.len ≤ cache.config.maxSize := by
  obtain ⟨now,operation⟩ := call
  have deleted : ∀ key, (cache.data.delete key).size ≤ cache.config.maxSize := by
    intro key
    have smaller := OrderedMap.size_delete cache.data key
    unfold Cache.len at bounded
    omega
  cases operation with
  | insert key value chance => exact size_insert chance now key value _ queue draws capacity bounded
  | insertWithTtl key value ttl chance => exact size_insert chance now key value ttl queue draws capacity bounded
  | get key =>
      change (cache.get now key).2.len ≤ _
      cases found : cache.data.get key with
      | none => rw [Cache.get_absent found]; exact bounded
      | some entry =>
          cases expired : entry.expired now with
          | true => rw [Cache.get_expired found expired]; exact deleted key
          | false =>
              rw [Cache.get_hit found expired]
              change (cache.data.set key _).size ≤ _
              rw [OrderedMap.size_set,if_pos (OrderedMap.has_of_get found)]
              exact bounded
  | remove key =>
      change (cache.remove key).2.len ≤ _
      unfold Cache.remove
      split
      · exact deleted key
      · exact bounded
  | clear => exact Nat.zero_le _
  | cleanupExpired =>
      have parts := OrderedMap.size_filter cache.data (fun _ entry => entry.expired now)
      rw [step,Cache.cleanupExpired_eq]
      change (cache.data.filter (fun _ entry => !entry.expired now)).size ≤ _
      unfold Cache.len at bounded
      omega
  | containsKey key => exact bounded
  | len => exact bounded
  | getStats => exact bounded

end Victims

structure Sound (config : CacheConfig) (s : Cache K V × (K → Option (Written V))) : Prop where
  configured : s.1.config = config
  coherent : Coherent s.1 s.2
  bounded : s.1.len ≤ s.1.config.maxSize

section Runs
variable {config : CacheConfig} {s : Cache K V × (K → Option (Written V))} {call : ℕ × Operation K V}

theorem Sound.step (sound : Sound config s) (queue : config.evictionPolicy ≠ .lru) (capacity : 1 ≤ config.maxSize)
    (draws : drawing config call.2) : Sound config (withLedger step (recordCall config) s call).1 := by
  obtain ⟨rfl,coherent,bounded⟩ := sound
  refine ⟨step_config s.1 call,step_coherent coherent call,?_⟩
  change (Storage.step s.1 call).1.len ≤ (Storage.step s.1 call).1.config.maxSize
  rw [step_config]
  exact step_bounded call draws queue capacity bounded

theorem Sound.evicts (sound : Sound config s) (queue : config.evictionPolicy ≠ .lru) (capacity : 1 ≤ config.maxSize)
    (draws : drawing config call.2) : EvictsPreferred s call := by
  obtain ⟨rfl,coherent,bounded⟩ := sound
  obtain ⟨now,operation⟩ := call
  intro key inserted overflows
  cases operation with
  | insert key' value chance =>
      cases inserted
      exact insertion_evicts coherent queue draws capacity overflows now value _
  | insertWithTtl key' value ttl chance =>
      cases inserted
      exact insertion_evicts coherent queue draws capacity overflows now value ttl
  | _ => cases inserted

end Runs

-- Under every policy but the recency queue the map never outgrows its capacity, and an
-- insertion that does not fit takes out one single key: the one least often found, or
-- the one written first, of all that are held.
theorem evictions_preferred (config : CacheConfig) (queue : config.evictionPolicy ≠ .lru) (capacity : 1 ≤ config.maxSize)
    (calls : List (ℕ × Operation K V)) (draws : ∀ call ∈ calls, drawing config call.2) :
    Along (withLedger step (recordCall config)) EvictsPreferred (Cache.new config,fun _ => none) calls ∧
      Throughout step (fun cache => cache.len ≤ config.maxSize) (Cache.new config) calls := by
  have start : Sound config ((Cache.new config : Cache K V),fun _ => none) :=
    ⟨rfl,fun _ _ found => (nomatch found),Nat.zero_le _⟩
  constructor
  · have drawn : Along (withLedger step (recordCall config)) (fun _ call => drawing config call.2)
        ((Cache.new config : Cache K V),fun _ => none) calls := along_of_forall draws
    have sound := throughout_of_along (fun s call (sound : Sound config s) drawn => sound.step queue capacity drawn)
      start drawn
    exact sound.along (fun s call sound drawn => sound.evicts queue capacity drawn) drawn
  · have bounded : Throughout step (fun cache => cache.config = config ∧ cache.len ≤ config.maxSize) (Cache.new config)
        calls := by
      refine throughout_of_along ?_ ⟨rfl,Nat.zero_le _⟩ (along_of_forall draws)
      intro cache call both drawn
      obtain ⟨rfl,bounded⟩ := both
      exact ⟨step_config cache call,step_bounded call drawn queue capacity bounded⟩
    exact bounded.mono (fun _ both => both.2)

def foundOnce : List (ℕ × Operation ℕ ℕ) :=
  [(0,.insert 1 10 still),(1,.insert 2 20 still),(2,.get 1),(3,.insert 3 30 still)]

theorem evictions_preferred_found :
    Along (withLedger step (recordCall { maxSize := 2, evictionPolicy := .lfu })) EvictsPreferred
        (Cache.new { maxSize := 2, evictionPolicy := .lfu },fun _ => none) foundOnce ∧
      Throughout step (fun cache => cache.len ≤ 2) (Cache.new { maxSize := 2, evictionPolicy := .lfu }) foundOnce :=
  evictions_preferred { maxSize := 2, evictionPolicy := .lfu } (by decide) (by decide) foundOnce
    (by simp [foundOnce,drawing])

end PhantomFlow.Storage
