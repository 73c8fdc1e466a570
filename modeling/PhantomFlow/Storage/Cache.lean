import PhantomFlow.Library.OrderedMap

namespace PhantomFlow.Storage
open Library

inductive EvictionPolicy where
  | lru | lfu | ttl | random
deriving DecidableEq

structure CacheConfig where
  maxSize : ℕ := 1000
  defaultTtl : Option ℕ := some 3600000000000
  evictionPolicy : EvictionPolicy := .lru
  enableStats : Bool := true

-- Instants and durations are nanoseconds.
structure CacheEntry (V : Type v) where
  value : V
  createdAt : ℕ
  lastAccessed : ℕ
  accessCount : ℕ
  ttl : Option ℕ
deriving DecidableEq

structure CacheStats where
  hits : ℕ := 0
  misses : ℕ := 0
  evictions : ℕ := 0
  insertions : ℕ := 0
  deletions : ℕ := 0
  currentSize : ℕ := 0
  totalRequests : ℕ := 0
deriving DecidableEq

structure Cache (K : Type u) (V : Type v) where
  data : OrderedMap K (CacheEntry V)
  accessOrder : List K
  config : CacheConfig
  stats : CacheStats

-- What one call may meet of chance: the order in which the hash map is iterated,
-- and the value of a newly seeded hasher after it has been fed some keys.
structure Chance (K : Type u) (V : Type v) where
  iteration : List (K × CacheEntry V) → List (K × CacheEntry V)
  permutes : ∀ entries, (iteration entries).Perm entries
  finish : List K → UInt64

def CacheEntry.expired (entry : CacheEntry V) (now : ℕ) : Bool :=
  match entry.ttl with
  | some ttl => ttl < now - entry.createdAt
  | none => false

-- The first of the least elements.
def minByKey (f : α → ℕ) : List α → Option α
  | [] => none
  | a :: rest => some (rest.foldl (fun least b => if f b < f least then b else least) a)

namespace Cache
variable {K : Type u} {V : Type v} [DecidableEq K]

def new (config : CacheConfig) : Cache K V := ⟨.empty,[],config,{}⟩

def updateAccessOrder (order : List K) (key : K) : List K := order.filter (fun k => decide (k ≠ key)) ++ [key]

def getLruKey (order : List K) : Option K × List K := (order.head?,order.tail)

def getLfuKey (chance : Chance K V) (data : OrderedMap K (CacheEntry V)) : Option K :=
  (minByKey (fun entry => entry.2.accessCount) (chance.iteration data.entries)).map Prod.fst

def getOldestKey (chance : Chance K V) (data : OrderedMap K (CacheEntry V)) : Option K :=
  (minByKey (fun entry => entry.2.createdAt) (chance.iteration data.entries)).map Prod.fst

-- The hasher is not reset between the keys: `fed` are the ones it has read.
def scanHashes (finish : List K → UInt64) (fed : List K) (minHash : UInt64) (selected : Option K) :
    List K → Option K
  | [] => selected
  | key :: rest =>
    let hash := finish (fed ++ [key])
    if hash < minHash then scanHashes finish (fed ++ [key]) hash (some key) rest
    else scanHashes finish (fed ++ [key]) minHash selected rest

def getRandomKey (chance : Chance K V) (data : OrderedMap K (CacheEntry V)) : Option K :=
  scanHashes chance.finish [] (UInt64.ofNat (2 ^ 64 - 1)) none ((chance.iteration data.entries).map Prod.fst)

def keyToEvict (cache : Cache K V) (chance : Chance K V) : Option K × List K :=
  match cache.config.evictionPolicy with
  | .lru => getLruKey cache.accessOrder
  | .lfu => (getLfuKey chance cache.data,cache.accessOrder)
  | .ttl => (getOldestKey chance cache.data,cache.accessOrder)
  | .random => (getRandomKey chance cache.data,cache.accessOrder)

-- The eviction is counted whether or not the map held the key.
def evictEntry (cache : Cache K V) (chance : Chance K V) : Cache K V :=
  match cache.keyToEvict chance with
  | (some key,order) =>
    { cache with
      data := cache.data.delete key
      accessOrder := order
      stats := { cache.stats with evictions := cache.stats.evictions + 1 } }
  | (none,order) => { cache with accessOrder := order }

def get (cache : Cache K V) (now : ℕ) (key : K) : Option V × Cache K V :=
  let stats := { cache.stats with totalRequests := cache.stats.totalRequests + 1 }
  match cache.data.get key with
  | some entry =>
    if entry.expired now then
      (none,{ cache with data := cache.data.delete key, stats := { stats with misses := stats.misses + 1 } })
    else
      let entry' := { entry with lastAccessed := now, accessCount := entry.accessCount + 1 }
      (some entry.value,
        { cache with
          data := cache.data.set key entry'
          accessOrder :=
            if cache.config.evictionPolicy = .lru then updateAccessOrder cache.accessOrder key else cache.accessOrder
          stats := if cache.config.enableStats then { stats with hits := stats.hits + 1 } else stats })
  | none =>
    (none,{ cache with stats := if cache.config.enableStats then { stats with misses := stats.misses + 1 } else stats })

def overflows (cache : Cache K V) (key : K) : Bool :=
  decide (cache.config.maxSize ≤ cache.data.size) && !cache.data.has key

def place (cache : Cache K V) (now : ℕ) (key : K) (value : V) (ttl : Option ℕ) : Option V × Cache K V :=
  let oldValue := (cache.data.get key).map CacheEntry.value
  let data := cache.data.set key ⟨value,now,now,1,ttl⟩
  (oldValue,
    { cache with
      data := data
      accessOrder :=
        if cache.config.evictionPolicy = .lru then updateAccessOrder cache.accessOrder key else cache.accessOrder
      stats :=
        if oldValue.isNone then
          { cache.stats with insertions := cache.stats.insertions + 1, currentSize := data.size }
        else cache.stats })

def insertWithTtl (cache : Cache K V) (chance : Chance K V) (now : ℕ) (key : K) (value : V) (ttl : Option ℕ) :
    Option V × Cache K V :=
  (if cache.overflows key then cache.evictEntry chance else cache).place now key value ttl

def insert (cache : Cache K V) (chance : Chance K V) (now : ℕ) (key : K) (value : V) : Option V × Cache K V :=
  cache.insertWithTtl chance now key value cache.config.defaultTtl

def remove (cache : Cache K V) (key : K) : Option V × Cache K V :=
  match cache.data.get key with
  | some entry =>
    let data := cache.data.delete key
    (some entry.value,
      { cache with
        data := data
        stats := { cache.stats with deletions := cache.stats.deletions + 1, currentSize := data.size } })
  | none => (none,cache)

def containsKey (cache : Cache K V) (key : K) : Bool := cache.data.has key
def len (cache : Cache K V) : ℕ := cache.data.size
def isEmpty (cache : Cache K V) : Bool := cache.len == 0

-- The map is emptied before its length is added.
def clear (cache : Cache K V) : Cache K V :=
  let data : OrderedMap K (CacheEntry V) := .empty
  { cache with
    data := data
    stats := { cache.stats with currentSize := 0, evictions := cache.stats.evictions + data.size } }

def expiredKeys (cache : Cache K V) (now : ℕ) : List K :=
  (cache.data.entries.filter (fun entry => entry.2.expired now)).map Prod.fst

def cleanupExpired (cache : Cache K V) (now : ℕ) : ℕ × Cache K V :=
  let keys := cache.expiredKeys now
  let data := keys.foldl OrderedMap.delete cache.data
  (keys.length,
    { cache with
      data := data
      stats := { cache.stats with evictions := cache.stats.evictions + keys.length, currentSize := data.size } })

def getStats (cache : Cache K V) : CacheStats := { cache.stats with currentSize := cache.data.size }

def requested (cache : Cache K V) : CacheStats := { cache.stats with totalRequests := cache.stats.totalRequests + 1 }

theorem get_absent {cache : Cache K V} (absent : cache.data.get key = none) (now : ℕ) :
    cache.get now key =
      (none,{ cache with
        stats :=
          if cache.config.enableStats then { cache.requested with misses := cache.stats.misses + 1 }
          else cache.requested }) := by
  simp [get,absent,requested]

theorem get_expired {cache : Cache K V} (found : cache.data.get key = some entry) (expired : entry.expired now = true) :
    cache.get now key =
      (none,{ cache with
        data := cache.data.delete key
        stats := { cache.requested with misses := cache.stats.misses + 1 } }) := by
  simp [get,found,expired,requested]

theorem get_hit {cache : Cache K V} (found : cache.data.get key = some entry) (live : entry.expired now = false) :
    cache.get now key =
      (some entry.value,{ cache with
        data := cache.data.set key { entry with lastAccessed := now, accessCount := entry.accessCount + 1 }
        accessOrder :=
          if cache.config.evictionPolicy = .lru then updateAccessOrder cache.accessOrder key else cache.accessOrder
        stats :=
          if cache.config.enableStats then { cache.requested with hits := cache.stats.hits + 1 }
          else cache.requested }) := by
  simp [get,found,live,requested]

theorem cleanupExpired_eq (cache : Cache K V) (now : ℕ) :
    cache.cleanupExpired now =
      ((cache.expiredKeys now).length,{ cache with
        data := cache.data.filter (fun _ entry => !entry.expired now)
        stats := { cache.stats with
          evictions := cache.stats.evictions + (cache.expiredKeys now).length
          currentSize := (cache.data.filter (fun _ entry => !entry.expired now)).size } }) := by
  have left := OrderedMap.foldl_delete cache.data (fun _ entry => entry.expired now)
  simp only [cleanupExpired,expiredKeys] at left ⊢
  rw [left]

end Cache

inductive Operation (K : Type u) (V : Type v) where
  | get (key : K)
  | insert (key : K) (value : V) (chance : Chance K V)
  | insertWithTtl (key : K) (value : V) (ttl : Option ℕ) (chance : Chance K V)
  | remove (key : K)
  | clear
  | cleanupExpired
  | containsKey (key : K)
  | len
  | getStats

inductive Answer (V : Type v) where
  | value (found : Option V)
  | count (n : ℕ)
  | flag (b : Bool)
  | stats (stats : CacheStats)
  | done

def step {K : Type u} {V : Type v} [DecidableEq K] (cache : Cache K V) (call : ℕ × Operation K V) :
    Cache K V × Answer V :=
  match call.2 with
  | .get key => ((cache.get call.1 key).2,.value (cache.get call.1 key).1)
  | .insert key value chance =>
    ((cache.insert chance call.1 key value).2,.value (cache.insert chance call.1 key value).1)
  | .insertWithTtl key value ttl chance =>
    ((cache.insertWithTtl chance call.1 key value ttl).2,.value (cache.insertWithTtl chance call.1 key value ttl).1)
  | .remove key => ((cache.remove key).2,.value (cache.remove key).1)
  | .clear => (cache.clear,.done)
  | .cleanupExpired => ((cache.cleanupExpired call.1).2,.count (cache.cleanupExpired call.1).1)
  | .containsKey key => (cache,.flag (cache.containsKey key))
  | .len => (cache,.count cache.len)
  | .getStats => (cache,.stats cache.getStats)

theorem step_config {K : Type u} {V : Type v} [DecidableEq K] (cache : Cache K V) (call : ℕ × Operation K V) :
    (step cache call).1.config = cache.config := by
  obtain ⟨now,operation⟩ := call
  have evicted : ∀ chance, (cache.evictEntry chance).config = cache.config := by
    intro chance
    unfold Cache.evictEntry
    split <;> rfl
  have inserted : ∀ key value ttl chance, (cache.insertWithTtl chance now key value ttl).2.config = cache.config := by
    intro key value ttl chance
    unfold Cache.insertWithTtl
    split
    · exact evicted chance
    · rfl
  cases operation with
  | get key =>
      simp only [step,Cache.get]
      split
      · split <;> rfl
      · rfl
  | insert key value chance => exact inserted key value _ chance
  | insertWithTtl key value ttl chance => exact inserted key value ttl chance
  | remove key =>
      simp only [step,Cache.remove]
      split <;> rfl
  | _ => rfl

end PhantomFlow.Storage
