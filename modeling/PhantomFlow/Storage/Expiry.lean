import PhantomFlow.Library.Machine
import PhantomFlow.Storage.Cache

namespace PhantomFlow.Storage
open Library Library.Machine
universe u v
variable {K : Type u} {V : Type v} [DecidableEq K]

namespace Cache

def Unexpired (cache : Cache K V) (now : ℕ) : Prop :=
  ∀ key entry, cache.data.get key = some entry → entry.expired now = false

theorem get_value_iff (cache : Cache K V) (now : ℕ) (key : K) :
    (∃ value, (cache.get now key).1 = some value) ↔
      ∃ entry, cache.data.get key = some entry ∧ entry.expired now = false := by
  cases found : cache.data.get key with
  | none =>
      rw [get_absent found]
      simp
  | some entry =>
      cases expired : entry.expired now with
      | true =>
          rw [get_expired found expired]
          simp [expired]
      | false =>
          rw [get_hit found expired]
          simp [expired]

theorem containsKey_iff (cache : Cache K V) (key : K) :
    cache.containsKey key = true ↔ ∃ entry, cache.data.get key = some entry := Option.isSome_iff_exists

theorem containsKey_agrees (cache : Cache K V) (now : ℕ) (key : K) :
    (cache.containsKey key = true ↔ ∃ value, (cache.get now key).1 = some value) ↔
      ∀ entry, cache.data.get key = some entry → entry.expired now = false := by
  rw [containsKey_iff,get_value_iff]
  constructor
  · intro agree entry found
    obtain ⟨entry',found',live⟩ := agree.mp ⟨entry,found⟩
    rw [found] at found'
    cases found'
    exact live
  · intro live
    constructor
    · intro stored
      obtain ⟨entry,found⟩ := stored
      exact ⟨entry,found,live entry found⟩
    · intro stored
      obtain ⟨entry,found,_⟩ := stored
      exact ⟨entry,found⟩

theorem get_evictEntry {cache : Cache K V} (stored : (cache.evictEntry chance).data.get key = some entry) :
    cache.data.get key = some entry := by
  unfold evictEntry at stored
  split at stored
  · rw [OrderedMap.get_delete] at stored
    split at stored
    · cases stored
    · exact stored
  · exact stored

theorem insertWithTtl_old {cache : Cache K V} (returned : (cache.insertWithTtl chance now key value ttl).1 = some old) :
    ∃ entry, cache.data.get key = some entry ∧ entry.value = old := by
  unfold insertWithTtl place at returned
  obtain ⟨entry,found,same⟩ := Option.map_eq_some_iff.mp returned
  refine ⟨entry,?_,same⟩
  split at found
  · exact get_evictEntry found
  · exact found

theorem remove_old {cache : Cache K V} (returned : (cache.remove key).1 = some old) :
    ∃ entry, cache.data.get key = some entry ∧ entry.value = old := by
  unfold remove at returned
  split at returned
  · rename_i entry found
    exact ⟨entry,found,Option.some.inj returned⟩
  · cases returned

theorem unexpired_cleanup (cache : Cache K V) (now : ℕ) : (cache.cleanupExpired now).2.Unexpired now := by
  intro key entry found
  rw [cleanupExpired_eq] at found
  change (cache.data.filter (fun _ entry => !entry.expired now)).get key = some entry at found
  rw [OrderedMap.get_filter] at found
  simpa using (Option.filter_eq_some_iff.mp found).2

end Cache

def Operation.replaced : Operation K V → Option K
  | .insert key _ _ => some key
  | .insertWithTtl key _ _ _ => some key
  | .remove key => some key
  | _ => none

-- What an expired entry must not show in: the two lookups of any key at the moment, and
-- the old value that the operation answers with.
structure Invisible (cache : Cache K V) (call : ℕ × Operation K V) : Prop where
  lookups : ∀ key, cache.containsKey key = true ↔ ∃ value, (cache.get call.1 key).1 = some value
  old : ∀ key ∈ call.2.replaced, ∀ value, (step cache call).2 = .value (some value) →
    ∃ entry, cache.data.get key = some entry ∧ entry.value = value ∧ entry.expired call.1 = false

theorem step_old {cache : Cache K V} (replaced : key ∈ call.2.replaced)
    (answered : (step cache call).2 = .value (some value)) :
    ∃ entry, cache.data.get key = some entry ∧ entry.value = value := by
  obtain ⟨now,operation⟩ := call
  cases operation with
  | insert key' value' chance =>
      cases replaced
      exact Cache.insertWithTtl_old (Answer.value.inj answered)
  | insertWithTtl key' value' ttl chance =>
      cases replaced
      exact Cache.insertWithTtl_old (Answer.value.inj answered)
  | remove key' =>
      cases replaced
      exact Cache.remove_old (Answer.value.inj answered)
  | _ => cases replaced

theorem invisible_iff (cache : Cache K V) (call : ℕ × Operation K V) :
    Invisible cache call ↔ cache.Unexpired call.1 := by
  constructor
  · intro invisible key
    exact (cache.containsKey_agrees call.1 key).mp (invisible.lookups key)
  · intro live
    refine ⟨fun key => (cache.containsKey_agrees call.1 key).mpr (live key),?_⟩
    intro key replaced value answered
    obtain ⟨entry,found,same⟩ := step_old replaced answered
    exact ⟨entry,found,same,live key entry found⟩

-- Over a whole run from an empty cache and at every moment after it: what has expired
-- stays out of sight exactly where no expired entry is still stored when one looks.
theorem expired_invisible_exact (config : CacheConfig) (calls : List (ℕ × Operation K V)) (now : ℕ) :
    (Along step Invisible (Cache.new config) calls ∧
        ∀ key, (exec step (Cache.new config) calls).1.containsKey key = true ↔
          ∃ value, ((exec step (Cache.new config) calls).1.get now key).1 = some value) ↔
      Along step (fun cache call => cache.Unexpired call.1) (Cache.new config) calls ∧
        (exec step (Cache.new config) calls).1.Unexpired now := by
  apply and_congr
  · apply along_exact_ahead (fun _ _ => True)
    · exact fun _ _ _ _ => trivial
    · exact fun cache call _ _ => invisible_iff cache call
    · trivial
  · exact forall_congr' (fun key => Cache.containsKey_agrees _ now key)

-- A value with one nanosecond to live is still seen at two, and given back.
theorem expired_seen :
    ((exec (step (K:=ℕ) (V:=ℕ)) (Cache.new {})
        [(0,.insertWithTtl 7 1 (some 1) ⟨id,fun _ => .refl _,fun _ => 0⟩)]).1.containsKey 7 = true ∧
      ((exec (step (K:=ℕ) (V:=ℕ)) (Cache.new {})
        [(0,.insertWithTtl 7 1 (some 1) ⟨id,fun _ => .refl _,fun _ => 0⟩)]).1.get 2 7).1 = none) ∧
    ¬ Along step Invisible (Cache.new (K:=ℕ) (V:=ℕ) {})
        [(0,.insertWithTtl 7 1 (some 1) ⟨id,fun _ => .refl _,fun _ => 0⟩),(2,.remove 7)] := by
  refine ⟨⟨rfl,rfl⟩,?_⟩
  intro invisible
  obtain ⟨entry,found,_,live⟩ := invisible.2.1.old 7 rfl 1 rfl
  cases found
  cases live

end PhantomFlow.Storage
