import PhantomFlow.Storage.Expiry
import PhantomFlow.Storage.Recency
import PhantomFlow.Storage.Statistics

namespace PhantomFlow.Storage
open Library Library.Machine
variable {K : Type u} {V : Type v} [DecidableEq K]

-- What was last inserted under a key, and how often the key was found since; the first
-- insertion counts as a use.
structure Written (V : Type v) where
  value : V
  writtenAt : ℕ
  ttl : Option ℕ
  uses : ℕ
  deriving DecidableEq

def Written.live (written : Written V) (now : ℕ) : Bool := written.ttl.all (fun ttl => decide (now ≤ written.writtenAt + ttl))

-- A store without bounds: an insertion replaces, a removal takes out, and nothing else
-- ever leaves.
def recordCall (config : CacheConfig) (store : K → Option (Written V)) (call : ℕ × Operation K V) : K → Option (Written V) :=
  match call.2 with
  | .insert key value _ => Function.update store key (some ⟨value,call.1,config.defaultTtl,1⟩)
  | .insertWithTtl key value ttl _ => Function.update store key (some ⟨value,call.1,ttl,1⟩)
  | .get key =>
    Function.update store key ((store key).map (fun written =>
      if written.live call.1 then { written with uses := written.uses + 1 } else written))
  | .remove key => Function.update store key none
  | .clear => fun _ => none
  | _ => store

def lookup (store : K → Option (Written V)) (now : ℕ) (key : K) : Option V :=
  ((store key).filter (fun written => written.live now)).map Written.value

def CacheEntry.written (entry : CacheEntry V) : Written V := ⟨entry.value,entry.createdAt,entry.ttl,entry.accessCount⟩

def writtenBy (config : CacheConfig) (calls : List (ℕ × Operation K V)) : K → Option (Written V) :=
  calls.foldl (recordCall config) (fun _ => none)

theorem live_written (entry : CacheEntry V) (now : ℕ) : entry.written.live now = !entry.expired now := by
  unfold Written.live CacheEntry.expired CacheEntry.written
  cases entry.ttl with
  | none => rfl
  | some ttl =>
      rw [Option.all_some,Bool.eq_iff_iff,decide_eq_true_iff,Bool.not_eq_true',decide_eq_false_iff_not]
      dsimp only
      omega

theorem Written.live_before {written : Written V} (order : now ≤ later) (live : written.live later = true) :
    written.live now = true := by
  unfold Written.live at live ⊢
  cases ttl : written.ttl with
  | none => rfl
  | some duration =>
      rw [ttl,Option.all_some,decide_eq_true_iff] at live
      rw [Option.all_some,decide_eq_true_iff]
      omega

def Coherent (cache : Cache K V) (store : K → Option (Written V)) : Prop :=
  ∀ key entry, cache.data.get key = some entry → store key = some entry.written

section Coherent
variable {cache : Cache K V} {store : K → Option (Written V)}

theorem Coherent.shrink (coherent : Coherent cache store) {smaller : Cache K V}
    (fewer : ∀ key entry, smaller.data.get key = some entry → cache.data.get key = some entry) :
    Coherent smaller store :=
  fun key entry found => coherent key entry (fewer key entry found)

theorem Coherent.place (coherent : Coherent cache store) (now : ℕ) (key : K) (value : V) (ttl : Option ℕ) :
    Coherent (cache.place now key value ttl).2 (Function.update store key (some ⟨value,now,ttl,1⟩)) := by
  intro k entry found
  change (cache.data.set key ⟨value,now,now,1,ttl⟩).get k = some entry at found
  by_cases same : k = key
  · subst k
    rw [OrderedMap.get_set_self] at found
    cases found
    rw [Function.update_self]
    rfl
  · rw [OrderedMap.get_set_other _ _ same] at found
    rw [Function.update_of_ne same]
    exact coherent k entry found

theorem Coherent.insertWithTtl (coherent : Coherent cache store) (chance : Chance K V) (now : ℕ) (key : K) (value : V)
    (ttl : Option ℕ) :
    Coherent (cache.insertWithTtl chance now key value ttl).2 (Function.update store key (some ⟨value,now,ttl,1⟩)) := by
  unfold Cache.insertWithTtl
  split
  · exact (coherent.shrink (fun _ _ => Cache.get_evictEntry)).place now key value ttl
  · exact coherent.place now key value ttl

theorem Coherent.get (coherent : Coherent cache store) (now : ℕ) (key : K) :
    Coherent (cache.get now key).2 (Function.update store key ((store key).map (fun written =>
      if written.live now then { written with uses := written.uses + 1 } else written))) := by
  -- A key that the lookup does not touch keeps both its entry and its record.
  have others : ∀ k entry, k ≠ key → cache.data.get k = some entry →
      Function.update store key ((store key).map (fun written =>
        if written.live now then { written with uses := written.uses + 1 } else written)) k = some entry.written := by
    intro k entry other found
    rw [Function.update_of_ne other]
    exact coherent k entry found
  intro k entry found
  cases stored : cache.data.get key with
  | none =>
      rw [Cache.get_absent stored] at found
      have other : k ≠ key := by
        intro same
        subst k
        rw [stored] at found
        cases found
      exact others k entry other found
  | some held =>
      cases expired : held.expired now with
      | true =>
          rw [Cache.get_expired stored expired] at found
          change (cache.data.delete key).get k = some entry at found
          rw [OrderedMap.get_delete] at found
          split at found
          · cases found
          · rename_i other
            exact others k entry other found
      | false =>
          rw [Cache.get_hit stored expired] at found
          change (cache.data.set key _).get k = some entry at found
          by_cases same : k = key
          · subst k
            rw [OrderedMap.get_set_self] at found
            cases found
            have live : held.written.live now = true := by rw [live_written,expired]; rfl
            rw [Function.update_self,coherent _ held stored,Option.map_some,if_pos live]
            rfl
          · rw [OrderedMap.get_set_other _ _ same] at found
            exact others k entry same found

theorem Coherent.remove (coherent : Coherent cache store) (key : K) :
    Coherent (cache.remove key).2 (Function.update store key none) := by
  intro k entry found
  have other : k ≠ key ∧ cache.data.get k = some entry := by
    unfold Cache.remove at found
    cases stored : cache.data.get key with
    | none =>
        rw [stored] at found
        refine ⟨?_,found⟩
        intro same
        rw [same,stored] at found
        cases found
    | some held =>
        rw [stored] at found
        change (cache.data.delete key).get k = some entry at found
        rw [OrderedMap.get_delete] at found
        split at found
        · cases found
        · rename_i different
          exact ⟨different,found⟩
  rw [Function.update_of_ne other.1]
  exact coherent k entry other.2

theorem step_coherent (coherent : Coherent cache store) (call : ℕ × Operation K V) :
    Coherent (step cache call).1 (recordCall cache.config store call) := by
  obtain ⟨now,operation⟩ := call
  cases operation with
  | get key => exact coherent.get now key
  | insert key value chance => exact coherent.insertWithTtl chance now key value cache.config.defaultTtl
  | insertWithTtl key value ttl chance => exact coherent.insertWithTtl chance now key value ttl
  | remove key => exact coherent.remove key
  | clear =>
      intro key entry found
      cases found
  | cleanupExpired =>
      refine coherent.shrink ?_
      intro key entry found
      rw [step,Cache.cleanupExpired_eq] at found
      exact OrderedMap.get_filter_some found
  | containsKey key => exact coherent
  | len => exact coherent
  | getStats => exact coherent

end Coherent

def Fits (cache : Cache K V) (call : ℕ × Operation K V) : Prop :=
  ∀ key, insertedKey call.2 = some key → cache.overflows key = false

def Complete (now : ℕ) (cache : Cache K V) (store : K → Option (Written V)) : Prop :=
  Coherent cache store ∧ ∀ key written, store key = some written → written.live now = true →
    ∃ entry, cache.data.get key = some entry

section Complete
variable {cache : Cache K V} {store : K → Option (Written V)}

theorem Complete.mono (complete : Complete now cache store) (order : now ≤ later) : Complete later cache store :=
  ⟨complete.1,fun key written known live => complete.2 key written known (written.live_before order live)⟩

theorem Complete.insertWithTtl (complete : Complete now cache store) (room : cache.overflows key = false)
    (chance : Chance K V) (value : V) (ttl : Option ℕ) :
    Complete now (cache.insertWithTtl chance now key value ttl).2 (Function.update store key (some ⟨value,now,ttl,1⟩)) := by
  refine ⟨complete.1.insertWithTtl chance now key value ttl,?_⟩
  intro k written known live
  rw [Cache.insertWithTtl,room]
  change ∃ entry, (cache.data.set key ⟨value,now,now,1,ttl⟩).get k = some entry
  by_cases same : k = key
  · subst k
    exact ⟨_,OrderedMap.get_set_self _ _ _⟩
  · rw [Function.update_of_ne same] at known
    rw [OrderedMap.get_set_other _ _ same]
    exact complete.2 k written known live

theorem Complete.get (complete : Complete now cache store) (key : K) :
    Complete now (cache.get now key).2 (Function.update store key ((store key).map (fun written =>
      if written.live now then { written with uses := written.uses + 1 } else written))) := by
  refine ⟨complete.1.get now key,?_⟩
  intro k written known live
  have before : ∃ w, store k = some w ∧ w.live now = true := by
    by_cases same : k = key
    · subst k
      rw [Function.update_self] at known
      obtain ⟨w,held,now'⟩ := Option.map_eq_some_iff.mp known
      refine ⟨w,held,?_⟩
      by_contra gone
      rw [if_neg gone] at now'
      subst w
      exact gone live
    · rw [Function.update_of_ne same] at known
      exact ⟨written,known,live⟩
  obtain ⟨w,held,fresh⟩ := before
  obtain ⟨entry,stored⟩ := complete.2 k w held fresh
  cases found : cache.data.get key with
  | none =>
      rw [Cache.get_absent found]
      exact ⟨entry,stored⟩
  | some other =>
      cases expired : other.expired now with
      | true =>
          rw [Cache.get_expired found expired]
          have different : k ≠ key := by
            intro same
            subst k
            rw [complete.1 _ other found] at held
            cases held
            rw [live_written,expired] at fresh
            cases fresh
          exact ⟨entry,by change (cache.data.delete key).get k = _; rw [OrderedMap.get_delete,if_neg different,stored]⟩
      | false =>
          rw [Cache.get_hit found expired]
          change ∃ e, (cache.data.set key _).get k = some e
          rw [OrderedMap.get_set]
          split
          · exact ⟨_,rfl⟩
          · exact ⟨entry,stored⟩

theorem Complete.remove (complete : Complete now cache store) (key : K) :
    Complete now (cache.remove key).2 (Function.update store key none) := by
  refine ⟨complete.1.remove key,?_⟩
  intro k written known live
  by_cases same : k = key
  · subst k
    rw [Function.update_self] at known
    cases known
  · rw [Function.update_of_ne same] at known
    obtain ⟨entry,stored⟩ := complete.2 k written known live
    refine ⟨entry,?_⟩
    unfold Cache.remove
    split
    · change (cache.data.delete key).get k = some entry
      rw [OrderedMap.get_delete,if_neg same,stored]
    · exact stored

theorem step_complete (call : ℕ × Operation K V) (fits : Fits cache call) (complete : Complete call.1 cache store) :
    Complete call.1 (step cache call).1 (recordCall cache.config store call) := by
  obtain ⟨now,operation⟩ := call
  cases operation with
  | get key => exact complete.get key
  | insert key value chance => exact complete.insertWithTtl (fits key rfl) chance value cache.config.defaultTtl
  | insertWithTtl key value ttl chance => exact complete.insertWithTtl (fits key rfl) chance value ttl
  | remove key => exact complete.remove key
  | clear => exact ⟨step_coherent complete.1 (now,.clear),fun _ _ known => by cases known⟩
  | cleanupExpired =>
      refine ⟨step_coherent complete.1 (now,.cleanupExpired),?_⟩
      intro key written known live
      obtain ⟨entry,stored⟩ := complete.2 key written known live
      refine ⟨entry,?_⟩
      have record : store key = some entry.written := complete.1 key entry stored
      change store key = some written at known
      rw [known] at record
      cases record
      rw [live_written] at live
      rw [step,Cache.cleanupExpired_eq]
      change (cache.data.filter (fun _ entry => !entry.expired now)).get key = some entry
      rw [OrderedMap.get_filter,stored]
      exact Option.filter_eq_some_iff.mpr ⟨rfl,live⟩
  | containsKey key => exact complete
  | len => exact complete
  | getStats => exact complete

end Complete

theorem get_value (cache : Cache K V) (now : ℕ) (key : K) :
    (cache.get now key).1 = ((cache.data.get key).filter (fun entry => entry.written.live now)).map CacheEntry.value := by
  cases found : cache.data.get key with
  | none => rw [Cache.get_absent found]; rfl
  | some entry =>
      cases expired : entry.expired now with
      | true => rw [Cache.get_expired found expired]; simp [Option.filter,live_written,expired]
      | false => rw [Cache.get_hit found expired]; simp [Option.filter,live_written,expired]

theorem run_coherent (config : CacheConfig) (calls : List (ℕ × Operation K V)) :
    Coherent (exec step (Cache.new config) calls).1 (writtenBy config calls) := by
  have start : Coherent (Cache.new config : Cache K V) (fun _ => none) :=
    fun _ _ found => (nomatch found)
  refine (@exec_recorded _ _ _ _ step _ _ (recordCall config)
    (fun (cache : Cache K V) store => cache.config = config ∧ Coherent cache store) (fun _ => True) ?_ ⟨rfl,start⟩
    calls).1.2
  intro cache store call both
  obtain ⟨same,coherent⟩ := both
  refine ⟨⟨(step_config cache call).trans same,?_⟩,trivial⟩
  rw [← same]
  exact step_coherent coherent call

theorem run_complete (config : CacheConfig) {calls : List (ℕ × Operation K V)}
    (ordered : calls.Pairwise (fun a b => a.1 ≤ b.1)) (before : ∀ call ∈ calls, call.1 ≤ now)
    (fits : Along step Fits (Cache.new config) calls) :
    Complete now (exec step (Cache.new config) calls).1 (writtenBy config calls) := by
  have start : Complete 0 (Cache.new config : Cache K V) (fun _ => none) :=
    ⟨fun _ _ found => (nomatch found),fun _ _ known => (nomatch known)⟩
  refine (@exec_recorded_until _ _ _ _ step _ _ _ _ _ _ _ (recordCall config) Fits Prod.fst
    (fun now (cache : Cache K V) store => cache.config = config ∧ Complete now cache store) ?_ ?_ ⟨rfl,start⟩ fits ordered
    (fun call _ => Nat.zero_le call.1) (Nat.zero_le now) before).2
  · exact fun now later cache store order both => ⟨both.1,both.2.mono order⟩
  · intro cache store call room both
    obtain ⟨same,complete⟩ := both
    refine ⟨(step_config cache call).trans same,?_⟩
    rw [← same]
    exact step_complete call room complete

theorem Complete.lookup {cache : Cache K V} {store : K → Option (Written V)} (complete : Complete now cache store)
    (key : K) : (cache.get now key).1 = lookup store now key := by
  rw [get_value,Storage.lookup]
  cases stored : cache.data.get key with
  | some entry =>
      rw [complete.1 key entry stored,Option.filter_some,Option.filter_some]
      split
      · rfl
      · rfl
  | none =>
      cases known : store key with
      | none => rfl
      | some written =>
          cases live : written.live now with
          | false => rw [Option.filter_some,live]; rfl
          | true =>
              obtain ⟨entry,here⟩ := complete.2 key written known live
              rw [stored] at here
              cases here

-- Whatever is evicted, removed or expired, under every policy: a lookup finds only the
-- value last written under its key, while its time to live lasts. And as long as every
-- insertion fits, it finds that value always: lookups cannot tell the cache from a store
-- without bounds.
theorem lookups_coherent (config : CacheConfig) (calls : List (ℕ × Operation K V)) (now : ℕ) (key : K) :
    (∀ value, ((exec step (Cache.new config) calls).1.get now key).1 = some value →
        lookup (writtenBy config calls) now key = some value) ∧
      (calls.Pairwise (fun a b => a.1 ≤ b.1) → (∀ call ∈ calls, call.1 ≤ now) →
        Along step Fits (Cache.new config) calls →
          ((exec step (Cache.new config) calls).1.get now key).1 = lookup (writtenBy config calls) now key) := by
  constructor
  · intro value found
    rw [get_value] at found
    obtain ⟨entry,kept,rfl⟩ := Option.map_eq_some_iff.mp found
    obtain ⟨stored,live⟩ := Option.filter_eq_some_iff.mp kept
    rw [lookup,run_coherent config calls key entry stored,Option.filter_some,if_pos live]
    rfl
  · intro ordered before fits
    exact (run_complete config ordered before fits).lookup key

def overwriting : List (ℕ × Operation ℕ ℕ) :=
  [(0,.insert 1 10 still),(1,.insertWithTtl 2 20 (some 5) still),(2,.insert 1 30 still)]

theorem lookups_coherent_overwriting :
    ((exec step (Cache.new { maxSize := 2 }) overwriting).1.get 3 1).1 = some 30 := by
  have fits : Along step Fits (Cache.new { maxSize := 2 }) overwriting := by
    refine ⟨?_,?_,?_,trivial⟩
    · intro key inserted
      cases inserted
      rfl
    · intro key inserted
      cases inserted
      rfl
    · intro key inserted
      cases inserted
      rfl
  have ordered : overwriting.Pairwise (fun a b => a.1 ≤ b.1) := by simp [overwriting]
  have before : ∀ call ∈ overwriting, call.1 ≤ 3 := by simp [overwriting]
  exact ((lookups_coherent { maxSize := 2 } overwriting 3 1).2 ordered before fits).trans (by decide)

end PhantomFlow.Storage
