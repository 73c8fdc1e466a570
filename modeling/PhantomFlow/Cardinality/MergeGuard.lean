import PhantomFlow.Cardinality.HyperLogLogRuns

namespace PhantomFlow.Cardinality
open Library Library.Machine

-- `xxhash` is computed as `murmur3`.
def sameFamily (first second : HashType) : Prop := first = .fnv1a ↔ second = .fnv1a

instance (first second : HashType) : Decidable (sameFamily first second) := inferInstanceAs (Decidable (_ ↔ _))

-- The guard reads the precision alone.
def Compatible (config config' : HyperLogLogConfig) : Prop :=
  config.precision = config'.precision → sameFamily config.hashFunction config'.hashFunction

theorem createHashFunction_family (family : sameFamily first second) :
    createHashFunction first = createHashFunction second := by
  cases first <;> cases second <;> first | rfl | exact absurd family (by decide)

theorem extractBucket_low (hash : ℕ) (wide : 4 ≤ precision) : extractBucket hash precision % 16 = hash % 16 := by
  rw [extractBucket,Nat.one_shiftLeft,Nat.and_two_pow_sub_one_eq_mod]
  exact Nat.mod_mod_of_dvd hash (Nat.pow_dvd_pow 2 wide)

theorem family_low_bits (different : ¬ sameFamily first second) :
    createHashFunction first "a" % 16 ≠ createHashFunction second "a" % 16 := by
  revert different
  cases first <;> cases second <;> decide +kernel

theorem bucketOf_apart (different : ¬ sameFamily first second) (wide : 4 ≤ precision) :
    bucketOf first precision "a" ≠ bucketOf second precision "a" := by
  intro same
  have low := congrArg (fun bucket => bucket % 16) same
  simp only [bucketOf,extractBucket_low _ wide] at low
  exact family_low_bits different low

theorem validateConfig_precision (valid : validateConfig config = .ok ()) : 4 ≤ config.precision := by
  unfold validateConfig at valid
  split at valid
  · cases valid
  · omega

section Pool
variable {ι : Type u} [DecidableEq ι] {K : Type} [Field K] [LinearOrder K] [FloorRing K]
  (math : JsMath K) (configs : ι → HyperLogLogConfig)

def started (k : ι) : HyperLogLog K := .initial (configs k)

def recordAccepted (given : ι → Finset String) : Operation ι → ι → Finset String
  | .merge k other =>
    if (configs k).precision = (configs other).precision then record given (.merge k other) else given
  | operation => record given operation

def fedAccepted (operations : List (Operation ι)) : ι → Finset String :=
  operations.foldl (recordAccepted configs) (fun _ => ∅)

def CompatibleMerges (operations : List (Operation ι)) : Prop :=
  ∀ k other, .merge k other ∈ operations → Compatible (configs k) (configs other)

-- An accepted merge leaves the registers of one instance that was given both
-- contents, in any order; a refused one changes nothing.
def MergeSound (pool : ι → HyperLogLog K) (given : ι → Finset String) (k other : ι) : Prop :=
  ((step math pool (.merge k other)).2.isOk = true → ∀ elements : List String,
    elements.toFinset = given k ∪ given other →
      SameRegisters (configs k).precision ((step math pool (.merge k other)).1 k)
        (elements.foldl HyperLogLog.add (started configs k))) ∧
  ((step math pool (.merge k other)).2.isOk = false → (step math pool (.merge k other)).1 = pool)

variable {math configs}

theorem step_merge_refused {pool : ι → HyperLogLog K} {given : ι → Finset String} {k other : ι}
    (all : ∀ k, Represents (configs k) (pool k) (given k))
    (different : (configs k).precision ≠ (configs other).precision) :
    step math pool (.merge k other) = (pool,.error "Cannot merge HyperLogLogs with different precisions") := by
  rw [← (all k).settings,← (all other).settings] at different
  simp only [step,HyperLogLog.merge,if_pos different]
  rfl

theorem step_merge_accepted {pool : ι → HyperLogLog K} {k other : ι} {outcome : HyperLogLog K × HyperLogLog K}
    (done : (pool k).merge (pool other) = .ok outcome) :
    step math pool (.merge k other) = (Function.update (Function.update pool other outcome.2) k outcome.1,.ok none) := by
  simp only [step,done]

theorem step_accepted (valid : ∀ k, validateConfig (configs k) = .ok ()) (pool : ι → HyperLogLog K)
    (given : ι → Finset String) (operation : Operation ι)
    (compatible : ∀ k other, operation = .merge k other → Compatible (configs k) (configs other))
    (all : ∀ k, Represents (configs k) (pool k) (given k)) :
    ∀ k, Represents (configs k) ((step math pool operation).1 k) (recordAccepted configs given operation k) := by
  cases operation with
  | merge k other =>
      by_cases same : (configs k).precision = (configs other).precision
      · have merged := step_represents math valid pool given (.merge k other) (by
          rintro _ _ ⟨⟩
          exact ⟨createHashFunction_family (compatible k other rfl same),same⟩) all
        simpa only [recordAccepted,if_pos same] using merged.1
      · simpa only [recordAccepted,if_neg same,step_merge_refused all same] using all
  | add | clear | count | reload =>
      exact (step_represents math valid pool given _ (fun _ _ merging => by cases merging) all).1

theorem run_accepted (math : JsMath K) (valid : ∀ k, validateConfig (configs k) = .ok ())
    (operations : List (Operation ι)) (compatible : CompatibleMerges configs operations) :
    ∀ k, Represents (configs k) ((exec (step math) (started (K:=K) configs) operations).1 k)
      (fedAccepted configs operations k) := by
  apply exec_recorded_while (fun (pool : ι → HyperLogLog K) (given : ι → Finset String) => ∀ k, Represents (configs k) (pool k) (given k))
    (step_accepted valid) (fun k => represents_initial (configs k))
  intro operation member k other merging
  subst merging
  exact compatible k other member

theorem merge_sound {pool : ι → HyperLogLog K} {given : ι → Finset String} (all : ∀ k, Represents (configs k) (pool k) (given k))
    (compatible : Compatible (configs k) (configs other)) : MergeSound math configs pool given k other := by
  by_cases same : (configs k).precision = (configs other).precision
  · obtain ⟨outcome,done,represents,_⟩ := represents_merge (all k) (all other)
      (createHashFunction_family (compatible same)) same
    rw [MergeSound,step_merge_accepted done]
    refine ⟨fun _ elements content => ?_,nofun⟩
    have added := represents_adds (represents_initial (K:=K) (configs k)) elements
    rw [Finset.empty_union,content] at added
    have agree := represents_unique represents added ⟨rfl,rfl⟩
    simpa only [Function.update_self,started] using agree
  · rw [MergeSound,step_merge_refused all same]
    exact ⟨nofun,fun _ => rfl⟩

theorem merge_unsound (valid : ∀ k, validateConfig (configs k) = .ok ()) {k other : ι}
    (same : (configs k).precision = (configs other).precision)
    (different : ¬ sameFamily (configs k).hashFunction (configs other).hashFunction) :
    ¬ MergeSound math configs (exec (step math) (started (K:=K) configs) [.add other "a"]).1
      (fedAccepted configs [.add other "a"]) k other := by
  have distinct : k ≠ other := fun equal => different (by rw [equal,sameFamily])
  have apart := bucketOf_apart different (validateConfig_precision (valid k))
  have all := run_accepted math valid [.add other "a"] (by intro _ _ member; simp at member)
  have content : fedAccepted configs [.add other "a"] = Function.update (fun _ => ∅) other {"a"} := by
    simp [fedAccepted,recordAccepted,record]
  obtain ⟨outcome,done,⟨_,_,registers⟩,_⟩ := merge_registers (all k) (all other) same
  intro sound
  rw [MergeSound,step_merge_accepted done] at sound
  have bound : bucketOf (configs k).hashFunction (configs k).precision "a" < 2 ^ (configs k).precision :=
    extractBucket_lt _ _
  have agree := sound.1 rfl ["a"] (by rw [content,Function.update_of_ne distinct,Function.update_self]; simp) _ bound
  have single := represents_adds (represents_initial (K:=K) (configs k)) ["a"]
  simp only [Function.update_self,started,registers _ bound,single.registers _ bound] at agree
  have here : fedAccepted configs [.add other "a"] k = ∅ := by rw [content,Function.update_of_ne distinct]
  have there : fedAccepted configs [.add other "a"] other = {"a"} := by rw [content,Function.update_self]
  rw [here,there] at agree
  have positive := rankOf_pos (configs k).hashFunction (configs k).precision "a"
  simp [highest,Finset.filter_singleton,apart.symm] at agree
  omega

-- Instances of any configurations, whatever each has been through and in whichever
-- representation: a merge of two is sound after all histories of compatible merges
-- exactly when these two differ in precision or hash alike.
theorem hyperloglog_merge_guard_exact (math : JsMath K) (configs : ι → HyperLogLogConfig)
    (valid : ∀ k, validateConfig (configs k) = .ok ()) (k other : ι) :
    (∀ operations, CompatibleMerges configs operations →
      MergeSound math configs (exec (step math) (started configs) operations).1 (fedAccepted configs operations)
        k other) ↔
      ((configs k).precision = (configs other).precision →
        sameFamily (configs k).hashFunction (configs other).hashFunction) := by
  constructor
  · intro sound same
    by_contra different
    refine merge_unsound valid same different (sound _ ?_)
    intro k other member
    simp at member
  · intro compatible operations history
    exact merge_sound (run_accepted math valid operations history) compatible

end Pool

def hashedBy (hashFunction : HashType) : HyperLogLogConfig := ⟨4,hashFunction,true,true,1⟩

theorem hyperloglog_merge_guard_fallback :
    let configs := fun k : Bool => hashedBy (if k then .xxhash else .murmur3)
    MergeSound realMath configs (exec (step realMath) (started configs) [.add true "a"]).1
      (fedAccepted configs [.add true "a"]) false true := by
  intro configs
  refine (hyperloglog_merge_guard_exact realMath configs (fun k => by cases k <;> decide +kernel) false true).mpr
    (fun _ => by decide) _ ?_
  intro k other member
  simp at member

-- Equal precisions, `fnv1a` and `murmur3`: the merge is accepted.
theorem hyperloglog_merge_guard_misses_hash :
    let configs := fun k : Bool => hashedBy (if k then .fnv1a else .murmur3)
    ¬ MergeSound realMath configs (exec (step realMath) (started configs) [.add true "a"]).1
      (fedAccepted configs [.add true "a"]) false true := by
  intro configs
  exact merge_unsound (fun k => by cases k <;> decide +kernel) rfl (by decide)

end PhantomFlow.Cardinality
