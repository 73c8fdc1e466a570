import PhantomFlow.Sketch.SketchRuns

namespace PhantomFlow.Sketch
open Library Library.Machine

def sameDimensions (config config' : CountMinSketchConfig) : Prop :=
  config.width = config'.width ∧ config.depth = config'.depth

instance (config config' : CountMinSketchConfig) : Decidable (sameDimensions config config') :=
  inferInstanceAs (Decidable (_ ∧ _))

-- The guard reads the dimensions alone. Adding the matrices is only right where
-- every row also sends every item to the same column.
def Compatible (config config' : CountMinSketchConfig) : Prop :=
  sameDimensions config config' →
    ∀ i < config.depth, ∀ item, hashFunction config i item = hashFunction config' i item

section Pool
variable {ι : Type u} [DecidableEq ι] (configs : ι → CountMinSketchConfig)

def started (k : ι) : CountMinSketch := .initial (configs k)

def recordAccepted (streams : ι → Stream) : Operation ι → ι → Stream
  | .merge k other =>
    if sameDimensions (configs k) (configs other) then record streams (.merge k other) else streams
  | operation => record streams operation

def fedAccepted (operations : List (Operation ι)) : ι → Stream :=
  operations.foldl (recordAccepted configs) (fun _ => [])

def CompatibleMerges (operations : List (Operation ι)) : Prop :=
  ∀ k other, .merge k other ∈ operations → Compatible (configs k) (configs other)

def MergeSound (pool : ι → CountMinSketch) (streams : ι → Stream) (k other : ι) : Prop :=
  ((step pool (.merge k other)).2.isOk = true → ∀ item,
    ((tally (fun entry => entry == item) (streams k) + tally (fun entry => entry == item) (streams other) : ℚ≥0) : ℚ) ≤
      (((step pool (.merge k other)).1 k).query item).1.frequency) ∧
  ((step pool (.merge k other)).2.isOk = false → (step pool (.merge k other)).1 = pool)

variable {configs}

theorem merge_refused {sketch other : CountMinSketch} (different : ¬ sameDimensions sketch.config other.config) :
    sketch.merge other = .error "Cannot merge sketches with different dimensions" := by
  unfold CountMinSketch.merge
  rw [if_pos (not_and_or.mp different)]
  rfl

theorem step_merge_refused {pool : ι → CountMinSketch} {streams : ι → Stream} {k other : ι}
    (all : ∀ k, Represents (configs k) (pool k) (streams k))
    (different : ¬ sameDimensions (configs k) (configs other)) :
    step pool (.merge k other) = (pool,.error "Cannot merge sketches with different dimensions") := by
  rw [← (all k).settings,← (all other).settings] at different
  simp only [step,merge_refused different,settle]

theorem step_merge_accepted {pool : ι → CountMinSketch} {k other : ι} (done : (pool k).merge (pool other) = .ok merged) :
    step pool (.merge k other) = (Function.update pool k merged,.ok none) := by
  simp only [step,done,settle]

theorem step_accepted (valid : ∀ k, validateConfig (configs k) = .ok ()) (pool : ι → CountMinSketch)
    (streams : ι → Stream) (operation : Operation ι)
    (compatible : ∀ k other, operation = .merge k other → Compatible (configs k) (configs other))
    (all : ∀ k, Represents (configs k) (pool k) (streams k)) :
    ∀ k, Represents (configs k) ((step pool operation).1 k) (recordAccepted configs streams operation k) := by
  cases operation with
  | merge k other =>
      by_cases same : sameDimensions (configs k) (configs other)
      · have merged := step_represents valid pool streams (.merge k other) (by
          rintro _ _ ⟨⟩
          exact ⟨same,compatible k other rfl same⟩) all
        simpa only [recordAccepted,if_pos same] using merged.1
      · simpa only [recordAccepted,if_neg same,step_merge_refused all same] using all
  | insert | query | clear | reload =>
      exact (step_represents valid pool streams _ (fun _ _ merging => by cases merging) all).1

theorem run_accepted (valid : ∀ k, validateConfig (configs k) = .ok ()) (operations : List (Operation ι))
    (compatible : CompatibleMerges configs operations) :
    ∀ k, Represents (configs k) ((exec step (started configs) operations).1 k) (fedAccepted configs operations k) := by
  apply exec_recorded_while (fun (pool : ι → CountMinSketch) (streams : ι → Stream) => ∀ k, Represents (configs k) (pool k) (streams k))
    (step_accepted valid) (fun k => represents_initial (configs k))
  intro operation member k other merging
  subst merging
  exact compatible k other member

theorem merge_sound (valid : ∀ k, validateConfig (configs k) = .ok ()) {pool : ι → CountMinSketch}
    {streams : ι → Stream} (all : ∀ k, Represents (configs k) (pool k) (streams k))
    (compatible : Compatible (configs k) (configs other)) : MergeSound pool streams k other := by
  by_cases same : sameDimensions (configs k) (configs other)
  · obtain ⟨merged,done,represents⟩ := represents_merge (all k) (all other) same (compatible same)
    rw [MergeSound,step_merge_accepted done]
    refine ⟨fun _ item => ?_,nofun⟩
    have counted := query_overestimates (validateConfig_positive (valid k)) represents item
    rw [tally_append] at counted
    simpa only [Function.update_self] using counted
  · rw [MergeSound,step_merge_refused all same]
    exact ⟨nofun,fun _ => rfl⟩

theorem merge_loses (positive : 0 < config.width ∧ 0 < config.depth) (same : sameDimensions config config')
    (row : i < config.depth) (apart : hashFunction config i item ≠ hashFunction config' i item) :
    ∃ merged, (CountMinSketch.initial config).merge ((CountMinSketch.initial config').insert item 1) = .ok merged ∧
      (merged.query item).1.frequency ≤ 0 := by
  have inserted := represents_insert (by rw [← same.1]; exact positive.1) (represents_initial config') item 1
  obtain ⟨merged,done,settings,_,cells⟩ := merge_cells (represents_initial config) inserted same
  refine ⟨merged,by simpa using done,?_⟩
  subst config
  refine le_trans ((query_least positive.2 item).2 ⟨i,row,rfl⟩) (le_of_eq ?_)
  rw [cells i row _ (hashFunction_lt positive.1 i item)]
  simp [colliding,apart.symm]

theorem merge_unsound (valid : ∀ k, validateConfig (configs k) = .ok ()) {k other : ι}
    (same : sameDimensions (configs k) (configs other)) (row : i < (configs k).depth)
    (apart : hashFunction (configs k) i item ≠ hashFunction (configs other) i item) :
    ¬ MergeSound (exec step (started configs) [.insert other item 1]).1
      (fedAccepted configs [.insert other item 1]) k other := by
  have distinct : k ≠ other := fun equal => apart (by rw [equal])
  obtain ⟨merged,done,low⟩ := merge_loses (validateConfig_positive (valid k)) same row apart
  intro sound
  have reached : (exec step (started configs) [.insert other item 1]).1 =
      Function.update (started configs) other ((started configs other).insert item 1) := by
    simp [step,settle]
  have merging : step (Function.update (started configs) other ((started configs other).insert item 1))
      (.merge k other) = _ := step_merge_accepted (by
    rw [Function.update_of_ne distinct,Function.update_self]
    exact done)
  rw [reached,MergeSound,merging] at sound
  have counted := sound.1 rfl item
  simp only [Function.update_self] at counted
  have streams : fedAccepted configs [.insert other item 1] = Function.update (fun _ => []) other [(item,1)] := by
    simp [fedAccepted,recordAccepted,record]
  rw [streams,Function.update_of_ne distinct,Function.update_self] at counted
  simp only [tally_nil,tally_singleton,beq_self_eq_true,if_true,zero_add,NNRat.cast_one] at counted
  exact absurd (le_trans counted low) (by norm_num)

-- Sketches of any configurations, whatever each has been through: as long as only
-- compatible ones are merged no query falls below its true count, and a merge of two
-- sketches is sound after all such histories exactly when these two are compatible.
theorem merge_guard_exact (configs : ι → CountMinSketchConfig) (valid : ∀ k, validateConfig (configs k) = .ok ()) :
    (∀ operations, CompatibleMerges configs operations → ∀ k item,
      ((tally (fun entry => entry == item) (fedAccepted configs operations k) : ℚ≥0) : ℚ) ≤
        (((exec step (started configs) operations).1 k).query item).1.frequency) ∧
    ∀ k other, (∀ operations, CompatibleMerges configs operations →
      MergeSound (exec step (started configs) operations).1 (fedAccepted configs operations) k other) ↔
        Compatible (configs k) (configs other) := by
  refine ⟨?_,fun k other => ⟨?_,?_⟩⟩
  · intro operations compatible k item
    exact query_overestimates (validateConfig_positive (valid k)) (run_accepted valid operations compatible k) item
  · intro sound same i row item
    by_contra apart
    refine merge_unsound valid same row apart (sound _ ?_)
    intro k other member
    simp at member
  · intro compatible operations history
    exact merge_sound valid (run_accepted valid operations history) compatible

end Pool

theorem createOptimalConfig_dimensions (math : JsMath ℚ) (random random' errorRate confidence : ℚ)
    (maxMemoryBytes : Option ℚ) :
    sameDimensions (createOptimalConfig math random errorRate confidence maxMemoryBytes)
      (createOptimalConfig math random' errorRate confidence maxMemoryBytes) := by
  unfold createOptimalConfig
  dsimp only
  split <;> exact ⟨rfl,rfl⟩

def seeded (hashSeed : Bool) : CountMinSketchConfig := ⟨4,1,if hashSeed then 1 else 0,1/10,9/10⟩

theorem merge_guard_same_seed :
    MergeSound (exec step (started (fun _ : Bool => seeded true)) [.insert true "a" 1]).1
      (fedAccepted (fun _ => seeded true) [.insert true "a" 1]) false true := by
  refine ((merge_guard_exact (fun _ : Bool => seeded true) (fun _ => by decide +kernel)).2 false true).mpr
    (fun _ _ _ _ => rfl) _ ?_
  intro k other member
  simp at member

-- Equal dimensions and seeds 0 and 1: the merge is accepted and the one item of the
-- other sketch is estimated at zero.
theorem merge_guard_misses_seed :
    ¬ MergeSound (exec step (started seeded) [.insert true "c" 1]).1 (fedAccepted seeded [.insert true "c" 1])
      false true :=
  merge_unsound (i:=0) (fun k => by cases k <;> decide +kernel) ⟨rfl,rfl⟩ (by decide) (by decide +kernel)

end PhantomFlow.Sketch
