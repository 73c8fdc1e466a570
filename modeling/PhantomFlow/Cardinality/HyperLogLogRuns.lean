import Mathlib.Data.Finset.Lattice.Fold
import PhantomFlow.Library.Machine
import PhantomFlow.Library.RealMath
import PhantomFlow.Cardinality.HyperLogLog

namespace PhantomFlow.Cardinality
open Library Library.Machine

def Sized (precision : ℕ) : HLLRegisters → Prop
  | .sparse own registers => own = precision ∧ ∀ key value, registers.get key = some value → key < 2 ^ precision
  | .dense registers => registers.length = 2 ^ precision

section Registers
variable {precision : ℕ} {registers : HLLRegisters}

theorem sized_create (precision : ℕ) (sparseMode : Bool) : Sized precision (.create precision sparseMode) := by
  cases sparseMode <;> simp [HLLRegisters.create,Sized]

theorem get_create (precision : ℕ) (sparseMode : Bool) (j : ℕ) : (HLLRegisters.create precision sparseMode).get j = 0 := by
  cases sparseMode with
  | true => simp [HLLRegisters.create,HLLRegisters.get]
  | false =>
      simp only [HLLRegisters.create,HLLRegisters.get,Bool.false_eq_true,if_false,List.getD_eq_getElem?_getD,
        List.getElem?_replicate]
      split <;> rfl

theorem size_exact (sized : Sized precision registers) : registers.size = 2 ^ precision := by
  cases registers with
  | sparse own entries => rw [HLLRegisters.size,sized.1]
  | dense values => exact sized

theorem get_set (sized : Sized precision registers) (bound : i < 2 ^ precision) (value j : ℕ) :
    (registers.set i value).get j = if j = i then value else registers.get j := by
  cases registers with
  | sparse own entries =>
      simp only [HLLRegisters.set,HLLRegisters.get]
      split
      · rw [OrderedMap.get_set]; split <;> rfl
      · rename_i zero
        rw [OrderedMap.delete,OrderedMap.get_filter]
        by_cases same : j = i
        · subst j
          cases entries.get i <;> simp [Option.filter,Nat.eq_zero_of_not_pos zero]
        · cases entries.get j <;> simp [Option.filter,same]
  | dense values =>
      have inside : i < values.length := by rw [sized]; exact bound
      simp only [HLLRegisters.set,HLLRegisters.get,List.getD_eq_getElem?_getD,List.getElem?_set]
      by_cases same : j = i
      · subst j; simp [inside]
      · have other : i ≠ j := fun equal => same equal.symm
        simp [same,other]

theorem sized_set (sized : Sized precision registers) (bound : i < 2 ^ precision) (value : ℕ) :
    Sized precision (registers.set i value) := by
  cases registers with
  | sparse own entries =>
      refine ⟨sized.1,?_⟩
      intro key found present
      split at present
      · rw [OrderedMap.get_set] at present
        split at present
        · rename_i same; rw [same]; exact bound
        · exact sized.2 key found present
      · exact sized.2 key found (OrderedMap.get_filter_some present)
  | dense values => simpa [Sized,HLLRegisters.set] using sized

theorem get_foldl_set (sized : Sized precision registers) (entries : List (ℕ × ℕ))
    (distinct : (entries.map Prod.fst).Nodup) (bounded : ∀ entry ∈ entries, entry.1 < 2 ^ precision) :
    Sized precision (entries.foldl (fun registers entry => registers.set entry.1 entry.2) registers) ∧
    ∀ j, (entries.foldl (fun registers entry => registers.set entry.1 entry.2) registers).get j =
      (entries.lookup j).getD (registers.get j) := by
  induction entries generalizing registers with
  | nil => exact ⟨sized,fun _ => rfl⟩
  | cons entry rest ih =>
      obtain ⟨k,v⟩ := entry
      have bound : k < 2 ^ precision := bounded (k,v) (by simp)
      simp only [List.map_cons,List.nodup_cons] at distinct
      obtain ⟨sized',got⟩ := ih (sized_set sized bound v) distinct.2
        (fun entry member => bounded entry (List.mem_cons_of_mem _ member))
      refine ⟨sized',fun j => ?_⟩
      rw [List.foldl_cons,got j,get_set sized bound]
      by_cases same : j = k
      · subst j
        have absent : rest.lookup k = none := by
          rw [List.lookup_eq_none_iff]
          intro other member
          simp only [bne_iff_ne,ne_eq]
          intro equal
          exact distinct.1 (equal ▸ List.mem_map_of_mem (f:=Prod.fst) member)
        simp [absent]
      · simp [OrderedMap.lookup_past,same]

theorem keys_bounded (sized : Sized precision (.sparse own entries)) :
    ∀ entry ∈ entries.entries, entry.1 < 2 ^ precision := fun entry member =>
  sized.2 entry.1 entry.2 ((OrderedMap.get_exact entries entry.1 entry.2).mpr member)

theorem get_toDense (sized : Sized precision registers) :
    Sized precision (.dense registers.toDense) ∧
      ∀ j, (HLLRegisters.dense registers.toDense).get j = registers.get j := by
  cases registers with
  | dense values => exact ⟨sized,fun _ => rfl⟩
  | sparse own entries =>
      obtain ⟨written,got⟩ := get_foldl_set (sized_create precision false) entries.entries entries.distinct
        (keys_bounded sized)
      have same : entries.entries.foldl (fun registers entry => registers.set entry.1 entry.2)
          (HLLRegisters.create precision false) = .dense (HLLRegisters.sparse own entries).toDense := by
        rw [sized.1]
        exact List.foldl_hom HLLRegisters.dense (fun _ _ => rfl)
      rw [same] at written got
      refine ⟨written,fun j => ?_⟩
      rw [got,get_create]
      rfl

theorem get_mergeRegisters (sized : Sized precision registers) (other : HLLRegisters) :
    Sized precision (HyperLogLog.mergeRegisters registers other) ∧ ∀ j < 2 ^ precision,
      (HyperLogLog.mergeRegisters registers other).get j = max (registers.get j) (other.get j) := by
  have loop : ∀ n ≤ 2 ^ precision,
      let merged := (List.range n).foldl (fun registers i => HLLRegisters.set registers i
        (max (registers.get i) (other.get i))) registers
      Sized precision merged ∧ ∀ j, merged.get j = if j < n then max (registers.get j) (other.get j)
        else registers.get j := by
    intro n
    induction n with
    | zero => intro _; exact ⟨sized,fun _ => rfl⟩
    | succ n ih =>
        intro bound
        obtain ⟨sized',got⟩ := ih (Nat.le_of_succ_le bound)
        simp only [List.range_succ,List.foldl_append,List.foldl_cons,List.foldl_nil]
        refine ⟨sized_set sized' bound _,fun j => ?_⟩
        rw [get_set sized' bound,got,got]
        rcases Nat.lt_trichotomy j n with below | equal | above
        · simp [below,Nat.ne_of_lt below,Nat.lt_succ_of_lt below]
        · simp [equal]
        · simp [Nat.ne_of_gt above,Nat.not_lt_of_gt above,Nat.not_lt.mpr (Nat.succ_le_of_lt above)]
  obtain ⟨sized',got⟩ := loop (2 ^ precision) (Nat.le_refl _)
  rw [HyperLogLog.mergeRegisters,size_exact sized]
  exact ⟨sized',fun j bound => by rw [got,if_pos bound]⟩

end Registers

theorem rankOf_pos (hashFunction : HashType) (precision : ℕ) (element : String) :
    0 < rankOf hashFunction precision element := by
  unfold rankOf getLeadingZeroCount
  dsimp only
  split <;> exact Nat.succ_pos _

def highest (hashFunction : HashType) (precision : ℕ) (elements : Finset String) (j : ℕ) : ℕ :=
  (elements.filter (fun element => bucketOf hashFunction precision element = j)).sup (rankOf hashFunction precision)

theorem highest_insert (hashFunction : HashType) (precision : ℕ) (element : String) (elements : Finset String) (j : ℕ) :
    highest hashFunction precision (insert element elements) j =
      if bucketOf hashFunction precision element = j
      then max (rankOf hashFunction precision element) (highest hashFunction precision elements j)
      else highest hashFunction precision elements j := by
  unfold highest
  rw [Finset.filter_insert]
  split
  · rw [Finset.sup_insert]
  · rfl

theorem highest_union (hashFunction : HashType) (precision : ℕ) (first second : Finset String) (j : ℕ) :
    highest hashFunction precision (first ∪ second) j =
      max (highest hashFunction precision first j) (highest hashFunction precision second j) := by
  unfold highest
  rw [Finset.filter_union,Finset.sup_union]

variable {K : Type}

structure Represents (config : HyperLogLogConfig) (hll : HyperLogLog K) (elements : Finset String) : Prop where
  settings : hll.config = config
  sized : Sized config.precision hll.registers
  registers : ∀ j < 2 ^ config.precision,
    hll.registers.get j = highest config.hashFunction config.precision elements j

def SameRegisters (precision : ℕ) (a b : HyperLogLog K) : Prop :=
  ∀ j < 2 ^ precision, a.registers.get j = b.registers.get j

def merged (a b : HyperLogLog K) : HyperLogLog K :=
  match a.merge b with
  | .ok outcome => outcome.1
  | .error _ => a

section Operations
variable {config config' : HyperLogLogConfig} {hll other : HyperLogLog K} {elements elements' : Finset String}

theorem represents_initial [Field K] (config : HyperLogLogConfig) : Represents config (.initial config : HyperLogLog K) ∅ :=
  ⟨rfl,sized_create _ _,fun j _ => get_create _ _ j⟩

theorem represents_clear [Field K] (represents : Represents config hll elements) : Represents config hll.clear ∅ := by
  obtain ⟨rfl,_,_⟩ := represents
  exact ⟨rfl,sized_create _ _,fun j _ => get_create _ _ j⟩

theorem represents_convert (represents : Represents config hll elements) :
    Represents config hll.convertToDense elements := by
  unfold HyperLogLog.convertToDense
  split
  · obtain ⟨written,got⟩ := get_toDense represents.sized
    exact ⟨represents.settings,written,fun j bound => (got j).trans (represents.registers j bound)⟩
  · exact represents

theorem represents_raise (represents : Represents config hll elements) (element : String) :
    Represents config
      { hll with
        registers := hll.registers.raise (bucketOf config.hashFunction config.precision element)
          (rankOf config.hashFunction config.precision element) } (insert element elements) := by
  have bucket : bucketOf config.hashFunction config.precision element < 2 ^ config.precision := extractBucket_lt _ _
  refine ⟨represents.settings,?_,?_⟩
  · unfold HLLRegisters.raise
    split
    · exact sized_set represents.sized bucket _
    · exact represents.sized
  · intro j bound
    rw [highest_insert,← represents.registers j bound]
    unfold HLLRegisters.raise
    dsimp only
    split
    · rename_i lower
      rw [get_set represents.sized bucket]
      by_cases same : bucketOf config.hashFunction config.precision element = j
      · subst j; rw [if_pos rfl,if_pos rfl,max_eq_left (Nat.le_of_lt lower)]
      · rw [if_neg same,if_neg (fun equal => same equal.symm)]
    · rename_i enough
      split
      · rename_i same; subst j; exact (max_eq_right (Nat.le_of_not_lt enough)).symm
      · rfl

theorem represents_add (represents : Represents config hll elements) (element : String) :
    Represents config (hll.add element) (insert element elements) := by
  have raised := represents_raise represents element
  obtain ⟨rfl,_,_⟩ := represents
  unfold HyperLogLog.add
  dsimp only
  split
  · have converted := represents_convert raised
    exact ⟨converted.settings,converted.sized,converted.registers⟩
  · exact ⟨raised.settings,raised.sized,raised.registers⟩

theorem represents_adds (represents : Represents config hll elements) (added : List String) :
    Represents config (added.foldl HyperLogLog.add hll) (elements ∪ added.toFinset) := by
  induction added generalizing hll elements with
  | nil => simpa using represents
  | cons element rest ih =>
      have next := ih (represents_add represents element)
      rwa [Finset.insert_union,← Finset.union_insert,← List.toFinset_cons] at next

theorem merge_registers (represents : Represents config hll elements) (represents' : Represents config' other elements')
    (same : config.precision = config'.precision) :
    ∃ outcome, hll.merge other = .ok outcome ∧
      (outcome.1.config = config ∧ Sized config.precision outcome.1.registers ∧
        ∀ j < 2 ^ config.precision, outcome.1.registers.get j =
          max (highest config.hashFunction config.precision elements j)
            (highest config'.hashFunction config.precision elements' j)) ∧
      Represents config' outcome.2 elements' := by
  have joined : ∀ this that : HyperLogLog K, Represents config this elements → Represents config' that elements' →
      Sized config.precision (HyperLogLog.mergeRegisters this.registers that.registers) ∧
        ∀ j < 2 ^ config.precision, (HyperLogLog.mergeRegisters this.registers that.registers).get j =
          max (highest config.hashFunction config.precision elements j)
            (highest config'.hashFunction config.precision elements' j) := by
    intro this that left right
    obtain ⟨sized,got⟩ := get_mergeRegisters left.sized that.registers
    refine ⟨sized,fun j bound => ?_⟩
    rw [got j bound,left.registers j bound,right.registers j (by rw [← same]; exact bound),same]
  unfold HyperLogLog.merge
  rw [if_neg (by rw [represents.settings,represents'.settings]; exact fun different => different same)]
  refine ⟨_,rfl,?_,?_⟩
  · dsimp only
    split
    · exact ⟨represents.settings,joined _ _ represents represents'⟩
    · have converted := represents_convert represents
      exact ⟨converted.settings,joined _ _ converted (represents_convert represents')⟩
  · dsimp only
    split
    · exact represents'
    · exact represents_convert represents'

theorem highest_congr (alike : createHashFunction hashFunction = createHashFunction hashFunction') (precision : ℕ)
    (elements : Finset String) (j : ℕ) :
    highest hashFunction precision elements j = highest hashFunction' precision elements j := by
  have buckets : bucketOf hashFunction = bucketOf hashFunction' := by
    funext precision element
    simp only [bucketOf,alike]
  have ranks : rankOf hashFunction = rankOf hashFunction' := by
    funext precision element
    simp only [rankOf,alike]
  rw [highest,highest,buckets,ranks]

theorem represents_merge (represents : Represents config hll elements) (represents' : Represents config' other elements')
    (alike : createHashFunction config.hashFunction = createHashFunction config'.hashFunction)
    (same : config.precision = config'.precision) :
    ∃ outcome, hll.merge other = .ok outcome ∧ Represents config outcome.1 (elements ∪ elements') ∧
      Represents config' outcome.2 elements' := by
  obtain ⟨outcome,done,⟨settings,sized,registers⟩,unchanged⟩ := merge_registers represents represents' same
  refine ⟨outcome,done,⟨settings,sized,fun j bound => ?_⟩,unchanged⟩
  rw [registers j bound,highest_union,← highest_congr alike]

theorem represents_merged (represents : Represents config hll elements) (represents' : Represents config' other elements')
    (alike : config.hashFunction = config'.hashFunction ∧ config.precision = config'.precision) :
    Represents config (merged hll other) (elements ∪ elements') := by
  obtain ⟨outcome,done,result,_⟩ := represents_merge represents represents' (by rw [alike.1]) alike.2
  unfold merged
  rw [done]
  exact result

theorem represents_reload [Field K] (valid : validateConfig config = .ok ()) (represents : Represents config hll elements) :
    ∃ reloaded, HyperLogLog.deserialize hll.serialize = .ok reloaded ∧ Represents config reloaded elements := by
  obtain ⟨rfl,sized,registers⟩ := represents
  have restored : Sized hll.config.precision (HyperLogLog.restoreRegisters hll.serialize
        (HyperLogLog.initial hll.config : HyperLogLog K).registers) ∧
      ∀ j, (HyperLogLog.restoreRegisters hll.serialize
        (HyperLogLog.initial hll.config : HyperLogLog K).registers).get j = hll.registers.get j := by
    cases content : hll.registers with
    | dense values =>
        simp only [HyperLogLog.restoreRegisters,HyperLogLog.serialize,content]
        rw [content] at sized
        exact ⟨sized,fun _ => trivial⟩
    | sparse own entries =>
        rw [content] at sized
        obtain ⟨written,got⟩ := get_foldl_set (sized_create hll.config.precision true) entries.entries
          entries.distinct (keys_bounded sized)
        simp only [HyperLogLog.restoreRegisters,HyperLogLog.serialize,content]
        refine ⟨written,fun j => (got j).trans ?_⟩
        rw [get_create]
        rfl
  have accepted : validateConfig hll.serialize.config = .ok () := valid
  unfold HyperLogLog.deserialize HyperLogLog.create
  rw [accepted]
  exact ⟨_,rfl,rfl,restored.1,fun j bound => (restored.2 j).trans (registers j bound)⟩

theorem represents_unique (represents : Represents config hll elements) (represents' : Represents config' other elements)
    (alike : config.hashFunction = config'.hashFunction ∧ config.precision = config'.precision) :
    SameRegisters config.precision hll other := by
  intro j bound
  rw [represents.registers j bound,represents'.registers j (by rw [← alike.2]; exact bound),alike.1,alike.2]

theorem estimate_exact [Field K] [LinearOrder K] (math : JsMath K) {a b : HyperLogLog K}
    (same : SameRegisters a.config.precision a b) (precision : a.config.precision = b.config.precision)
    (correction : a.config.biasCorrection = b.config.biasCorrection) : a.estimate math = b.estimate math := by
  have read : ∀ i ∈ List.range (2 ^ b.config.precision), a.registers.get i = b.registers.get i := by
    intro i member
    exact same i (by rw [precision]; exact List.mem_range.mp member)
  have count : a.registerCount = b.registerCount := by simp only [HyperLogLog.registerCount,precision]
  have raw : a.calculateRawEstimate = b.calculateRawEstimate := by
    simp only [HyperLogLog.calculateRawEstimate,HyperLogLog.alpha,count,precision]
    rw [List.map_congr_left (fun i member => by rw [read i member])]
  have zeros : a.zeros = b.zeros := by
    simp only [HyperLogLog.zeros,precision]
    exact List.countP_congr (fun i member => by rw [read i member])
  simp only [HyperLogLog.estimate,HyperLogLog.applyBiasCorrection,correction,raw,zeros,count]

end Operations

inductive Operation (ι : Type u) where
  | add (k : ι) (element : String)
  | merge (k other : ι)
  | clear (k : ι)
  | count (k : ι)
  | reload (k : ι)

section Machine
variable {ι : Type u} [DecidableEq ι]

variable [Field K] [LinearOrder K] [FloorRing K]

def step (math : JsMath K) (pool : ι → HyperLogLog K) :
    Operation ι → (ι → HyperLogLog K) × Except String (Option (CardinalityEstimate K))
  | .add k element => (Function.update pool k ((pool k).add element),.ok none)
  | .merge k other => match (pool k).merge (pool other) with
    | .ok outcome => (Function.update (Function.update pool other outcome.2) k outcome.1,.ok none)
    | .error message => (pool,.error message)
  | .clear k => (Function.update pool k (pool k).clear,.ok none)
  | .count k => (Function.update pool k ((pool k).count math).2,.ok (some ((pool k).count math).1))
  | .reload k => match HyperLogLog.deserialize (pool k).serialize with
    | .ok reloaded => (Function.update pool k reloaded,.ok none)
    | .error message => (pool,.error message)

-- The distinct elements every instance has been given since its last clear, its
-- merged ones included.
def record (given : ι → Finset String) : Operation ι → ι → Finset String
  | .add k element => Function.update given k (insert element (given k))
  | .merge k other => Function.update given k (given k ∪ given other)
  | .clear k => Function.update given k ∅
  | .count _ | .reload _ => given

def fed (operations : List (Operation ι)) : ι → Finset String := operations.foldl record (fun _ => ∅)

theorem step_represents (math : JsMath K) {configs : ι → HyperLogLogConfig}
    (valid : ∀ k, validateConfig (configs k) = .ok ())
    (pool : ι → HyperLogLog K) (given : ι → Finset String) (operation : Operation ι)
    (matching : ∀ k other, operation = .merge k other →
      createHashFunction (configs k).hashFunction = createHashFunction (configs other).hashFunction ∧
        (configs k).precision = (configs other).precision)
    (all : ∀ k, Represents (configs k) (pool k) (given k)) :
    (∀ k, Represents (configs k) ((step math pool operation).1 k) (record given operation k)) ∧
      (step math pool operation).2.isOk = true := by
  have replace {k : ι} {hll : HyperLogLog K} {elements : Finset String} :=
    update_related (a:=hll) (b:=elements) all k
  cases operation with
  | add k element => exact ⟨replace (represents_add (all k) element),rfl⟩
  | merge k other =>
      obtain ⟨alike,same⟩ := matching k other rfl
      obtain ⟨outcome,done,result,unchanged⟩ := represents_merge (all k) (all other) alike same
      have converted := replace unchanged
      rw [Function.update_eq_self] at converted
      simp only [step,done]
      exact ⟨update_related converted k result,rfl⟩
  | clear k => exact ⟨replace (represents_clear (all k)),rfl⟩
  | count k =>
      have counted : Represents (configs k) ((pool k).count math).2 (given k) :=
        ⟨(all k).settings,(all k).sized,(all k).registers⟩
      have next := replace counted
      rw [Function.update_eq_self] at next
      exact ⟨next,rfl⟩
  | reload k =>
      obtain ⟨reloaded,done,result⟩ := represents_reload (valid k) (all k)
      have next := replace result
      rw [Function.update_eq_self] at next
      simp only [step,done]
      exact ⟨next,rfl⟩

-- Every run over any number of instances of one precision and hash function, in
-- any mixture of representations: nothing throws, every register holds the highest
-- rank of its bucket, equal contents read and count alike, and merging is the union.
theorem hyperloglog_registers_exact (math : JsMath K) (configs : ι → HyperLogLogConfig) (precision : ℕ)
    (hashFunction : HashType) (valid : ∀ k, validateConfig (configs k) = .ok ())
    (alike : ∀ k, (configs k).hashFunction = hashFunction ∧ (configs k).precision = precision)
    (operations : List (Operation ι)) :
    let start : ι → HyperLogLog K := fun k => .initial (configs k)
    let reached := (exec (step math) start operations).1
    (∀ reply ∈ (exec (step math) start operations).2, reply.isOk = true) ∧
    (∀ k, ∀ j < 2 ^ precision,
      (reached k).registers.get j = highest hashFunction precision (fed operations k) j) ∧
    (∀ k, SameRegisters precision (reached k).convertToDense (reached k)) ∧
    (∀ operations' k l, fed operations k = fed operations' l →
      SameRegisters precision (reached k) ((exec (step math) start operations').1 l) ∧
      ((configs k).biasCorrection = (configs l).biasCorrection →
        (reached k).estimate math = ((exec (step math) start operations').1 l).estimate math)) ∧
    (∀ k l (elements : List String), elements.toFinset = fed operations k ∪ fed operations l →
      SameRegisters precision (merged (reached k) (reached l)) (elements.foldl HyperLogLog.add (.initial (configs k)))) ∧
    (∀ k l, SameRegisters precision (merged (reached k) (reached l)) (merged (reached l) (reached k))) ∧
    (∀ k l m, SameRegisters precision (merged (merged (reached k) (reached l)) (reached m))
      (merged (reached k) (merged (reached l) (reached m)))) ∧
    (∀ k, SameRegisters precision (merged (reached k) (reached k)) (reached k)) ∧
    (∀ k l, ∃ outcome, (reached k).merge (reached l) = .ok outcome ∧
      SameRegisters precision outcome.2 (reached l)) := by
  intro start reached
  have uniform : ∀ k l, (configs k).hashFunction = (configs l).hashFunction ∧
      (configs k).precision = (configs l).precision := fun k l => by
    rw [(alike k).1,(alike l).1,(alike k).2,(alike l).2]; exact ⟨rfl,rfl⟩
  have run : ∀ operations : List (Operation ι),
      (∀ k, Represents (configs k) ((exec (step math) start operations).1 k) (fed operations k)) ∧
        ∀ reply ∈ (exec (step math) start operations).2, reply.isOk = true :=
    exec_recorded (fun (pool : ι → HyperLogLog K) (given : ι → Finset String) =>
      ∀ k, Represents (configs k) (pool k) (given k)) _
      (fun pool given operation => step_represents math valid pool given operation
        (fun k other _ => ⟨congrArg _ (uniform k other).1,(uniform k other).2⟩))
      (fun k => represents_initial (configs k))
  obtain ⟨all,replies⟩ := run operations
  have unique : ∀ k l elements (a b : HyperLogLog K), Represents (configs k) a elements →
      Represents (configs l) b elements → SameRegisters precision a b := by
    intro k l elements a b left right
    have same := represents_unique left right (uniform k l)
    rwa [(alike k).2] at same
  have both := fun k l => represents_merged (all k) (all l) (uniform k l)
  refine ⟨replies,?_,?_,?_,?_,?_,?_,?_,?_⟩
  · intro k j bound
    have held := (all k).registers j (by rw [(alike k).2]; exact bound)
    rwa [(alike k).1,(alike k).2] at held
  · exact fun k => unique k k _ _ _ (represents_convert (all k)) (all k)
  · intro operations' k l same
    have other := (run operations').1 l
    rw [← same] at other
    have registers := unique k l _ _ _ (all k) other
    refine ⟨registers,fun correction => estimate_exact math ?_ ?_ ?_⟩
    · rw [(all k).settings,(alike k).2]; exact registers
    · rw [(all k).settings,other.settings,(uniform k l).2]
    · rw [(all k).settings,other.settings,correction]
  · intro k l elements union
    have added := represents_adds (represents_initial (K:=K) (configs k)) elements
    rw [Finset.empty_union,union] at added
    exact unique k k _ _ _ (both k l) added
  · intro k l
    have swapped := both l k
    rw [Finset.union_comm] at swapped
    exact unique k l _ _ _ (both k l) swapped
  · intro k l m
    have left := represents_merged (both k l) (all m) (uniform k m)
    rw [Finset.union_assoc] at left
    exact unique k k _ _ _ left (represents_merged (all k) (both l m) (uniform k l))
  · intro k
    have twice := both k k
    rw [Finset.union_self] at twice
    exact unique k k _ _ _ twice (all k)
  · intro k l
    obtain ⟨outcome,done,_,unchanged⟩ := represents_merge (all k) (all l) (congrArg _ (uniform k l).1) (uniform k l).2
    exact ⟨outcome,done,unique l l _ _ _ unchanged (all l)⟩

-- A sparse and a dense instance that were given the same elements, in another order
-- and with a repetition.
theorem hyperloglog_registers_exact_mixed :
    let configs : Bool → HyperLogLogConfig := fun sparseMode => ⟨4,.fnv1a,true,sparseMode,1⟩
    let start : Bool → HyperLogLog ℝ := fun k => .initial (configs k)
    let operations := [.add true "a",.add true "b",.reload true,.add false "b",.add false "a",.add false "b"]
    let reached := (exec (step realMath) start operations).1
    SameRegisters 4 (reached true) (reached false) ∧
      (reached true).estimate realMath = (reached false).estimate realMath := by
  intro configs start operations reached
  have exact' := hyperloglog_registers_exact realMath configs 4 .fnv1a
    (fun k => by cases k <;> decide +kernel) (fun k => ⟨rfl,rfl⟩) operations
  obtain ⟨registers,estimates⟩ := exact'.2.2.2.1 operations true false (by decide +kernel)
  exact ⟨registers,estimates rfl⟩

end Machine
end PhantomFlow.Cardinality
