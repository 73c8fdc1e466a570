import Mathlib.Data.List.Infix
import PhantomFlow.Library.Rounding
import PhantomFlow.Sketch.SketchRuns

namespace PhantomFlow.Sketch
open Library Library.Machine Library.Doubles

section Rounded
variable (r : Rounding ℚ)

def addRounded (matrix : List (List ℚ)) (i j : ℕ) (count : ℚ) : List (List ℚ) :=
  matrix.modify i (fun row => row.modify j (r.add · count))

namespace CountMinSketch
variable (sketch : CountMinSketch)

def insertRounded (item : String) (count : ℚ) : CountMinSketch :=
  { sketch with
    matrix := (List.range sketch.config.depth).foldl (fun matrix i =>
      addRounded r matrix i (hashFunction sketch.config i item) count) sketch.matrix
    metrics := { sketch.metrics with totalInserts := sketch.metrics.totalInserts + 1 } }.updateFillRatio

def mergeMatrixRounded (config : CountMinSketchConfig) (matrix other : List (List ℚ)) : List (List ℚ) :=
  (List.range config.depth).foldl (fun matrix i =>
    (List.range config.width).foldl (fun matrix j => addRounded r matrix i j (cell other i j)) matrix) matrix

def mergeRounded (other : CountMinSketch) : Except String CountMinSketch :=
  if sketch.config.width ≠ other.config.width ∨ sketch.config.depth ≠ other.config.depth
  then throw "Cannot merge sketches with different dimensions"
  else return { sketch with
    matrix := mergeMatrixRounded r sketch.config sketch.matrix other.matrix
    metrics := { sketch.metrics with
      totalInserts := sketch.metrics.totalInserts + other.metrics.totalInserts } }.updateFillRatio

end CountMinSketch

def stepRounded {ι : Type u} [DecidableEq ι] (pool : ι → CountMinSketch) :
    Operation ι → (ι → CountMinSketch) × Except String (Option FrequencyEstimate)
  | .insert k item count => settle pool k (.ok ((pool k).insertRounded r item count))
  | .merge k other => settle pool k ((pool k).mergeRounded r (pool other))
  | operation => step pool operation

def sketchOfRounded (config : CountMinSketchConfig) (stream : Stream) : CountMinSketch :=
  stream.foldl (fun sketch entry => sketch.insertRounded r entry.1 entry.2) (.initial config)

end Rounded

theorem stepRounded_exact {ι : Type u} [DecidableEq ι] (pool : ι → CountMinSketch) (operation : Operation ι) :
    stepRounded .exact pool operation = step pool operation := by
  cases operation <;> rfl

theorem modify_congr {f g : α → α} {list : List α} (same : ∀ a, list[i]? = some a → f a = g a) :
    list.modify i f = list.modify i g := by
  apply List.ext_getElem?
  intro k
  rw [List.getElem?_modify,List.getElem?_modify]
  by_cases here : i = k
  · subst k
    cases found : list[i]? with
    | none => rfl
    | some a => simp [same a found]
  · simp [here]

theorem foldl_range_congr {f g : β → ℕ → β} {b : β} {n : ℕ}
    (same : ∀ k < n, f ((List.range k).foldl g b) k = g ((List.range k).foldl g b) k) :
    (List.range n).foldl f b = (List.range n).foldl g b := by
  induction n with
  | zero => rfl
  | succ n ih =>
      have earlier := ih (fun k bound => same k (Nat.lt_succ_of_lt bound))
      rw [List.range_succ,List.foldl_append,List.foldl_append,earlier]
      exact same n (Nat.lt_succ_self n)

section Exact
variable {r : Rounding ℚ} {config : CountMinSketchConfig} {matrix : List (List ℚ)} {sketch other : CountMinSketch}

theorem addRounded_exact (same : r.add (cell matrix i j) count = cell matrix i j + count) :
    addRounded r matrix i j count = addToCell matrix i j count := by
  unfold addRounded addToCell
  apply modify_congr
  intro row here
  apply modify_congr
  intro value there
  have found : cell matrix i j = value := by simp [cell,here,there]
  rw [found] at same
  exact same

theorem insertRounded_exact (shaped : Shaped sketch.config sketch.matrix) (width : 0 < sketch.config.width)
    (same : ∀ i < sketch.config.depth, ∀ j < sketch.config.width,
      r.round (cell (sketch.insert item count).matrix i j) = cell (sketch.insert item count).matrix i j) :
    sketch.insertRounded r item count = sketch.insert item count := by
  have matrices : (List.range sketch.config.depth).foldl (fun matrix i =>
        addRounded r matrix i (hashFunction sketch.config i item) count) sketch.matrix =
      (List.range sketch.config.depth).foldl (fun matrix i =>
        addToCell matrix i (hashFunction sketch.config i item) count) sketch.matrix := by
    apply foldl_range_congr
    intro i row
    apply addRounded_exact
    -- no other row has touched the cell
    rw [cell_inserted shaped width item count row.le,if_neg (Nat.lt_irrefl i),add_zero]
    have last := same i row _ (hashFunction_lt width i item)
    change r.round (cell ((List.range sketch.config.depth).foldl _ _) i _) = cell (List.foldl _ _ _) i _ at last
    rwa [cell_inserted shaped width item count (le_refl _),if_pos row,if_pos rfl] at last
  unfold CountMinSketch.insertRounded CountMinSketch.insert
  rw [matrices]

theorem mergeRounded_exact (shaped : Shaped sketch.config sketch.matrix)
    (same : ∀ i < sketch.config.depth, ∀ j < sketch.config.width,
      r.add (cell sketch.matrix i j) (cell other.matrix i j) = cell sketch.matrix i j + cell other.matrix i j) :
    sketch.mergeRounded r other = sketch.merge other := by
  have matrices : CountMinSketch.mergeMatrixRounded r sketch.config sketch.matrix other.matrix =
      CountMinSketch.mergeMatrix sketch.config sketch.matrix other.matrix := by
    unfold CountMinSketch.mergeMatrixRounded CountMinSketch.mergeMatrix
    apply foldl_range_congr
    intro i row
    have reached := shaped_foldl shaped _ (fun _ k shaped => shaped_mergeRow shaped other.matrix sketch.config.width k) i
    apply foldl_range_congr
    intro j column
    apply addRounded_exact
    rw [cell_mergeRow reached other.matrix row column.le,if_neg (Nat.lt_irrefl j),add_zero,
      cell_mergeRows shaped other.matrix row.le column,if_neg (Nat.lt_irrefl i),add_zero]
    exact same i row j column
  unfold CountMinSketch.mergeRounded CountMinSketch.merge
  rw [matrices]

end Exact

structure Countable (stream : Stream) : Prop where
  whole : ∀ entry ∈ stream, ∃ n : ℕ, entry.2 = n
  small : weight stream ≤ 2 ^ 53

section Doubles
variable {config : CountMinSketchConfig} {sketch other : CountMinSketch} {stream stream' : Stream}

theorem tally_whole (whole : ∀ entry ∈ stream, ∃ n : ℕ, entry.2 = n) (select : String → Bool) :
    ∃ n : ℕ, tally select stream = n := by
  induction stream with
  | nil => exact ⟨0,by simp⟩
  | cons entry rest ih =>
      obtain ⟨item,count⟩ := entry
      obtain ⟨⟨n,head⟩,others⟩ := List.forall_mem_cons.mp whole
      obtain ⟨m,tail⟩ := ih others
      simp only at head
      subst count
      rw [← List.singleton_append,tally_append,tally_singleton,tail]
      split
      · exact ⟨n + m,by push_cast; rfl⟩
      · exact ⟨m,zero_add _⟩

theorem colliding_double (countable : Countable stream) (i j : ℕ) :
    nearestDouble (colliding config stream i j : ℚ) = colliding config stream i j := by
  obtain ⟨n,counted⟩ := tally_whole countable.whole (fun item => hashFunction config i item == j)
  have most : colliding config stream i j ≤ 2 ^ 53 := by
    refine le_trans (tally_mono (fun _ _ => rfl) stream) ?_
    rw [tally_all]
    exact countable.small
  have same : (colliding config stream i j : ℚ) = (n : ℚ) := by rw [colliding,counted,NNRat.cast_natCast]
  rw [colliding,counted] at most
  rw [same]
  exact nearestDouble_natCast n (by exact_mod_cast most)

theorem countable_init (countable : Countable (stream ++ rest)) : Countable stream := by
  refine ⟨fun entry member => countable.whole entry (List.mem_append_left _ member),le_trans ?_ countable.small⟩
  rw [weight,weight,List.map_append,List.sum_append]
  exact le_self_add

theorem insert_double {count : ℚ≥0} (width : 0 < config.width) (represents : Represents config sketch stream)
    (countable : Countable (stream ++ [(item,count)])) :
    sketch.insertRounded .double item count = sketch.insert item count := by
  have next := represents_insert width represents item count
  obtain ⟨rfl,shaped,_⟩ := represents
  apply insertRounded_exact shaped width
  intro i row j column
  rw [next.cells i row j column]
  exact colliding_double countable i j

theorem merge_double (represents : Represents config sketch stream) (represents' : Represents config other stream')
    (countable : Countable (stream ++ stream')) : sketch.mergeRounded .double other = sketch.merge other := by
  obtain ⟨rfl,shaped,cells⟩ := represents
  apply mergeRounded_exact shaped
  intro i row j column
  have sum : colliding sketch.config (stream ++ stream') i j =
      colliding sketch.config stream i j + colliding sketch.config stream' i j := tally_append _ _ _
  have exact' : nearestDouble (colliding sketch.config (stream ++ stream') i j : ℚ) =
      colliding sketch.config (stream ++ stream') i j := colliding_double countable i j
  rw [sum,NNRat.cast_add] at exact'
  rwa [cells i row j column,represents'.cells i row j column]

theorem sketchOf_double (width : 0 < config.width) (countable : Countable stream) :
    sketchOfRounded .double config stream = sketchOf config stream := by
  unfold sketchOfRounded sketchOf
  induction stream using List.reverseRecOn with
  | nil => simp only [List.foldl_nil]
  | append_singleton stream entry ih =>
      have earlier := ih (countable_init countable)
      rw [List.foldl_append,List.foldl_append,earlier]
      exact insert_double width (represents_sketchOf width stream) countable

end Doubles

section Runs
variable {ι : Type u} [DecidableEq ι] {config : CountMinSketchConfig} {operations : List (Operation ι)}

-- Whole counts, and at no moment a sketch that has been fed more than 2^53.
structure WholeCounts (operations : List (Operation ι)) : Prop where
  whole : ∀ k item (count : ℚ≥0), .insert k item count ∈ operations → ∃ n : ℕ, count = n
  small : ∀ first, first <+: operations → ∀ k, weight (fed first k) ≤ 2 ^ 53

theorem wholeCounts_init (counts : WholeCounts (operations ++ rest)) : WholeCounts operations := by
  refine ⟨fun k item count member => counts.whole k item count (List.mem_append_left _ member),?_⟩
  exact fun first before => counts.small first (before.trans (List.prefix_append _ _))

theorem fed_snoc (operations : List (Operation ι)) (operation : Operation ι) :
    fed (operations ++ [operation]) = record (fed operations) operation := by
  simp [fed]

theorem fed_whole (whole : ∀ k item (count : ℚ≥0), .insert k item count ∈ operations → ∃ n : ℕ, count = n) (k : ι) :
    ∀ entry ∈ fed operations k, ∃ n : ℕ, entry.2 = n := by
  induction operations using List.reverseRecOn generalizing k with
  | nil => simp [fed]
  | append_singleton operations operation ih =>
      have earlier := ih fun k item count member => whole k item count (List.mem_append_left _ member)
      intro entry member
      rw [fed_snoc] at member
      cases operation with
      | insert l item count =>
          have last := whole l item count (by simp)
          by_cases same : k = l
          · subst k
            rw [record,Function.update_self] at member
            rcases List.mem_append.mp member with old | new
            · exact earlier l entry old
            · rw [List.mem_singleton.mp new]
              exact last
          · rw [record,Function.update_of_ne same] at member
            exact earlier k entry member
      | query l item => exact earlier k entry member
      | clear l =>
          by_cases same : k = l
          · subst k
            rw [record,Function.update_self] at member
            cases member
          · rw [record,Function.update_of_ne same] at member
            exact earlier k entry member
      | reload l => exact earlier k entry member
      | merge l other =>
          by_cases same : k = l
          · subst k
            rw [record,Function.update_self] at member
            rcases List.mem_append.mp member with own | others
            · exact earlier l entry own
            · exact earlier other entry others
          · rw [record,Function.update_of_ne same] at member
            exact earlier k entry member

theorem fed_countable (counts : WholeCounts operations) (k : ι) : Countable (fed operations k) :=
  ⟨fed_whole counts.whole k,counts.small operations (List.prefix_refl _) k⟩

theorem step_double {pool : ι → CountMinSketch} {streams : ι → Stream} (width : 0 < config.width)
    (all : ∀ k, Represents config (pool k) (streams k)) (operation : Operation ι)
    (countable : ∀ k, Countable (record streams operation k)) :
    stepRounded .double pool operation = step pool operation := by
  cases operation with
  | insert k item count =>
      have fits := countable k
      rw [record,Function.update_self] at fits
      simp only [stepRounded,step]
      rw [insert_double width (all k) fits]
  | query k item => rfl
  | clear k => rfl
  | reload k => rfl
  | merge k other =>
      have fits := countable k
      rw [record,Function.update_self] at fits
      simp only [stepRounded,step]
      rw [merge_double (all k) (all other) fits]

theorem run_double (valid : validateConfig config = .ok ()) (counts : WholeCounts operations) :
    exec (stepRounded .double) (fun _ : ι => CountMinSketch.initial config) operations =
      exec step (fun _ => .initial config) operations := by
  induction operations using List.reverseRecOn with
  | nil => rfl
  | append_singleton operations operation ih =>
      have width := (validateConfig_positive valid).1
      have next := step_double width (run_represents valid operations).1 operation (fun k => by
        rw [← fed_snoc]
        exact fed_countable counts k)
      rw [exec_snoc,exec_snoc,ih (wholeCounts_init counts),next]

-- So whole counts are counted by the doubles as they are without rounding.
theorem whole_counts_exact (config : CountMinSketchConfig) (valid : validateConfig config = .ok ())
    (operations : List (Operation ι)) (counts : WholeCounts operations) :
    let start : ι → CountMinSketch := fun _ => .initial config
    let reached := (exec (stepRounded .double) start operations).1
    (∀ reply ∈ (exec (stepRounded .double) start operations).2, reply.isOk = true) ∧
    (∀ k, ∀ i < config.depth, ∀ j < config.width,
      cell (reached k).matrix i j = colliding config (fed operations k) i j) ∧
    (∀ k item, ((tally (fun other => other == item) (fed operations k) : ℚ≥0) : ℚ) ≤
        ((reached k).query item).1.frequency ∧
      IsLeast {total | ∃ i < config.depth,
        total = (colliding config (fed operations k) i (hashFunction config i item) : ℚ)}
        ((reached k).query item).1.frequency) ∧
    (∀ k other, weight (fed operations k ++ fed operations other) ≤ 2 ^ 53 →
      ∃ merged, (reached k).mergeRounded .double (reached other) = .ok merged ∧
        merged.matrix = (sketchOfRounded .double config (fed operations k ++ fed operations other)).matrix) ∧
    (∀ operations', WholeCounts operations' → ∀ k l, (fed operations k).Perm (fed operations' l) →
      (reached k).matrix = ((exec (stepRounded .double) start operations').1 l).matrix) := by
  intro start reached
  have run : exec (stepRounded .double) start operations = exec step start operations := run_double valid counts
  have all := (run_represents valid operations).1
  obtain ⟨replies,cells,queries,merges,orders⟩ := count_min_sketch_exact config valid operations
  simp only [reached,run]
  refine ⟨replies,cells,queries,?_,?_⟩
  · intro k other small
    have countable : Countable (fed operations k ++ fed operations other) := by
      refine ⟨?_,small⟩
      rw [List.forall_mem_append]
      exact ⟨fed_whole counts.whole k,fed_whole counts.whole other⟩
    rw [merge_double (all k) (all other) countable,
      sketchOf_double (validateConfig_positive valid).1 countable]
    exact merges k other
  · intro operations' counts' k l same
    have run' : exec (stepRounded .double) start operations' = exec step start operations' := run_double valid counts'
    rw [run']
    exact orders operations' k l same

theorem whole_counts_exact_doubled :
    let start : Bool → CountMinSketch := fun _ => .initial ⟨4,2,7,1/10,9/10⟩
    let operations := [.insert true "a" 3,.reload true,.merge true true]
    6 ≤ (((exec (stepRounded .double) start operations).1 true).query "a").1.frequency := by
  intro start operations
  have counts : WholeCounts operations := by
    refine ⟨?_,?_⟩
    · intro k item count member
      simp only [operations,List.mem_cons,List.not_mem_nil,or_false,Operation.insert.injEq] at member
      rcases member with ⟨_,_,rfl⟩ | impossible | impossible
      · exact ⟨3,rfl⟩
      · cases impossible
      · cases impossible
    · intro first before
      rw [← List.mem_inits] at before
      revert first
      decide +kernel
  have counted :=
    ((whole_counts_exact ⟨4,2,7,1/10,9/10⟩ (by decide +kernel) operations counts).2.2.1 true "a").1
  refine le_trans ?_ counted
  decide +kernel

end Runs

-- The doubles next to 0.1 and 0.7.
def tenth : ℚ≥0 := (3602879701896397 : ℕ) / (2 ^ 55 : ℕ)

def sevenTenths : ℚ≥0 := (6305039478318694 : ℕ) / (2 ^ 53 : ℕ)

-- Their sum lies between two doubles and is rounded down: the answer falls short of
-- what was inserted.
theorem fractional_counts_fall_short :
    let config : CountMinSketchConfig := ⟨1,1,0,1/10,9/10⟩
    let operations := [.insert () "a" tenth,.insert () "a" sevenTenths]
    validateConfig config = .ok () ∧
    nearestDouble tenth = tenth ∧ nearestDouble sevenTenths = sevenTenths ∧
    (((exec (stepRounded .double) (fun _ => .initial config) operations).1 ()).query "a").1.frequency <
      ((tally (fun other => other == "a") (fed operations ()) : ℚ≥0) : ℚ) := by
  intro config operations
  have first : nearestDouble tenth = tenth := by
    rw [nearestDouble_nonneg (NNRat.cast_nonneg tenth)]
    exact toDouble_dyadic 3602879701896397 55 (by norm_num) (by norm_num) (by norm_num [tenth])
  have second : nearestDouble sevenTenths = sevenTenths := by
    rw [nearestDouble_nonneg (NNRat.cast_nonneg sevenTenths)]
    exact toDouble_dyadic 6305039478318694 53 (by norm_num) (by norm_num) (by norm_num [sevenTenths])
  refine ⟨by decide +kernel,first,second,?_⟩
  have answer : (((exec (stepRounded .double) (fun _ => .initial config) operations).1 ()).query "a").1.frequency =
      nearestDouble (nearestDouble (0 + tenth) + sevenTenths) := by
    simp [operations,config,stepRounded,settle,CountMinSketch.insertRounded,CountMinSketch.updateFillRatio,
      CountMinSketch.initial,initializeMatrix,addRounded,Rounding.add,Rounding.double,CountMinSketch.query,
      CountMinSketch.minFrequency,CountMinSketch.lower,cell,hashFunction,Nat.mod_one,List.range_succ]
  have sum : nearestDouble ((tenth : ℚ) + sevenTenths) = 7205759403792793 / 2 ^ 53 := by
    apply nearestDouble_eq (-1) 7205759403792793 <;> norm_num [tenth,sevenTenths]
  rw [answer,zero_add,first,sum]
  norm_num [operations,fed,record,tenth,sevenTenths,tally]

end PhantomFlow.Sketch
