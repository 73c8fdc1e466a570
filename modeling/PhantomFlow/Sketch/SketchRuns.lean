import Mathlib.Data.List.Induction
import Mathlib.Algebra.Order.Ring.NNRat
import Mathlib.Algebra.Order.Field.Rat
import Mathlib.Order.Bounds.Basic
import PhantomFlow.Library.Machine
import PhantomFlow.Library.Tally
import PhantomFlow.Sketch.CountMinSketch

namespace PhantomFlow.Sketch
open Library Library.Machine

-- Several sketches of one configuration, under their own names. A sketch may be
-- merged into itself.
inductive Operation (ι : Type u) where
  | insert (k : ι) (item : String) (count : ℚ≥0)
  | query (k : ι) (item : String)
  | clear (k : ι)
  | reload (k : ι)
  | merge (k other : ι)

abbrev Stream := List (String × ℚ≥0)

def weight (stream : Stream) : ℚ≥0 := (stream.map Prod.snd).sum

section Machine
variable {ι : Type u} [DecidableEq ι]

-- A call that throws leaves its sketch as it was.
def settle (pool : ι → CountMinSketch) (k : ι) (outcome : Except String CountMinSketch) :
    (ι → CountMinSketch) × Except String (Option FrequencyEstimate) :=
  match outcome with
  | .ok sketch => (Function.update pool k sketch,.ok none)
  | .error message => (pool,.error message)

def step (pool : ι → CountMinSketch) :
    Operation ι → (ι → CountMinSketch) × Except String (Option FrequencyEstimate)
  | .insert k item count => settle pool k (.ok ((pool k).insert item count))
  | .query k item =>
    let answered := (pool k).query item
    (Function.update pool k answered.2,.ok (some answered.1))
  | .clear k => settle pool k (.ok (pool k).clear)
  | .reload k => settle pool k (CountMinSketch.deserialize (pool k).serialize)
  | .merge k other => settle pool k ((pool k).merge (pool other))

def record (streams : ι → Stream) : Operation ι → ι → Stream
  | .insert k item count => Function.update streams k (streams k ++ [(item,count)])
  | .query _ _ | .reload _ => streams
  | .clear k => Function.update streams k []
  | .merge k other => Function.update streams k (streams k ++ streams other)

def fed (operations : List (Operation ι)) : ι → Stream := operations.foldl record (fun _ => [])

end Machine

def sketchOf (config : CountMinSketchConfig) (stream : Stream) : CountMinSketch :=
  stream.foldl (fun sketch entry => sketch.insert entry.1 entry.2) (.initial config)

def colliding (config : CountMinSketchConfig) (stream : Stream) (i j : ℕ) : ℚ≥0 :=
  tally (fun item => hashFunction config i item == j) stream

structure Shaped (config : CountMinSketchConfig) (matrix : List (List ℚ)) : Prop where
  rows : matrix.length = config.depth
  columns : ∀ row ∈ matrix, row.length = config.width

theorem hashFunction_lt (width : 0 < config.width) (i : ℕ) (item : String) :
    hashFunction config i item < config.width := Nat.mod_lt _ width

section Cells
variable {config : CountMinSketchConfig} {matrix : List (List ℚ)}

theorem shaped_initial (config : CountMinSketchConfig) : Shaped config (initializeMatrix config) := by
  refine ⟨by simp [initializeMatrix],?_⟩
  intro row member
  rw [List.eq_of_mem_replicate member,List.length_replicate]

theorem shaped_addToCell (shaped : Shaped config matrix) (i j : ℕ) (count : ℚ) :
    Shaped config (addToCell matrix i j count) := by
  refine ⟨by simp [addToCell,shaped.rows],?_⟩
  intro row member
  obtain ⟨k,bound,rfl⟩ := List.mem_iff_getElem.mp member
  simp only [addToCell,List.length_modify] at bound
  simp only [addToCell,List.getElem_modify]
  split <;> simp [shaped.columns _ (List.getElem_mem bound)]

theorem cell_row (shaped : Shaped config matrix) (bound : i < config.depth) :
    ∃ row ∈ matrix, matrix[i]? = some row ∧ ∀ j, cell matrix i j = row.getD j 0 := by
  have inside : i < matrix.length := by rw [shaped.rows]; exact bound
  exact ⟨matrix[i],List.getElem_mem inside,List.getElem?_eq_getElem inside,by simp [cell,inside]⟩

theorem cell_addToCell (shaped : Shaped config matrix) (count : ℚ) (row : i < config.depth)
    (column : j < config.width) (i' j' : ℕ) :
    cell (addToCell matrix i j count) i' j' = cell matrix i' j' + if i' = i ∧ j' = j then count else 0 := by
  obtain ⟨entries,member,found,_⟩ := cell_row shaped row
  have long : j < entries.length := by rw [shaped.columns entries member]; exact column
  simp only [cell,addToCell,List.getD_eq_getElem?_getD,List.getElem?_modify]
  by_cases here : i' = i
  · subst i'
    by_cases there : j' = j
    · subst j'; simp [found,long]
    · have other : j ≠ j' := fun equal => there equal.symm
      simp [found,there,other]
  · have other : i ≠ i' := fun equal => here equal.symm
    simp [here,other]

theorem cell_initial (config : CountMinSketchConfig) (i j : ℕ) : cell (initializeMatrix config) i j = 0 := by
  simp only [cell,initializeMatrix,List.getD_eq_getElem?_getD,List.getElem?_replicate]
  split
  · simp only [Option.getD_some,List.getElem?_replicate]; split <;> rfl
  · rfl

theorem shaped_ext {other : List (List ℚ)} (shaped : Shaped config matrix) (shaped' : Shaped config other)
    (same : ∀ i < config.depth, ∀ j < config.width, cell matrix i j = cell other i j) : matrix = other := by
  apply List.ext_getElem (by rw [shaped.rows,shaped'.rows])
  intro i inside inside'
  have columns := shaped.columns _ (List.getElem_mem inside)
  have columns' := shaped'.columns _ (List.getElem_mem inside')
  apply List.ext_getElem (by rw [columns,columns'])
  intro j within within'
  have equal := same i (by rw [← shaped.rows]; exact inside) j (by rw [← columns]; exact within)
  simpa [cell,inside,inside',within,within'] using equal

theorem shaped_foldl (shaped : Shaped config matrix) (add : List (List ℚ) → ℕ → List (List ℚ))
    (keeps : ∀ matrix i, Shaped config matrix → Shaped config (add matrix i)) (n : ℕ) :
    Shaped config ((List.range n).foldl add matrix) := by
  induction n with
  | zero => exact shaped
  | succ n ih => rw [List.range_succ,List.foldl_append]; exact keeps _ _ ih

theorem cell_foldl (shaped : Shaped config matrix) (add : List (List ℚ) → ℕ → List (List ℚ)) (amount : ℕ → ℚ)
    (target : ℕ)
    (keeps : ∀ matrix k, Shaped config matrix → Shaped config (add matrix k))
    (adds : ∀ matrix k, Shaped config matrix → k < n →
      cell (add matrix k) i j = cell matrix i j + if k = target then amount k else 0) :
    cell ((List.range n).foldl add matrix) i j = cell matrix i j + if target < n then amount target else 0 := by
  induction n with
  | zero => simp
  | succ n ih =>
      rw [List.range_succ,List.foldl_append]
      have earlier := ih (fun matrix k shaped bound => adds matrix k shaped (Nat.lt_succ_of_lt bound))
      have last := adds _ n (shaped_foldl shaped add keeps n) (Nat.lt_succ_self n)
      simp only [List.foldl_cons,List.foldl_nil,last,earlier]
      rcases Nat.lt_trichotomy target n with below | equal | above
      · simp [below,Nat.lt_succ_of_lt below,Nat.ne_of_gt below]
      · simp [equal]
      · simp [Nat.not_lt_of_gt above,Nat.ne_of_lt above,Nat.not_lt.mpr (Nat.succ_le_of_lt above)]

theorem shaped_mergeMatrix (shaped : Shaped config matrix) (other : List (List ℚ)) :
    Shaped config (CountMinSketch.mergeMatrix config matrix other) :=
  shaped_foldl shaped _ (fun _ _ shaped => shaped_foldl shaped _ (fun _ _ shaped => shaped_addToCell shaped _ _ _) _) _

theorem cell_mergeRow (shaped : Shaped config matrix) (other : List (List ℚ)) (bound : k < config.depth)
    (within : n ≤ config.width) (i j : ℕ) :
    cell ((List.range n).foldl (fun matrix j => addToCell matrix k j (cell other k j)) matrix) i j =
      cell matrix i j + if j < n then (if i = k then cell other k j else 0) else 0 := by
  apply cell_foldl shaped _ (fun j => if i = k then cell other k j else 0) j
    (fun _ _ shaped => shaped_addToCell shaped _ _ _)
  intro matrix column shaped inside
  rw [cell_addToCell shaped _ bound (Nat.lt_of_lt_of_le inside within)]
  by_cases here : i = k <;> by_cases there : j = column <;> simp [here,there,eq_comm]

theorem shaped_mergeRow (shaped : Shaped config matrix) (other : List (List ℚ)) (n k : ℕ) :
    Shaped config ((List.range n).foldl (fun matrix j => addToCell matrix k j (cell other k j)) matrix) :=
  shaped_foldl shaped _ (fun _ _ shaped => shaped_addToCell shaped _ _ _) n

theorem cell_mergeRows (shaped : Shaped config matrix) (other : List (List ℚ)) (within : n ≤ config.depth)
    (column : j < config.width) (i : ℕ) :
    cell ((List.range n).foldl (fun matrix i => (List.range config.width).foldl
        (fun matrix j => addToCell matrix i j (cell other i j)) matrix) matrix) i j =
      cell matrix i j + if i < n then cell other i j else 0 := by
  apply cell_foldl shaped _ (fun i => cell other i j) i (fun _ k shaped => shaped_mergeRow shaped other _ k)
  intro matrix k shaped bound
  rw [cell_mergeRow shaped other (Nat.lt_of_lt_of_le bound within) (le_refl _),if_pos column]
  by_cases here : i = k <;> simp [here,eq_comm]

theorem cell_mergeMatrix (shaped : Shaped config matrix) (other : List (List ℚ)) (row : i < config.depth)
    (column : j < config.width) :
    cell (CountMinSketch.mergeMatrix config matrix other) i j = cell matrix i j + cell other i j := by
  unfold CountMinSketch.mergeMatrix
  rw [cell_mergeRows shaped other (le_refl _) column,if_pos row]

theorem cell_inserted (shaped : Shaped config matrix) (width : 0 < config.width) (item : String) (count : ℚ)
    (within : n ≤ config.depth) (i j : ℕ) :
    cell ((List.range n).foldl (fun matrix i => addToCell matrix i (hashFunction config i item) count) matrix) i j =
      cell matrix i j + if i < n then (if hashFunction config i item = j then count else 0) else 0 := by
  apply cell_foldl shaped _ (fun i => if hashFunction config i item = j then count else 0) i
    (fun _ _ shaped => shaped_addToCell shaped _ _ _)
  intro matrix k shaped bound
  rw [cell_addToCell shaped _ (Nat.lt_of_lt_of_le bound within) (hashFunction_lt width k item)]
  by_cases here : i = k <;> by_cases there : j = hashFunction config k item <;> simp [here,there,eq_comm]

end Cells

structure Represents (config : CountMinSketchConfig) (sketch : CountMinSketch) (stream : Stream) : Prop where
  settings : sketch.config = config
  shaped : Shaped config sketch.matrix
  cells : ∀ i < config.depth, ∀ j < config.width, cell sketch.matrix i j = colliding config stream i j

section Operations
variable {config config' : CountMinSketchConfig} {sketch other : CountMinSketch} {stream stream' : Stream}

theorem represents_initial (config : CountMinSketchConfig) : Represents config (.initial config) [] :=
  ⟨rfl,shaped_initial config,fun i _ j _ => by simp [colliding,CountMinSketch.initial,cell_initial]⟩

theorem represents_clear (represents : Represents config sketch stream) : Represents config sketch.clear [] := by
  obtain ⟨rfl,_,_⟩ := represents
  exact ⟨rfl,shaped_initial _,fun i _ j _ => by simp [colliding,CountMinSketch.clear,cell_initial]⟩

theorem represents_insert (width : 0 < config.width) (represents : Represents config sketch stream)
    (item : String) (count : ℚ≥0) : Represents config (sketch.insert item count) (stream ++ [(item,count)]) := by
  obtain ⟨rfl,shaped,cells⟩ := represents
  refine ⟨rfl,shaped_foldl shaped _ (fun _ _ shaped => shaped_addToCell shaped _ _ _) _,?_⟩
  intro i row j column
  change cell ((List.range sketch.config.depth).foldl _ _) i j = _
  rw [cell_inserted shaped width item count (le_refl _),if_pos row,cells i row j column]
  simp only [colliding,tally_append,tally_singleton,beq_iff_eq]
  split <;> simp

theorem represents_query (represents : Represents config sketch stream) (item : String) :
    Represents config (sketch.query item).2 stream := ⟨represents.settings,represents.shaped,represents.cells⟩

theorem represents_reload (valid : validateConfig config = .ok ()) (represents : Represents config sketch stream) :
    ∃ reloaded, CountMinSketch.deserialize sketch.serialize = .ok reloaded ∧ Represents config reloaded stream := by
  obtain ⟨rfl,shaped,cells⟩ := represents
  simp only [CountMinSketch.deserialize,CountMinSketch.create,CountMinSketch.serialize,valid]
  exact ⟨_,rfl,rfl,shaped,cells⟩

theorem merge_cells (represents : Represents config sketch stream) (represents' : Represents config' other stream')
    (dimensions : config.width = config'.width ∧ config.depth = config'.depth) :
    ∃ merged, sketch.merge other = .ok merged ∧ merged.config = config ∧ Shaped config merged.matrix ∧
      ∀ i < config.depth, ∀ j < config.width,
        cell merged.matrix i j = ((colliding config stream i j + colliding config' stream' i j : ℚ≥0) : ℚ) := by
  obtain ⟨rfl,shaped,cells⟩ := represents
  obtain ⟨rfl,_,cells'⟩ := represents'
  unfold CountMinSketch.merge
  rw [if_neg (fun different => different.elim (fun width => width dimensions.1) (fun depth => depth dimensions.2))]
  refine ⟨_,rfl,rfl,shaped_mergeMatrix shaped _,?_⟩
  intro i row j column
  change cell (CountMinSketch.mergeMatrix _ sketch.matrix other.matrix) i j = _
  rw [cell_mergeMatrix shaped _ row column,cells i row j column,
    cells' i (by rw [← dimensions.2]; exact row) j (by rw [← dimensions.1]; exact column),NNRat.cast_add]

theorem represents_merge (represents : Represents config sketch stream) (represents' : Represents config' other stream')
    (dimensions : config.width = config'.width ∧ config.depth = config'.depth)
    (alike : ∀ i < config.depth, ∀ item, hashFunction config i item = hashFunction config' i item) :
    ∃ merged, sketch.merge other = .ok merged ∧ Represents config merged (stream ++ stream') := by
  obtain ⟨merged,done,settings,shaped,cells⟩ := merge_cells represents represents' dimensions
  refine ⟨merged,done,settings,shaped,?_⟩
  intro i row j column
  rw [cells i row j column]
  simp only [colliding,tally_append,alike i row]

theorem represents_sketchOf (width : 0 < config.width) (stream : Stream) :
    Represents config (sketchOf config stream) stream := by
  induction stream using List.reverseRecOn with
  | nil => exact represents_initial config
  | append_singleton stream entry ih =>
      have next := represents_insert width ih entry.1 entry.2
      simpa only [sketchOf,List.foldl_append,List.foldl_cons,List.foldl_nil] using next

theorem represents_unique (represents : Represents config sketch stream) (represents' : Represents config other stream')
    (same : stream.Perm stream') : sketch.matrix = other.matrix := by
  apply shaped_ext represents.shaped represents'.shaped
  intro i row j column
  rw [represents.cells i row j column,represents'.cells i row j column]
  simp only [colliding,tally_perm _ same]

theorem minimum_exact (value : ℕ → ℚ) (n : ℕ) (positive : 0 < n) :
    ∃ least, (List.range n).foldl (fun least i => some (CountMinSketch.lower (value i) least)) none = some least ∧
      IsLeast {total | ∃ i < n, total = value i} least := by
  induction n with
  | zero => exact absurd positive (Nat.lt_irrefl 0)
  | succ n ih =>
      rw [List.range_succ,List.foldl_append]
      rcases Nat.eq_zero_or_pos n with rfl | several
      · exact ⟨value 0,rfl,⟨0,Nat.zero_lt_one,rfl⟩,fun total ⟨i,bound,equal⟩ => by
          rw [equal,Nat.lt_one_iff.mp bound]⟩
      · obtain ⟨least,found,⟨i,bound,attained⟩,lower⟩ := ih several
        refine ⟨min least (value n),by rw [List.foldl_cons,List.foldl_nil,found]; rfl,?_,?_⟩
        · rcases min_choice least (value n) with left | right
          · exact ⟨i,Nat.lt_succ_of_lt bound,by rw [left,attained]⟩
          · exact ⟨n,Nat.lt_succ_self n,right⟩
        · rintro total ⟨k,below,rfl⟩
          rcases Nat.lt_succ_iff_lt_or_eq.mp below with earlier | rfl
          · exact le_trans (min_le_left _ _) (lower ⟨k,earlier,rfl⟩)
          · exact min_le_right _ _

theorem query_least (depth : 0 < sketch.config.depth) (item : String) :
    IsLeast {total | ∃ i < sketch.config.depth, total = cell sketch.matrix i (hashFunction sketch.config i item)}
      (sketch.query item).1.frequency := by
  obtain ⟨least,found,isLeast⟩ := minimum_exact
    (fun i => cell sketch.matrix i (hashFunction sketch.config i item)) _ depth
  have answered : (sketch.query item).1.frequency = least := by
    simp only [CountMinSketch.query,CountMinSketch.minFrequency]
    rw [found,Option.getD_some]
  rwa [answered]

theorem query_exact (positive : 0 < config.width ∧ 0 < config.depth) (represents : Represents config sketch stream)
    (item : String) :
    IsLeast {total | ∃ i < config.depth, total = (colliding config stream i (hashFunction config i item) : ℚ)}
      (sketch.query item).1.frequency := by
  obtain ⟨rfl,shaped,cells⟩ := represents
  have isLeast := query_least positive.2 item
  refine cast (congrArg (fun totals => IsLeast totals _) ?_) isLeast
  ext total
  refine exists_congr fun i => and_congr_right fun row => ?_
  rw [cells i row _ (hashFunction_lt positive.1 i item)]

theorem query_overestimates (positive : 0 < config.width ∧ 0 < config.depth)
    (represents : Represents config sketch stream) (item : String) :
    ((tally (fun other => other == item) stream : ℚ≥0) : ℚ) ≤ (sketch.query item).1.frequency := by
  obtain ⟨⟨i,_,attained⟩,_⟩ := query_exact positive represents item
  rw [attained]
  refine NNRat.coe_le_coe.mpr (tally_mono ?_ stream)
  intro other same
  rw [beq_iff_eq.mp same]
  exact beq_self_eq_true _

end Operations

section Runs
variable {ι : Type u} [DecidableEq ι] {config : CountMinSketchConfig}

theorem validateConfig_positive (valid : validateConfig config = .ok ()) : 0 < config.width ∧ 0 < config.depth := by
  unfold validateConfig at valid
  split at valid
  · cases valid
  · omega

def Matching (config config' : CountMinSketchConfig) : Prop :=
  (config.width = config'.width ∧ config.depth = config'.depth) ∧
    ∀ i < config.depth, ∀ item, hashFunction config i item = hashFunction config' i item

section Step
variable {configs : ι → CountMinSketchConfig}

theorem settle_represents {pool : ι → CountMinSketch} {streams : ι → Stream}
    (all : ∀ k, Represents (configs k) (pool k) (streams k)) (k : ι) (stream : Stream)
    (settles : ∃ sketch, outcome = .ok sketch ∧ Represents (configs k) sketch stream) :
    (∀ l, Represents (configs l) ((settle pool k outcome).1 l) (Function.update streams k stream l)) ∧
      (settle pool k outcome).2.isOk = true := by
  obtain ⟨sketch,rfl,represents⟩ := settles
  exact ⟨update_related all k represents,rfl⟩

theorem step_represents (valid : ∀ k, validateConfig (configs k) = .ok ()) (pool : ι → CountMinSketch)
    (streams : ι → Stream) (operation : Operation ι)
    (matching : ∀ k other, operation = .merge k other → Matching (configs k) (configs other))
    (all : ∀ k, Represents (configs k) (pool k) (streams k)) :
    (∀ k, Represents (configs k) ((step pool operation).1 k) (record streams operation k)) ∧
      (step pool operation).2.isOk = true := by
  cases operation with
  | insert k item count =>
      have width := (validateConfig_positive (valid k)).1
      exact settle_represents all k _ ⟨_,rfl,represents_insert width (all k) item count⟩
  | query k item =>
      have asked := update_related all k (represents_query (all k) item)
      rw [Function.update_eq_self] at asked
      exact ⟨asked,rfl⟩
  | clear k => exact settle_represents all k _ ⟨_,rfl,represents_clear (all k)⟩
  | reload k =>
      have settled := settle_represents all k _ (represents_reload (valid k) (all k))
      rwa [Function.update_eq_self] at settled
  | merge k other =>
      obtain ⟨dimensions,alike⟩ := matching k other rfl
      exact settle_represents all k _ (represents_merge (all k) (all other) dimensions alike)

end Step

theorem run_represents (valid : validateConfig config = .ok ()) (operations : List (Operation ι)) :
    (∀ k, Represents config ((exec step (fun _ => .initial config) operations).1 k) (fed operations k)) ∧
      ∀ reply ∈ (exec step (fun _ : ι => CountMinSketch.initial config) operations).2, reply.isOk = true :=
  exec_recorded (fun (pool : ι → CountMinSketch) (streams : ι → Stream) =>
    ∀ k, Represents config (pool k) (streams k)) _
    (fun pool streams operation => step_represents (fun _ => valid) pool streams operation
      (fun _ _ _ => ⟨⟨rfl,rfl⟩,fun _ _ _ => rfl⟩)) (fun _ => represents_initial config) operations

-- Every run over any number of sketches: nothing throws, every cell holds the
-- weight of what collides there, a query is the least of its rows and never below
-- the true weight, a merge is the sketch of both streams, and the order in which a
-- content arrived leaves no trace.
theorem count_min_sketch_exact (config : CountMinSketchConfig) (valid : validateConfig config = .ok ())
    (operations : List (Operation ι)) :
    let start : ι → CountMinSketch := fun _ => .initial config
    let reached := (exec step start operations).1
    (∀ reply ∈ (exec step start operations).2, reply.isOk = true) ∧
    (∀ k, ∀ i < config.depth, ∀ j < config.width,
      cell (reached k).matrix i j = colliding config (fed operations k) i j) ∧
    (∀ k item, ((tally (fun other => other == item) (fed operations k) : ℚ≥0) : ℚ) ≤
        ((reached k).query item).1.frequency ∧
      IsLeast {total | ∃ i < config.depth,
        total = (colliding config (fed operations k) i (hashFunction config i item) : ℚ)}
        ((reached k).query item).1.frequency) ∧
    (∀ k other, ∃ merged, (reached k).merge (reached other) = .ok merged ∧
      merged.matrix = (sketchOf config (fed operations k ++ fed operations other)).matrix) ∧
    (∀ operations' k l, (fed operations k).Perm (fed operations' l) →
      (reached k).matrix = ((exec step start operations').1 l).matrix) := by
  intro start reached
  have positive := validateConfig_positive valid
  obtain ⟨all,replies⟩ := run_represents valid operations
  refine ⟨replies,fun k => (all k).cells,?_,?_,?_⟩
  · intro k item
    exact ⟨query_overestimates positive (all k) item,query_exact positive (all k) item⟩
  · intro k other
    obtain ⟨merged,done,represents⟩ := represents_merge (all k) (all other) ⟨rfl,rfl⟩ (fun _ _ _ => rfl)
    exact ⟨merged,done,represents_unique represents (represents_sketchOf positive.1 _) (List.Perm.refl _)⟩
  · intro operations' k l same
    exact represents_unique (all k) ((run_represents valid operations').1 l) same

end Runs
end PhantomFlow.Sketch
