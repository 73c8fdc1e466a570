import Mathlib.Algebra.Order.BigOperators.Group.List
import Mathlib.Data.NNRat.BigOperators
import PhantomFlow.Sketch.SketchRuns

namespace PhantomFlow.Sketch
open Library Library.Machine

def rowTotal (sketch : CountMinSketch) (i : ℕ) : ℚ := (sketch.matrix.getD i []).sum

structure BoundTrue (config : CountMinSketchConfig) (sketch : CountMinSketch) (stream : Stream) : Prop where
  rows : ∀ i < config.depth, rowTotal sketch i = sketch.metrics.totalInserts
  bound : ∀ item, (sketch.query item).1.errorBound = mathE / config.width * weight stream

section Rows
variable {config : CountMinSketchConfig} {sketch : CountMinSketch} {stream : Stream}

theorem row_sum_cells (row : List ℚ) : row.sum = ((List.range row.length).map (fun j => row.getD j 0)).sum := by
  congr 1
  apply List.ext_getElem (by simp)
  intro j inside _
  simp [inside]

-- Every item goes to one column of a row, so a row holds the whole stream.
theorem rowTotal_weight (width : 0 < config.width) (represents : Represents config sketch stream)
    (row : i < config.depth) : rowTotal sketch i = weight stream := by
  obtain ⟨entries,member,found,cells⟩ := cell_row represents.shaped row
  have here : sketch.matrix.getD i [] = entries := by simp [found]
  have columns : (List.range config.width).map (fun j => entries.getD j 0) =
      (List.range config.width).map (fun j => ((colliding config stream i j : ℚ≥0) : ℚ)) := by
    apply List.map_congr_left
    intro j column
    rw [← cells j,represents.cells i row j (List.mem_range.mp column)]
  have shared := tally_classes (hashFunction config i) (hashFunction_lt width i) stream
  rw [rowTotal,here,row_sum_cells,represents.shaped.columns entries member,columns,weight,← shared]
  simp [colliding,NNRat.cast_listSum,Function.comp_def]

end Rows

section Counts
variable {ι : Type u} [DecidableEq ι]

theorem reload_inserts (done : CountMinSketch.deserialize data = .ok sketch) :
    sketch.metrics.totalInserts = data.totalItems := by
  cases created : CountMinSketch.create data.config with
  | error message =>
      rw [CountMinSketch.deserialize,created] at done
      cases done
  | ok fresh =>
      rw [CountMinSketch.deserialize,created] at done
      cases done
      rfl

theorem merge_inserts {sketch other : CountMinSketch} (done : sketch.merge other = .ok merged) :
    merged.metrics.totalInserts = sketch.metrics.totalInserts + other.metrics.totalInserts := by
  unfold CountMinSketch.merge at done
  split at done
  · cases done
  · cases done
    rfl

def Counted (sketch : CountMinSketch) (stream : Stream) : Prop := sketch.metrics.totalInserts = stream.length

theorem step_counted (pool : ι → CountMinSketch) (streams : ι → Stream) (operation : Operation ι)
    (accepted : (step pool operation).2.isOk = true) (all : ∀ k, Counted (pool k) (streams k)) :
    ∀ k, Counted ((step pool operation).1 k) (record streams operation k) := by
  cases operation with
  | insert k item count =>
      apply update_related all k
      rw [Counted,List.length_append,← all k]
      rfl
  | query k item =>
      have asked := update_related (a:=((pool k).query item).2) all k (all k)
      rwa [Function.update_eq_self] at asked
  | clear k => exact update_related all k rfl
  | reload k =>
      cases done : CountMinSketch.deserialize (pool k).serialize with
      | error message =>
          simp only [step,settle,done] at accepted
          cases accepted
      | ok sketch =>
          have same : Counted sketch (streams k) := (reload_inserts done).trans (all k)
          have reloaded := update_related all k same
          rw [Function.update_eq_self] at reloaded
          simpa only [step,settle,done,record] using reloaded
  | merge k other =>
      cases done : (pool k).merge (pool other) with
      | error message =>
          simp only [step,settle,done] at accepted
          cases accepted
      | ok merged =>
          have both : Counted merged (streams k ++ streams other) := by
            rw [Counted,merge_inserts done,List.length_append,all k,all other]
          simpa only [step,settle,done,record] using update_related all k both

theorem fed_inserted (operations : List (Operation ι)) (k : ι) (entry : String × ℚ≥0)
    (listed : entry ∈ fed operations k) : ∃ k', .insert k' entry.1 entry.2 ∈ operations := by
  induction operations using List.reverseRecOn generalizing k with
  | nil => cases listed
  | append_singleton operations operation ih =>
      have earlier (l : ι) (before : entry ∈ fed operations l) :
          ∃ k', .insert k' entry.1 entry.2 ∈ operations ++ [operation] := by
        obtain ⟨k',member⟩ := ih l before
        exact ⟨k',List.mem_append_left _ member⟩
      rw [fed,List.foldl_append,List.foldl_cons,List.foldl_nil] at listed
      change entry ∈ record (fed operations) operation k at listed
      cases operation with
      | insert l item count =>
          simp only [record,Function.update_apply] at listed
          split at listed
          · rcases List.mem_append.mp listed with before | last
            · exact earlier l before
            · cases List.mem_singleton.mp last
              exact ⟨l,by simp⟩
          · exact earlier k listed
      | query | reload => exact earlier k listed
      | clear l =>
          simp only [record,Function.update_apply] at listed
          split at listed
          · cases listed
          · exact earlier k listed
      | merge l other =>
          simp only [record,Function.update_apply] at listed
          split at listed
          · rcases List.mem_append.mp listed with before | merged
            · exact earlier l before
            · exact earlier other merged
          · exact earlier k listed

end Counts

theorem length_le_weight (stream : Stream) (atLeastOne : ∀ entry ∈ stream, 1 ≤ entry.2) :
    (stream.length : ℚ≥0) ≤ weight stream := by
  have least : ∀ count ∈ stream.map Prod.snd, 1 ≤ count := by
    intro count listed
    obtain ⟨entry,member,rfl⟩ := List.mem_map.mp listed
    exact atLeastOne entry member
  simpa [weight] using List.card_nsmul_le_sum (stream.map Prod.snd) 1 least

theorem weight_eq_length_iff (stream : Stream) (atLeastOne : ∀ entry ∈ stream, 1 ≤ entry.2) :
    weight stream = stream.length ↔ ∀ entry ∈ stream, entry.2 = 1 := by
  induction stream with
  | nil => simp [weight]
  | cons entry rest ih =>
      obtain ⟨first,others⟩ := List.forall_mem_cons.mp atLeastOne
      have tail := length_le_weight rest others
      have total : weight (entry :: rest) = entry.2 + weight rest := by simp [weight]
      have length : ((entry :: rest).length : ℚ≥0) = 1 + rest.length := by simp [add_comm]
      rw [List.forall_mem_cons,total,length]
      constructor
      · intro equal
        have single : entry.2 = 1 := by
          refine le_antisymm (le_of_add_le_add_right (a:=weight rest) ?_) first
          rw [equal]
          exact add_le_add_right tail 1
        rw [single] at equal
        exact ⟨single,(ih others).mp (add_left_cancel equal)⟩
      · rintro ⟨single,alike⟩
        rw [single,(ih others).mpr alike]

section Runs
variable {ι : Type u} [DecidableEq ι]

theorem run_counted (config : CountMinSketchConfig) (valid : validateConfig config = .ok ())
    (operations : List (Operation ι)) :
    (∀ k, Represents config ((exec step (fun _ => .initial config) operations).1 k) (fed operations k)) ∧
      ∀ k, Counted ((exec step (fun _ => .initial config) operations).1 k) (fed operations k) := by
  refine (exec_recorded (fun (pool : ι → CountMinSketch) (streams : ι → Stream) =>
    (∀ k, Represents config (pool k) (streams k)) ∧ ∀ k, Counted (pool k) (streams k))
    (fun _ => True) ?_ ⟨fun _ => represents_initial config,fun _ => rfl⟩ operations).1
  rintro pool streams operation ⟨represents,counted⟩
  obtain ⟨next,accepted⟩ := step_represents (fun _ => valid) pool streams operation
    (fun _ _ _ => ⟨⟨rfl,rfl⟩,fun _ _ _ => rfl⟩) represents
  exact ⟨⟨next,step_counted pool streams operation accepted counted⟩,trivial⟩

-- The count goes up by one for an insert of any weight, so the bound is right for a
-- stream of single items and for no other.
theorem error_bound_true_iff (config : CountMinSketchConfig) (valid : validateConfig config = .ok ())
    (operations : List (Operation ι))
    (whole : ∀ k item (count : ℚ≥0), .insert k item count ∈ operations → ∃ n : ℕ, 0 < n ∧ count = n) (k : ι) :
    BoundTrue config ((exec step (fun _ => .initial config) operations).1 k) (fed operations k) ↔
      ∀ entry ∈ fed operations k, entry.2 = 1 := by
  have positive := validateConfig_positive valid
  obtain ⟨all,counted⟩ := run_counted config valid operations
  have represents := all k
  have inserts := counted k
  obtain ⟨reached,run⟩ : ∃ reached, reached = (exec step (fun _ => .initial config) operations).1 k := ⟨_,rfl⟩
  rw [← run] at represents inserts ⊢
  have atLeastOne : ∀ entry ∈ fed operations k, 1 ≤ entry.2 := by
    intro entry listed
    obtain ⟨l,inserted⟩ := fed_inserted operations k entry listed
    obtain ⟨n,several,count⟩ := whole l _ _ inserted
    rw [count]
    exact_mod_cast several
  rw [← weight_eq_length_iff _ atLeastOne]
  have rows (i : ℕ) (row : i < config.depth) := rowTotal_weight positive.1 represents row
  constructor
  · intro bound
    have agreed := (rows 0 positive.2).symm.trans (bound.rows 0 positive.2)
    rw [inserts] at agreed
    exact_mod_cast agreed
  · intro equal
    have agreed : ((weight (fed operations k) : ℚ≥0) : ℚ) = reached.metrics.totalInserts := by
      rw [equal,inserts]
      norm_cast
    refine ⟨fun i row => (rows i row).trans agreed,fun item => ?_⟩
    rw [agreed,← represents.settings]
    rfl

end Runs

def small : CountMinSketchConfig := ⟨4,2,7,1/10,9/10⟩

theorem error_bound_true_merged :
    BoundTrue small ((exec step (fun _ => .initial small)
      [.insert true "a" 1,.insert false "b" 1,.merge true false,.reload true]).1 true)
      (fed [.insert true "a" 1,.insert false "b" 1,.merge true false,.reload true] true) := by
  refine (error_bound_true_iff small (by decide +kernel)
    [.insert true "a" 1,.insert false "b" 1,.merge true false,.reload true] ?_ true).mpr (by decide +kernel)
  intro k item count listed
  refine ⟨1,Nat.one_pos,?_⟩
  simp only [List.mem_cons,List.not_mem_nil,Operation.insert.injEq,reduceCtorEq,or_false] at listed
  rcases listed with ⟨-,-,rfl⟩ | ⟨-,-,rfl⟩
  · exact Nat.cast_one.symm
  · exact Nat.cast_one.symm

theorem error_bound_counts_calls :
    rowTotal ((CountMinSketch.initial small).insert "a" 3) 0 = 3 ∧
      ((CountMinSketch.initial small).insert "a" 3).metrics.totalInserts = 1 ∧
      (((CountMinSketch.initial small).insert "a" 3).query "a").1.errorBound = mathE / 4 * 1 := by
  decide +kernel

end PhantomFlow.Sketch
