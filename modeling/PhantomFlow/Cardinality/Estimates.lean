import Mathlib.Algebra.Order.BigOperators.Group.List
import Mathlib.Analysis.Complex.ExponentialBounds
import Mathlib.Tactic.Linarith
import Mathlib.Tactic.Positivity
import PhantomFlow.Cardinality.HyperLogLogRuns

namespace PhantomFlow.Cardinality
open Library Library.Machine

namespace HyperLogLog

section Raw
variable {K : Type} [Field K] [LinearOrder K] (hll : HyperLogLog K)

def registerSum : K := ((List.range (2 ^ hll.config.precision)).map (fun i => (1 / lit 2 ^ hll.registers.get i : K))).sum

-- Where `applyBiasCorrection` counts the empty registers.
def CountsLinearly : Prop :=
  hll.config.biasCorrection = true ∧ hll.calculateRawEstimate ≤ lit (5/2) * hll.registerCount ∧ hll.zeros ≠ 0

structure EstimateDefined : Prop where
  divisor : hll.registerSum ≠ 0
  counting : hll.calculateRawEstimate ≤ lit (5/2) * hll.registerCount ∧ hll.zeros ≠ 0 →
    (hll.zeros : K) ≠ 0 ∧ 0 < hll.registerCount / hll.zeros
  large : ¬ (hll.calculateRawEstimate ≤ lit (5/2) * hll.registerCount ∧ hll.zeros ≠ 0) →
    ¬ hll.calculateRawEstimate ≤ lit (1/30) * lit 2 ^ 32 → 0 < 1 - hll.calculateRawEstimate / lit 2 ^ 32

variable [IsStrictOrderedRing K]

theorem registerCount_pos : 0 < hll.registerCount := by
  unfold registerCount
  exact_mod_cast Nat.two_pow_pos hll.config.precision

theorem registerSum_pos : 0 < hll.registerSum := by
  have two : (0 : K) < lit 2 := by simp
  apply List.sum_pos
  · intro share listed
    obtain ⟨i,_,rfl⟩ := List.mem_map.mp listed
    positivity
  · simp

theorem alpha_pos : 0 < hll.alpha := by
  have registers := hll.registerCount_pos
  unfold alpha
  split <;> simp only [lit_cast]
  · norm_num
  · norm_num
  · norm_num
  · have offset : (0 : K) < ((1079/1000 : ℚ) : K) := by norm_num
    have factor : (0 : K) < ((7213/10000 : ℚ) : K) := by norm_num
    positivity

theorem calculateRawEstimate_lt_iff (bound : K) :
    hll.calculateRawEstimate < bound ↔ hll.alpha * hll.registerCount * hll.registerCount < bound * hll.registerSum :=
  div_lt_iff₀ hll.registerSum_pos

theorem small_of_counting (range : hll.config.precision ≤ 16)
    (counting : hll.calculateRawEstimate ≤ lit (5/2) * hll.registerCount) : hll.calculateRawEstimate < lit 2 ^ 32 := by
  have registers : hll.registerCount ≤ ((2 ^ 16 : ℕ) : K) := by
    unfold registerCount
    exact_mod_cast Nat.pow_le_pow_right Nat.two_pos range
  simp only [lit_cast] at counting ⊢
  norm_num at counting registers ⊢
  linarith

variable (math : JsMath K)

-- For every array of registers: the estimate is a number exactly where the raw one
-- stays below 2^32.
theorem estimate_defined_iff (range : 4 ≤ hll.config.precision ∧ hll.config.precision ≤ 16)
    (correction : hll.config.biasCorrection = true) :
    (hll.EstimateDefined ∧ ∃ value, hll.estimate math = .finite value) ↔
      hll.alpha * hll.registerCount * hll.registerCount < lit 2 ^ 32 * hll.registerSum := by
  rw [← hll.calculateRawEstimate_lt_iff]
  have divisor := ne_of_gt hll.registerSum_pos
  have range' : (0 : K) < lit 2 ^ 32 := by simp
  have argument : 0 < 1 - hll.calculateRawEstimate / lit 2 ^ 32 ↔ hll.calculateRawEstimate < lit 2 ^ 32 := by
    rw [sub_pos,div_lt_one range']
  have corrected : hll.estimate math = hll.applyBiasCorrection math hll.calculateRawEstimate := by
    rw [estimate,if_pos correction]
  rw [corrected,applyBiasCorrection]
  by_cases counting : hll.calculateRawEstimate ≤ lit (5/2) * hll.registerCount ∧ hll.zeros ≠ 0
  · have some' : (hll.zeros : K) ≠ 0 := Nat.cast_ne_zero.mpr counting.2
    have positive : 0 < hll.registerCount / hll.zeros :=
      div_pos hll.registerCount_pos (Nat.cast_pos.mpr (Nat.pos_of_ne_zero counting.2))
    refine iff_of_true ⟨⟨divisor,fun _ => ⟨some',positive⟩,fun not => absurd counting not⟩,?_⟩
      (hll.small_of_counting range.2 counting.1)
    rw [if_pos counting,JsNumber.logarithm,if_pos positive]
    exact ⟨_,rfl⟩
  · rw [if_neg counting]
    by_cases moderate : hll.calculateRawEstimate ≤ lit (1/30) * lit 2 ^ 32
    · have small : hll.calculateRawEstimate < lit 2 ^ 32 := by
        refine lt_of_le_of_lt moderate ?_
        simp only [lit_cast]
        norm_num
      rw [if_pos moderate]
      exact iff_of_true ⟨⟨divisor,fun yes => absurd yes counting,fun _ large => absurd moderate large⟩,_,rfl⟩ small
    · rw [if_neg moderate]
      constructor
      · rintro ⟨defined,-⟩
        exact argument.mp (defined.large counting moderate)
      · intro small
        have positive := argument.mpr small
        refine ⟨⟨divisor,fun yes => absurd yes counting,fun _ _ => positive⟩,?_⟩
        rw [JsNumber.logarithm,if_pos positive]
        exact ⟨_,rfl⟩

omit [LinearOrder K] [IsStrictOrderedRing K] in
theorem registerSum_constant (same : ∀ i < 2 ^ hll.config.precision, hll.registers.get i = rank) :
    hll.registerSum = hll.registerCount / lit 2 ^ rank := by
  have shares : (List.range (2 ^ hll.config.precision)).map (fun i => (1 / lit 2 ^ hll.registers.get i : K)) =
      List.replicate (2 ^ hll.config.precision) (1 / lit 2 ^ rank) := by
    have constant := List.map_congr_left (l:=List.range (2 ^ hll.config.precision))
      (f:=fun i => (1 / lit 2 ^ hll.registers.get i : K)) (g:=fun _ => 1 / lit 2 ^ rank)
      (fun i listed => by rw [same i (List.mem_range.mp listed)])
    rwa [List.map_const',List.length_range] at constant
  rw [registerSum,shares,List.sum_replicate,nsmul_eq_mul,registerCount,mul_one_div]

end Raw

def levelled (rank : ℕ) : HyperLogLog ℝ :=
  ⟨⟨16,.murmur3,true,false,10⟩,.dense (List.replicate 65536 rank),⟨0,0,.finite 0⟩⟩

theorem levelled_count (rank : ℕ) : (levelled rank).registerCount = 65536 := by
  change ((2 ^ 16 : ℕ) : ℝ) = 65536
  norm_num

theorem levelled_alpha (rank : ℕ) : (levelled rank).alpha = 7213 / 10000 / (1 + 1079 / 1000 / 65536) := by
  have other : (levelled rank).alpha = lit (7213/10000) / (1 + lit (1079/1000) / (levelled rank).registerCount) := rfl
  rw [other,levelled_count]
  norm_num

theorem levelled_sum (rank : ℕ) : (levelled rank).registerSum = 65536 / (2 : ℝ) ^ rank := by
  have all : ∀ i < 2 ^ (levelled rank).config.precision, (levelled rank).registers.get i = rank := by
    intro i inside
    have within : i < 65536 := inside
    change (List.replicate 65536 rank).getD i 0 = rank
    rw [List.getD_eq_getElem?_getD,List.getElem?_replicate,if_pos within]
    rfl
  rw [(levelled rank).registerSum_constant all,levelled_count,lit_cast]
  norm_num

theorem estimate_defined_levelled :
    (levelled 1).EstimateDefined ∧ ∃ value, (levelled 1).estimate realMath = .finite value := by
  apply ((levelled 1).estimate_defined_iff realMath ⟨by decide,by decide⟩ rfl).mpr
  rw [levelled_sum,levelled_count,levelled_alpha,lit_cast]
  norm_num

-- Rank 17 everywhere, as about six billion visitors leave it.
theorem estimate_undefined : ¬ (levelled 17).EstimateDefined ∧ (levelled 17).estimate realMath = .nan := by
  have raw : (levelled 17).calculateRawEstimate =
      7213 / 10000 / (1 + 1079 / 1000 / 65536) * 65536 * 65536 / (65536 / (2 : ℝ) ^ 17) := by
    rw [← levelled_sum,← levelled_alpha 17,← levelled_count 17]
    rfl
  have above : lit 2 ^ 32 < (levelled 17).calculateRawEstimate := by
    rw [raw,lit_cast]
    norm_num
  have many : ¬ (levelled 17).calculateRawEstimate ≤ lit (5/2) * (levelled 17).registerCount := by
    rw [raw,levelled_count,lit_cast]
    norm_num
  have large : ¬ (levelled 17).calculateRawEstimate ≤ lit (1/30) * lit 2 ^ 32 := by
    rw [raw,lit_cast,lit_cast]
    norm_num
  have range : (0 : ℝ) < lit 2 ^ 32 := by simp
  have argument : 1 - (levelled 17).calculateRawEstimate / lit 2 ^ 32 < 0 := by
    rw [sub_neg,one_lt_div range]
    exact above
  refine ⟨fun defined => ?_,?_⟩
  · exact absurd (defined.large (fun counting => many counting.1) large) (not_lt.mpr (le_of_lt argument))
  · have corrected : (levelled 17).estimate realMath = (levelled 17).applyBiasCorrection realMath
        (levelled 17).calculateRawEstimate := rfl
    rw [corrected,applyBiasCorrection,if_neg (fun counting => many counting.1),if_neg large,JsNumber.logarithm,
      if_neg (not_lt.mpr (le_of_lt argument)),if_neg (ne_of_lt argument)]
    rfl

section Growth
variable {K : Type} [Field K] [LinearOrder K] [IsStrictOrderedRing K] {a b : HyperLogLog K}

structure Grown (a b : HyperLogLog K) : Prop where
  settings : b.config = a.config
  registers : ∀ i < 2 ^ a.config.precision, a.registers.get i ≤ b.registers.get i

omit [LinearOrder K] [IsStrictOrderedRing K] in
theorem Grown.count (grown : Grown a b) : b.registerCount = a.registerCount := by
  rw [registerCount,registerCount,grown.settings]

theorem Grown.sum (grown : Grown a b) : b.registerSum ≤ a.registerSum := by
  rw [registerSum,registerSum,grown.settings]
  apply List.sum_le_sum
  intro i inside
  have more := grown.registers i (List.mem_range.mp inside)
  have atLeast : (1 : K) ≤ lit 2 := by simp
  exact one_div_le_one_div_of_le (pow_pos (lt_of_lt_of_le one_pos atLeast) _) (pow_le_pow_right₀ atLeast more)

theorem Grown.raw (grown : Grown a b) : a.calculateRawEstimate ≤ b.calculateRawEstimate := by
  have alpha : b.alpha = a.alpha := by
    rw [HyperLogLog.alpha,HyperLogLog.alpha,grown.settings,grown.count]
  have total : 0 ≤ a.alpha * a.registerCount * a.registerCount := by
    have first := a.alpha_pos
    have second := a.registerCount_pos
    positivity
  change a.alpha * a.registerCount * a.registerCount / a.registerSum ≤
    b.alpha * b.registerCount * b.registerCount / b.registerSum
  rw [alpha,grown.count]
  exact div_le_div_of_nonneg_left total b.registerSum_pos grown.sum

omit [Field K] [LinearOrder K] [IsStrictOrderedRing K] in
theorem Grown.zeros (grown : Grown a b) : b.zeros ≤ a.zeros := by
  rw [HyperLogLog.zeros,HyperLogLog.zeros,grown.settings]
  apply List.countP_mono_left
  intro i inside empty
  have more := grown.registers i (List.mem_range.mp inside)
  simp only [decide_eq_true_eq] at empty ⊢
  omega

end Growth

section Switch
variable {a b : HyperLogLog ℝ}

noncomputable def linearCount (hll : HyperLogLog ℝ) : ℝ := Real.log (hll.registerCount / hll.zeros) * hll.registerCount

def FallsBack (a b : HyperLogLog ℝ) : Prop :=
  a.CountsLinearly ∧ ¬ b.CountsLinearly ∧ b.calculateRawEstimate < a.linearCount

def NotLowered (a b : HyperLogLog ℝ) : Prop :=
  (∃ x y, a.estimate realMath = .finite x ∧ b.estimate realMath = .finite y ∧ x ≤ y) ∧
    ∃ m n : ℤ, (a.count realMath).1.count = .finite (m : ℝ) ∧ (b.count realMath).1.count = .finite (n : ℝ) ∧ m ≤ n

theorem estimate_linear (counts : a.CountsLinearly) : a.estimate realMath = .finite a.linearCount := by
  have positive : 0 < a.registerCount / a.zeros :=
    div_pos a.registerCount_pos (Nat.cast_pos.mpr (Nat.pos_of_ne_zero counts.2.2))
  rw [estimate,if_pos counts.1,applyBiasCorrection,if_pos counts.2,JsNumber.logarithm,if_pos positive]
  rfl

theorem estimate_raw (below : a.calculateRawEstimate ≤ lit (1/30) * lit 2 ^ 32) (counts : ¬ a.CountsLinearly) :
    a.estimate realMath = .finite a.calculateRawEstimate := by
  unfold estimate
  split
  · rename_i correction
    rw [applyBiasCorrection,if_neg (fun counting => counts ⟨correction,counting⟩),if_pos below]
  · rfl

theorem count_rounded (hll : HyperLogLog ℝ) (found : hll.estimate realMath = .finite x) :
    (hll.count realMath).1.count = .finite ((⌊x + lit (1/2)⌋ : ℤ) : ℝ) := by
  rw [HyperLogLog.count,found]
  rfl

theorem notLowered_iff (first : a.estimate realMath = .finite x) (second : b.estimate realMath = .finite y) :
    NotLowered a b ↔ x ≤ y := by
  constructor
  · rintro ⟨⟨x',y',first',second',order⟩,-⟩
    rw [first] at first'
    rw [second] at second'
    cases first'
    cases second'
    exact order
  · intro order
    refine ⟨⟨x,y,first,second,order⟩,_,_,count_rounded a first,count_rounded b second,?_⟩
    exact Int.floor_le_floor (add_le_add_left order _)

theorem Grown.linearCount (grown : Grown a b) (some' : b.zeros ≠ 0) : a.linearCount ≤ b.linearCount := by
  have registers := a.registerCount_pos
  have fewer : (b.zeros : ℝ) ≤ a.zeros := by exact_mod_cast grown.zeros
  have left : (0 : ℝ) < b.zeros := Nat.cast_pos.mpr (Nat.pos_of_ne_zero some')
  rw [HyperLogLog.linearCount,HyperLogLog.linearCount,grown.count]
  apply mul_le_mul_of_nonneg_right _ (le_of_lt registers)
  apply Real.log_le_log (div_pos registers (left.trans_le fewer))
  exact div_le_div_of_nonneg_left (le_of_lt registers) left fewer

-- The raw estimate and the count of empty registers only grow, and once the raw
-- estimate is used it stays in use. What is left is the step from one to the other.
theorem grown_notLowered_iff (grown : Grown a b) (below : b.calculateRawEstimate < lit (1/30) * lit 2 ^ 32) :
    NotLowered a b ↔ ¬ FallsBack a b := by
  by_cases before : a.CountsLinearly
  · by_cases after : b.CountsLinearly
    · rw [notLowered_iff (estimate_linear before) (estimate_linear after)]
      exact iff_of_true (grown.linearCount after.2.2) (fun falls => falls.2.1 after)
    · rw [notLowered_iff (estimate_linear before) (estimate_raw (le_of_lt below) after)]
      constructor
      · exact fun order falls => absurd falls.2.2 (not_lt.mpr order)
      · exact fun stays => not_lt.mp (fun lower => stays ⟨before,after,lower⟩)
  · have after : ¬ b.CountsLinearly := by
      intro counts
      apply before
      refine ⟨by rw [← grown.settings]; exact counts.1,grown.raw.trans ?_,?_⟩
      · rw [← grown.count]
        exact counts.2.1
      · have fewer := grown.zeros
        have some' := counts.2.2
        omega
    have below' := grown.raw.trans (le_of_lt below)
    rw [notLowered_iff (estimate_raw below' before) (estimate_raw (le_of_lt below) after)]
    exact iff_of_true grown.raw (fun falls => before falls.1)

end Switch
end HyperLogLog

section Runs
variable {ι : Type u} [DecidableEq ι] {K : Type} [Field K] [LinearOrder K] [IsStrictOrderedRing K]
  {config : HyperLogLogConfig} {hll other : HyperLogLog K} {elements elements' : Finset String}

omit [Field K] [LinearOrder K] [IsStrictOrderedRing K] in
theorem add_grown (represents : Represents config hll elements) (element : String) :
    HyperLogLog.Grown hll (hll.add element) := by
  have added := represents_add represents element
  refine ⟨added.settings.trans represents.settings.symm,?_⟩
  intro i inside
  rw [represents.settings] at inside
  rw [represents.registers i inside,added.registers i inside,highest_insert]
  split
  · exact le_max_right _ _
  · exact le_refl _

omit [Field K] [LinearOrder K] [IsStrictOrderedRing K] in
theorem merge_grown (represents : Represents config hll elements) (represents' : Represents config other elements')
    (done : hll.merge other = .ok outcome) : HyperLogLog.Grown hll outcome.1 := by
  obtain ⟨outcome',done',joined,-⟩ := represents_merge represents represents' rfl rfl
  rw [done] at done'
  cases done'
  refine ⟨joined.settings.trans represents.settings.symm,?_⟩
  intro i inside
  rw [represents.settings] at inside
  rw [represents.registers i inside,joined.registers i inside,highest_union]
  exact le_max_left _ _

end Runs

theorem reached_represents {ι : Type u} [DecidableEq ι] (config : HyperLogLogConfig)
    (valid : validateConfig config = .ok ()) (operations : List (Operation ι)) (k : ι) :
    Represents config ((exec (step realMath) (fun _ => .initial config) operations).1 k) (fed operations k) :=
  (exec_recorded (fun (pool : ι → HyperLogLog ℝ) (given : ι → Finset String) =>
    ∀ k, Represents config (pool k) (given k)) (fun reply => reply.isOk = true)
    (fun pool given operation => step_represents realMath (fun _ => valid) pool given operation
      (fun _ _ _ => ⟨rfl,rfl⟩)) (fun _ => represents_initial config) operations).1 k

-- Every run over any number of instances of one configuration: adding and merging
-- lower the estimate exactly where they leave the counting of empty registers for a
-- raw estimate below it.
theorem count_notLowered_iff {ι : Type u} [DecidableEq ι] (config : HyperLogLogConfig)
    (valid : validateConfig config = .ok ()) (operations : List (Operation ι)) (k : ι) :
    let reached := (exec (step realMath) (fun _ => .initial config) operations).1
    (∀ element, ((reached k).add element).calculateRawEstimate < lit (1/30) * lit 2 ^ 32 →
      ((reached k).NotLowered ((reached k).add element) ↔ ¬ (reached k).FallsBack ((reached k).add element))) ∧
    (∀ other, ∃ outcome, (reached k).merge (reached other) = .ok outcome ∧
      (outcome.1.calculateRawEstimate < lit (1/30) * lit 2 ^ 32 →
        ((reached k).NotLowered outcome.1 ↔ ¬ (reached k).FallsBack outcome.1))) := by
  intro reached
  have all := reached_represents config valid operations
  refine ⟨?_,?_⟩
  · intro element below
    exact HyperLogLog.grown_notLowered_iff (add_grown (all k) element) below
  · intro other
    obtain ⟨outcome,done,-,-⟩ := represents_merge (all k) (all other) rfl rfl
    exact ⟨outcome,done,HyperLogLog.grown_notLowered_iff (merge_grown (all k) (all other) done)⟩

def smallConfig : HyperLogLogConfig := ⟨4,.fnv1a,true,false,10⟩

def visitors : List String :=
  ["a2","a3","a4","a5","a6","a7","a8","a9","a10","a11","a14","a15","a16","a17","a26"]

noncomputable def visited (operations : List (Operation Unit)) : HyperLogLog ℝ :=
  (exec (step realMath) (fun _ => .initial smallConfig) operations).1 ()

theorem rawEstimate_small (hll : HyperLogLog ℝ) (precision : hll.config.precision = 4)
    (registers : hll.registers = .dense values) (all : values.length = 16) :
    hll.calculateRawEstimate = 673 / 1000 * 16 * 16 / (values.map (fun rank => 1 / (2 : ℝ) ^ rank)).sum := by
  have shares : (List.range 16).map (fun i => (1 / lit 2 ^ hll.registers.get i : ℝ)) =
      values.map (fun rank => 1 / (2 : ℝ) ^ rank) := by
    apply List.ext_getElem
    · simp [all]
    · intro i inside inside'
      have bound : i < values.length := by simpa using inside'
      simp [registers,HLLRegisters.get,List.getD_eq_getElem?_getD,List.getElem?_eq_getElem bound]
  have count : hll.registerCount = 16 := by
    rw [HyperLogLog.registerCount,precision]
    norm_num
  have alpha : hll.alpha = 673 / 1000 := by
    rw [HyperLogLog.alpha,precision]
    norm_num
  rw [HyperLogLog.calculateRawEstimate,precision,count,alpha]
  exact congrArg (fun sum => 673 / 1000 * 16 * 16 / sum) (congrArg List.sum shares)

section LastEmpty
variable {a b : HyperLogLog ℝ} (settings : a.config = smallConfig) (settings' : b.config = smallConfig)
  (registers : a.registers = .dense [1,5,1,1,1,1,1,0,5,1,5,5,5,5,5,5])
  (registers' : b.registers = .dense [1,5,1,1,1,1,1,1,5,1,5,5,5,5,5,5])
include settings registers

theorem estimate_oneEmpty : a.CountsLinearly ∧ a.estimate realMath = .finite (Real.log 2 * 64) := by
  have precision : a.config.precision = 4 := by rw [settings]; rfl
  have correction : a.config.biasCorrection = true := by rw [settings]; rfl
  have count : a.registerCount = 16 := by
    rw [HyperLogLog.registerCount,precision]
    norm_num
  have zeros : a.zeros = 1 := by
    rw [HyperLogLog.zeros,precision,registers]
    decide
  have counts : a.CountsLinearly := by
    refine ⟨correction,?_,by omega⟩
    rw [rawEstimate_small a precision registers rfl,count]
    norm_num
  have power : Real.log 16 = 4 * Real.log 2 := by
    rw [← Real.log_rpow (by norm_num)]
    norm_num
  refine ⟨counts,?_⟩
  rw [HyperLogLog.estimate_linear counts,HyperLogLog.linearCount,count,zeros,Nat.cast_one,div_one,power]
  congr 1
  ring

include settings' registers'

theorem lowered_lastEmpty : b.calculateRawEstimate < lit (1/30) * lit 2 ^ 32 ∧ ¬ a.NotLowered b ∧
    (a.count realMath).1.count = .finite (44 : ℤ) ∧ (b.count realMath).1.count = .finite (41 : ℤ) := by
  have lower := Real.log_two_gt_d9
  have upper := Real.log_two_lt_d9
  have precision : b.config.precision = 4 := by rw [settings']; rfl
  have zeros : b.zeros = 0 := by
    rw [HyperLogLog.zeros,precision,registers']
    decide
  have raw : b.calculateRawEstimate = 673 * 64 / 1062.5 := by
    rw [rawEstimate_small b precision registers' rfl]
    norm_num
  have below : b.calculateRawEstimate < lit (1/30) * lit 2 ^ 32 := by
    rw [raw]
    norm_num
  have before := (estimate_oneEmpty settings registers).2
  have after : b.estimate realMath = .finite (673 * 64 / 1062.5) := by
    rw [HyperLogLog.estimate_raw (le_of_lt below) (fun counts => counts.2.2 zeros),raw]
  refine ⟨below,?_,?_,?_⟩
  · rw [HyperLogLog.notLowered_iff before after]
    norm_num
    linarith
  · rw [HyperLogLog.count_rounded a before]
    congr 2
    rw [Int.floor_eq_iff,lit_cast]
    norm_num
    constructor <;> linarith
  · rw [HyperLogLog.count_rounded b after]
    congr 2
    rw [Int.floor_eq_iff,lit_cast]
    norm_num

end LastEmpty

-- A visitor who fills the last empty register with a high rank takes the estimate over
-- the switch, and does not lower it.
theorem count_notLowered_crossing :
    (visited (visitors.map (.add ()))).NotLowered ((visited (visitors.map (.add ()))).add "b8") := by
  have reached : Represents smallConfig (visited (visitors.map (.add ()))) _ :=
    reached_represents smallConfig (by decide) (visitors.map (.add ())) ()
  have next := (add_grown reached "b8").settings.trans reached.settings
  have registers : ((visited (visitors.map (.add ()))).add "b8").registers =
      .dense [1,5,1,1,1,1,1,5,5,1,5,5,5,5,5,5] := by decide +kernel
  have raw : ((visited (visitors.map (.add ()))).add "b8").calculateRawEstimate = 673 * 64 / 945.3125 := by
    rw [rawEstimate_small _ (congrArg HyperLogLogConfig.precision next) registers rfl]
    norm_num
  have small : ((visited (visitors.map (.add ()))).add "b8").calculateRawEstimate < lit (1/30) * lit 2 ^ 32 := by
    rw [raw]
    norm_num
  apply ((count_notLowered_iff smallConfig (by decide) (visitors.map (.add ())) ()).1 "b8" small).mpr
  intro falls
  obtain ⟨counts,before⟩ := estimate_oneEmpty reached.settings (by decide +kernel)
  have linear : (visited (visitors.map (.add ()))).linearCount = Real.log 2 * 64 :=
    JsNumber.finite.inj ((HyperLogLog.estimate_linear counts).symm.trans before)
  have below : ((visited (visitors.map (.add ()))).add "b8").calculateRawEstimate <
    (visited (visitors.map (.add ()))).linearCount := falls.2.2
  have upper := Real.log_two_lt_d9
  rw [raw,linear] at below
  norm_num at below
  linarith

-- The visitor who fills the last empty register: 44 before, 41 after.
theorem count_lowered :
    ((visited (visitors.map (.add ()))).add "a27").calculateRawEstimate < lit (1/30) * lit 2 ^ 32 ∧
    ¬ (visited (visitors.map (.add ()))).NotLowered ((visited (visitors.map (.add ()))).add "a27") ∧
    ((visited (visitors.map (.add ()))).count realMath).1.count = .finite (44 : ℤ) ∧
    (((visited (visitors.map (.add ()))).add "a27").count realMath).1.count = .finite (41 : ℤ) := by
  have reached : Represents smallConfig (visited (visitors.map (.add ()))) _ :=
    reached_represents smallConfig (by decide) (visitors.map (.add ())) ()
  apply lowered_lastEmpty reached.settings ((add_grown reached "a27").settings.trans reached.settings)
  · decide +kernel
  · decide +kernel

end PhantomFlow.Cardinality
