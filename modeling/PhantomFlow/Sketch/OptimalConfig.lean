import Mathlib.Analysis.Complex.ExponentialBounds
import Mathlib.Tactic.FieldSimp
import Mathlib.Tactic.Linarith
import Mathlib.Tactic.Positivity
import Mathlib.Tactic.Ring
import PhantomFlow.Library.RealMath
import PhantomFlow.Sketch.CountMinSketch

namespace PhantomFlow.Sketch
open Library

-- The configuration of `CountMinSketchConfig` over any field of numbers.
structure OptimalConfig (K : Type u) where
  width : ℕ
  depth : ℕ
  hashSeed : ℤ
  errorRate : K
  confidence : K

section Numbers
variable {K : Type u} [Field K] [LinearOrder K] [FloorRing K]

-- `createOptimalConfig` with `Math.E` as a parameter.
def optimalConfig (math : JsMath K) (e random errorRate confidence : K) (maxMemoryBytes : Option K) :
    OptimalConfig K :=
  let width := ⌈e / errorRate⌉.toNat
  let depth := ⌈math.log (1 / (1 - confidence))⌉.toNat
  let hashSeed := ⌊random * lit 1000000⌋
  let estimatedMemory : K := (width * depth * 4 : ℕ)
  let limit := maxMemoryBytes.getD 0
  if limit ≠ 0 ∧ limit < estimatedMemory then
    let scaleFactor := math.sqrt (limit / estimatedMemory)
    let scaledWidth := (max 1 ⌊width * scaleFactor⌋).toNat
    let scaledDepth := (max 1 ⌊depth * scaleFactor⌋).toNat
    ⟨scaledWidth,scaledDepth,hashSeed,errorRate * (width / scaledWidth),confidence * (depth / scaledDepth)⟩
  else ⟨width,depth,hashSeed,errorRate,confidence⟩

def OptimalConfig.validate (config : OptimalConfig K) : Except String Unit :=
  if config.width = 0 ∨ config.depth = 0 then throw "Width and depth must be positive integers"
  else if config.errorRate ≤ 0 ∨ 1 ≤ config.errorRate then throw "Error rate must be between 0 and 1"
  else if config.confidence ≤ 0 ∨ 1 ≤ config.confidence then throw "Confidence must be between 0 and 1"
  else pure ()

-- `Array(n)` takes lengths below 2^32.
def maxArrayLength : ℕ := 4294967295

-- The constructor: after the validation it allocates `depth` rows of `width` cells.
def OptimalConfig.construct (config : OptimalConfig K) : Except String Unit := do
  config.validate
  if maxArrayLength < config.depth ∨ maxArrayLength < config.width then throw "Invalid array length"

end Numbers

def OptimalConfig.toConfig (config : OptimalConfig ℚ) : CountMinSketchConfig :=
  ⟨config.width,config.depth,config.hashSeed,config.errorRate,config.confidence⟩

theorem optimalConfig_rational (math : JsMath ℚ) (random errorRate confidence : ℚ) (maxMemoryBytes : Option ℚ) :
    (optimalConfig math mathE random errorRate confidence maxMemoryBytes).toConfig =
      createOptimalConfig math random errorRate confidence maxMemoryBytes := by
  unfold optimalConfig createOptimalConfig
  push_cast
  dsimp only [lit]
  split <;> rfl

theorem validate_rational (config : OptimalConfig ℚ) : validateConfig config.toConfig = config.validate := rfl

section Acceptance
variable {K : Type u} [Field K] [LinearOrder K]

theorem construct_ok_iff (config : OptimalConfig K) :
    config.construct = .ok () ↔
      (0 < config.width ∧ config.width ≤ maxArrayLength) ∧ (0 < config.depth ∧ config.depth ≤ maxArrayLength) ∧
        (0 < config.errorRate ∧ config.errorRate < 1) ∧ 0 < config.confidence ∧ config.confidence < 1 := by
  unfold OptimalConfig.construct OptimalConfig.validate
  by_cases dimensions : config.width = 0 ∨ config.depth = 0
  · rw [if_pos dimensions]
    exact iff_of_false nofun fun all => by omega
  · rw [if_neg dimensions]
    by_cases rate : config.errorRate ≤ 0 ∨ 1 ≤ config.errorRate
    · rw [if_pos rate]
      exact iff_of_false nofun fun all => rate.elim (not_le.mpr all.2.2.1.1) (not_le.mpr all.2.2.1.2)
    · rw [if_neg rate]
      obtain ⟨above,below⟩ := not_or.mp rate
      by_cases trust : config.confidence ≤ 0 ∨ 1 ≤ config.confidence
      · rw [if_pos trust]
        exact iff_of_false nofun fun all => trust.elim (not_le.mpr all.2.2.2.1) (not_le.mpr all.2.2.2.2)
      · rw [if_neg trust]
        obtain ⟨above',below'⟩ := not_or.mp trust
        by_cases long : maxArrayLength < config.depth ∨ maxArrayLength < config.width
        · have thrown : (do pure (); if maxArrayLength < config.depth ∨ maxArrayLength < config.width then
              throw "Invalid array length" : Except String Unit) = .error "Invalid array length" := by
            rw [if_pos long]
            rfl
          rw [thrown]
          exact iff_of_false nofun fun all => by omega
        · have done : (do pure (); if maxArrayLength < config.depth ∨ maxArrayLength < config.width then
              throw "Invalid array length" : Except String Unit) = .ok () := by
            rw [if_neg long]
            rfl
          rw [done]
          refine iff_of_true rfl ⟨by omega,by omega,⟨not_le.mp above,not_le.mp below⟩,not_le.mp above',not_le.mp below'⟩

end Acceptance

section Real
variable {errorRate confidence : ℝ}

noncomputable def widthFor (errorRate : ℝ) : ℕ := ⌈Real.exp 1 / errorRate⌉.toNat
noncomputable def depthFor (confidence : ℝ) : ℕ := ⌈Real.log (1 / (1 - confidence))⌉.toNat

theorem widthFor_bounds (positive : 0 < errorRate) :
    Real.exp 1 ≤ errorRate * widthFor errorRate ∧ errorRate * widthFor errorRate < Real.exp 1 + errorRate := by
  have quotient : 0 < Real.exp 1 / errorRate := div_pos (Real.exp_pos 1) positive
  have cast : ((widthFor errorRate : ℕ) : ℝ) = (⌈Real.exp 1 / errorRate⌉ : ℤ) := by
    rw [widthFor,← Int.cast_natCast,Int.toNat_of_nonneg (le_of_lt (Int.ceil_pos.mpr quotient))]
  have least := Int.le_ceil (Real.exp 1 / errorRate)
  have most := Int.ceil_lt_add_one (Real.exp 1 / errorRate)
  rw [cast]
  rw [div_le_iff₀ positive] at least
  have scaled := mul_lt_mul_of_pos_left most positive
  rw [mul_add,mul_div_cancel₀ _ (ne_of_gt positive),mul_one] at scaled
  exact ⟨by linarith,scaled⟩

theorem three_le_widthFor (positive : 0 < errorRate) (below : errorRate < 1) : 3 ≤ widthFor errorRate := by
  obtain ⟨least,_⟩ := widthFor_bounds positive
  have large := Real.exp_one_gt_d9
  have above : (2 : ℝ) < widthFor errorRate := by nlinarith
  exact_mod_cast above

theorem depthFor_bounds (positive : 0 < confidence) (below : confidence < 1) :
    1 ≤ depthFor confidence ∧ Real.log (1 / (1 - confidence)) ≤ depthFor confidence ∧
      (depthFor confidence : ℝ) < Real.log (1 / (1 - confidence)) + 1 := by
  have rest : 0 < 1 - confidence := by linarith
  have more : 1 < 1 / (1 - confidence) := by
    rw [lt_div_iff₀ rest]
    linarith
  have ceiling := Int.ceil_pos.mpr (Real.log_pos more)
  have cast : ((depthFor confidence : ℕ) : ℝ) = (⌈Real.log (1 / (1 - confidence))⌉ : ℤ) := by
    rw [depthFor,← Int.cast_natCast,Int.toNat_of_nonneg (le_of_lt ceiling)]
  refine ⟨?_,?_,?_⟩
  · unfold depthFor
    omega
  · rw [cast]
    exact Int.le_ceil _
  · rw [cast]
    exact Int.ceil_lt_add_one _

theorem depthFor_eq_one_iff (positive : 0 < confidence) (below : confidence < 1) :
    depthFor confidence = 1 ↔ confidence ≤ 1 - 1 / Real.exp 1 := by
  have rest : 0 < 1 - confidence := by linarith
  obtain ⟨least,_,_⟩ := depthFor_bounds positive below
  have small : Real.log (1 / (1 - confidence)) ≤ 1 ↔ confidence ≤ 1 - 1 / Real.exp 1 := by
    rw [Real.log_le_iff_le_exp (by positivity),div_le_comm₀ rest (Real.exp_pos 1)]
    constructor <;> intro bound <;> linarith
  rw [← small]
  have ceiling : Real.log (1 / (1 - confidence)) ≤ 1 ↔ ⌈Real.log (1 / (1 - confidence))⌉ ≤ 1 := by
    rw [Int.ceil_le,Int.cast_one]
  rw [ceiling]
  unfold depthFor at least ⊢
  omega

-- A row less than the depth asks for more confidence than there is.
theorem depthFor_tight (positive : 0 < confidence) (below : confidence < 1) :
    (depthFor confidence : ℝ) - 1 < confidence * depthFor confidence := by
  have rest : 0 < 1 - confidence := by linarith
  obtain ⟨_,_,most⟩ := depthFor_bounds positive below
  have log := Real.log_le_sub_one_of_pos (show 0 < 1 / (1 - confidence) by positivity)
  have short : (depthFor confidence : ℝ) < 1 / (1 - confidence) := by linarith
  rw [lt_div_iff₀ rest] at short
  linarith

noncomputable def scaleFor (limit : ℝ) (width depth : ℕ) : ℝ := Real.sqrt (limit / (width * depth * 4 : ℕ))

noncomputable def scaled (factor : ℝ) (size : ℕ) : ℕ := (max 1 ⌊size * factor⌋).toNat

theorem scaleFor_lt_one {limit : ℝ} (positive : 0 < limit) (over' : limit < (width * depth * 4 : ℕ)) :
    scaleFor limit width depth < 1 := by
  rw [scaleFor,Real.sqrt_lt' one_pos,one_pow,div_lt_one (positive.trans over')]
  exact over'

theorem scaled_lt (factor : ℝ) (below : factor < 1) (several : 2 ≤ size) : scaled factor size < size := by
  have fewer : (size : ℝ) * factor < size := by
    have positive : (0 : ℝ) < size := by exact_mod_cast (by omega : 0 < size)
    nlinarith
  have floor : ⌊(size : ℝ) * factor⌋ < size := by
    rw [Int.floor_lt]
    exact_mod_cast fewer
  unfold scaled
  omega

theorem scaled_one (factor : ℝ) (below : factor < 1) : scaled factor 1 = 1 := by
  have floor : ⌊((1 : ℕ) : ℝ) * factor⌋ < 1 := by
    rw [Int.floor_lt]
    simpa using below
  unfold scaled
  omega

theorem le_scaled_width_iff {limit : ℝ} {width : ℕ} (some' : 0 < limit) (positive : 0 < width) (n : ℤ) (nonneg : 0 ≤ n) :
    n ≤ ⌊(width : ℝ) * scaleFor limit width 1⌋ ↔ ((4 * n ^ 2 : ℤ) : ℝ) ≤ width * limit := by
  have wide : (0 : ℝ) < width := by exact_mod_cast positive
  have size : (0 : ℝ) ≤ n := by exact_mod_cast nonneg
  rw [Int.le_floor,← div_le_iff₀' wide,scaleFor,Real.le_sqrt (by positivity) (by positivity),div_pow]
  push_cast
  rw [div_le_div_iff₀ (by positivity) (by positivity)]
  constructor
  · intro bound
    have cancel : (width : ℝ) * (4 * n ^ 2) ≤ width * (width * limit) := by nlinarith
    exact le_of_mul_le_mul_left cancel wide
  · intro bound
    nlinarith

end Real

-- What the configuration is for: the constructor takes it, and a memory limit of at
-- least one cell is kept where it had to be scaled down for it.
structure Usable (random errorRate confidence : ℝ) (maxMemoryBytes : Option ℝ) : Prop where
  accepted : (optimalConfig realMath (Real.exp 1) random errorRate confidence maxMemoryBytes).construct = .ok ()
  fits : ∀ limit, maxMemoryBytes = some limit → (4 : ℕ) ≤ limit →
    limit < (widthFor errorRate * depthFor confidence * 4 : ℕ) →
    (((optimalConfig realMath (Real.exp 1) random errorRate confidence maxMemoryBytes).width *
      (optimalConfig realMath (Real.exp 1) random errorRate confidence maxMemoryBytes).depth * 4 : ℕ) : ℝ) ≤ limit

def Allocatable (errorRate confidence : ℝ) : Prop :=
  widthFor errorRate ≤ maxArrayLength ∧ depthFor confidence ≤ maxArrayLength

-- Scaling survives the validation only with a single row. The scaled width, of which
-- the second part says that it exceeds `errorRate * width`, must then fit an array and
-- the limit itself.
structure ScalesDown (errorRate confidence limit : ℝ) : Prop where
  oneRow : confidence ≤ 1 - 1 / Real.exp 1
  wide : ((4 * (⌊errorRate * widthFor errorRate⌋ + 1) ^ 2 : ℤ) : ℝ) ≤ widthFor errorRate * limit
  allocatable : widthFor errorRate * limit < ((4 * (maxArrayLength + 1) ^ 2 : ℤ) : ℝ)
  fits : (4 : ℕ) ≤ limit → widthFor errorRate * limit < ((4 * (⌊limit / (4 : ℕ)⌋ + 1) ^ 2 : ℤ) : ℝ)

def UsableWhen (errorRate confidence : ℝ) : Option ℝ → Prop
  | none => Allocatable errorRate confidence
  | some limit =>
    (limit < (widthFor errorRate * depthFor confidence * 4 : ℕ) → ScalesDown errorRate confidence limit) ∧
      ((widthFor errorRate * depthFor confidence * 4 : ℕ) ≤ limit → Allocatable errorRate confidence)

section Cases
variable {errorRate confidence random : ℝ} (rate : 0 < errorRate ∧ errorRate < 1)
  (trust : 0 < confidence ∧ confidence < 1)
include rate trust

theorem unscaled_accepted_iff (random : ℝ) :
    (OptimalConfig.mk (widthFor errorRate) (depthFor confidence) ⌊random * lit 1000000⌋ errorRate
      confidence).construct = .ok () ↔ Allocatable errorRate confidence := by
  have wide := three_le_widthFor rate.1 rate.2
  have deep := (depthFor_bounds trust.1 trust.2).1
  rw [construct_ok_iff,Allocatable]
  constructor
  · rintro ⟨⟨_,short⟩,⟨_,few⟩,_⟩
    exact ⟨short,few⟩
  · rintro ⟨short,few⟩
    exact ⟨⟨Nat.lt_of_lt_of_le (by decide) wide,short⟩,⟨deep,few⟩,rate,trust⟩

section Scaled
variable {limit : ℝ} (positive : 0 < limit) (over' : limit < (widthFor errorRate * depthFor confidence * 4 : ℕ))
include positive over'

omit rate in
theorem scaled_rejected (several : 2 ≤ depthFor confidence) (width : ℕ) (seed : ℤ) (errorRate' : ℝ) :
    (OptimalConfig.mk width
      (scaled (scaleFor limit (widthFor errorRate) (depthFor confidence)) (depthFor confidence)) seed errorRate'
      (confidence * (depthFor confidence /
        scaled (scaleFor limit (widthFor errorRate) (depthFor confidence)) (depthFor confidence)))).construct ≠
      .ok () := by
  intro accepted
  obtain ⟨_,⟨some',_⟩,_,_,below⟩ := (construct_ok_iff _).mp accepted
  have fewer := scaled_lt _ (scaleFor_lt_one positive over') several
  have tight := depthFor_tight trust.1 trust.2
  have rows : (0 : ℝ) < scaled (scaleFor limit (widthFor errorRate) (depthFor confidence)) (depthFor confidence) := by
    exact_mod_cast some'
  have atMost : (scaled (scaleFor limit (widthFor errorRate) (depthFor confidence)) (depthFor confidence) : ℝ) + 1 ≤
      depthFor confidence := by exact_mod_cast fewer
  dsimp only at below
  rw [← mul_div_assoc,div_lt_one rows] at below
  linarith

omit trust over' in
theorem scaled_width_iff (n : ℤ) (several : 2 ≤ n) :
    n ≤ scaled (scaleFor limit (widthFor errorRate) 1) (widthFor errorRate) ↔
      ((4 * n ^ 2 : ℤ) : ℝ) ≤ widthFor errorRate * limit := by
  have wide := three_le_widthFor rate.1 rate.2
  rw [← le_scaled_width_iff positive (by omega) n (by omega),scaled]
  omega

omit trust over' in
theorem scaled_rate_iff : errorRate *
      (widthFor errorRate / scaled (scaleFor limit (widthFor errorRate) 1) (widthFor errorRate)) < 1 ↔
    ((4 * (⌊errorRate * widthFor errorRate⌋ + 1) ^ 2 : ℤ) : ℝ) ≤ widthFor errorRate * limit := by
  have least := (widthFor_bounds rate.1).1
  have two : 2 ≤ ⌊errorRate * widthFor errorRate⌋ := by
    rw [Int.le_floor]
    have large := Real.exp_one_gt_d9
    push_cast
    linarith
  have cells : 0 < scaled (scaleFor limit (widthFor errorRate) 1) (widthFor errorRate) := by
    unfold scaled
    omega
  have some' : (0 : ℝ) < scaled (scaleFor limit (widthFor errorRate) 1) (widthFor errorRate) := by
    exact_mod_cast cells
  rw [← scaled_width_iff rate positive _ (by omega),← mul_div_assoc,div_lt_one some',Int.add_one_le_iff,Int.floor_lt]
  push_cast
  rfl

omit rate trust in
theorem optimalConfig_scaled (random : ℝ) :
    optimalConfig realMath (Real.exp 1) random errorRate confidence (some limit) =
      ⟨scaled (scaleFor limit (widthFor errorRate) (depthFor confidence)) (widthFor errorRate),
        scaled (scaleFor limit (widthFor errorRate) (depthFor confidence)) (depthFor confidence),
        ⌊random * lit 1000000⌋,
        errorRate * (widthFor errorRate /
          scaled (scaleFor limit (widthFor errorRate) (depthFor confidence)) (widthFor errorRate)),
        confidence * (depthFor confidence /
          scaled (scaleFor limit (widthFor errorRate) (depthFor confidence)) (depthFor confidence))⟩ :=
  if_pos ⟨ne_of_gt positive,over'⟩

omit over' in
theorem one_row_accepted_iff (seed : ℤ) :
    (OptimalConfig.mk (scaled (scaleFor limit (widthFor errorRate) 1) (widthFor errorRate)) 1 seed
      (errorRate * (widthFor errorRate / scaled (scaleFor limit (widthFor errorRate) 1) (widthFor errorRate)))
      (confidence * ((1 : ℕ) / (1 : ℕ)))).construct = .ok () ↔
    ((4 * (⌊errorRate * widthFor errorRate⌋ + 1) ^ 2 : ℤ) : ℝ) ≤ widthFor errorRate * limit ∧
      widthFor errorRate * limit < ((4 * (maxArrayLength + 1) ^ 2 : ℤ) : ℝ) := by
  have wide := three_le_widthFor rate.1 rate.2
  have cells : 0 < scaled (scaleFor limit (widthFor errorRate) 1) (widthFor errorRate) := by
    unfold scaled
    omega
  have positiveRate : 0 < errorRate *
      (widthFor errorRate / scaled (scaleFor limit (widthFor errorRate) 1) (widthFor errorRate)) :=
    mul_pos rate.1 (div_pos (by exact_mod_cast (by omega : 0 < widthFor errorRate)) (by exact_mod_cast cells))
  have same : confidence * (((1 : ℕ) : ℝ) / (1 : ℕ)) = confidence := by simp
  have short : scaled (scaleFor limit (widthFor errorRate) 1) (widthFor errorRate) ≤ maxArrayLength ↔
      widthFor errorRate * limit < ((4 * (maxArrayLength + 1) ^ 2 : ℤ) : ℝ) := by
    rw [← not_le,← scaled_width_iff rate positive _ (by decide)]
    omega
  rw [construct_ok_iff,← scaled_rate_iff rate positive,← short,same]
  constructor
  · rintro ⟨⟨_,allocatable⟩,_,⟨_,below⟩,_⟩
    exact ⟨below,allocatable⟩
  · rintro ⟨below,allocatable⟩
    exact ⟨⟨cells,allocatable⟩,⟨Nat.one_pos,show 1 ≤ maxArrayLength by decide⟩,⟨positiveRate,below⟩,trust⟩

omit trust over' in
theorem one_row_fits_iff (cell : (4 : ℕ) ≤ limit) :
    ((scaled (scaleFor limit (widthFor errorRate) 1) (widthFor errorRate) * 1 * 4 : ℕ) : ℝ) ≤ limit ↔
      widthFor errorRate * limit < ((4 * (⌊limit / (4 : ℕ)⌋ + 1) ^ 2 : ℤ) : ℝ) := by
  have four : (0 : ℝ) < (4 : ℕ) := by norm_num
  have quarter : 1 ≤ ⌊limit / (4 : ℕ)⌋ := by
    rw [Int.le_floor,Int.cast_one,one_le_div four]
    exact cell
  rw [← not_le,← scaled_width_iff rate positive _ (by omega),not_le,Int.lt_add_one_iff,Int.le_floor,
    le_div_iff₀ four]
  push_cast
  rw [mul_one]

theorem scaled_usable_iff (random : ℝ) :
    Usable random errorRate confidence (some limit) ↔ ScalesDown errorRate confidence limit := by
  have deep := (depthFor_bounds trust.1 trust.2).1
  have result := optimalConfig_scaled positive over' random
  rcases Nat.eq_or_lt_of_le deep with one | several
  · have oneRow := (depthFor_eq_one_iff trust.1 trust.2).mp one.symm
    rw [← one,scaled_one _ (scaleFor_lt_one positive (one ▸ over'))] at result
    have accepted := one_row_accepted_iff rate trust positive ⌊random * lit 1000000⌋
    constructor
    · rintro ⟨taken,fits⟩
      rw [result] at taken
      obtain ⟨wide,allocatable⟩ := accepted.mp taken
      refine ⟨oneRow,wide,allocatable,?_⟩
      intro cell
      have within := fits limit rfl cell over'
      rw [result] at within
      exact (one_row_fits_iff rate positive cell).mp within
    · rintro ⟨_,wide,allocatable,fits⟩
      refine ⟨?_,?_⟩
      · rw [result]
        exact accepted.mpr ⟨wide,allocatable⟩
      · rintro _ ⟨⟩ cell _
        rw [result]
        exact (one_row_fits_iff rate positive cell).mpr (fits cell)
  · refine iff_of_false ?_ ?_
    · rintro ⟨accepted,_⟩
      rw [result] at accepted
      exact scaled_rejected trust positive over' several _ _ _ accepted
    · rintro ⟨oneRow,_,_,_⟩
      have one := (depthFor_eq_one_iff trust.1 trust.2).mpr oneRow
      omega

end Scaled

theorem optimal_config_usable_iff (random : ℝ) (maxMemoryBytes : Option ℝ)
    (positive : ∀ limit, maxMemoryBytes = some limit → 0 < limit) :
    Usable random errorRate confidence maxMemoryBytes ↔ UsableWhen errorRate confidence maxMemoryBytes := by
  have unscaled := unscaled_accepted_iff rate trust random
  cases maxMemoryBytes with
  | none =>
      have result : optimalConfig realMath (Real.exp 1) random errorRate confidence none =
          ⟨widthFor errorRate,depthFor confidence,⌊random * lit 1000000⌋,errorRate,confidence⟩ :=
        if_neg fun both => both.1 rfl
      constructor
      · rintro ⟨accepted,_⟩
        rw [result] at accepted
        exact unscaled.mp accepted
      · intro allocatable
        refine ⟨?_,nofun⟩
        rw [result]
        exact unscaled.mpr allocatable
  | some limit =>
      have some' := positive limit rfl
      rcases lt_or_ge limit (widthFor errorRate * depthFor confidence * 4 : ℕ) with over' | enough
      · rw [scaled_usable_iff rate trust some' over' random]
        exact ⟨fun scales => ⟨fun _ => scales,fun enough => absurd enough (not_le.mpr over')⟩,fun both => both.1 over'⟩
      · have result : optimalConfig realMath (Real.exp 1) random errorRate confidence (some limit) =
            ⟨widthFor errorRate,depthFor confidence,⌊random * lit 1000000⌋,errorRate,confidence⟩ :=
          if_neg fun both => absurd both.2 (not_lt.mpr enough)
        constructor
        · rintro ⟨accepted,_⟩
          rw [result] at accepted
          exact ⟨fun over' => absurd enough (not_le.mpr over'),fun _ => unscaled.mp accepted⟩
        · rintro ⟨_,allocatable⟩
          refine ⟨?_,?_⟩
          · rw [result]
            exact unscaled.mpr (allocatable enough)
          · rintro _ ⟨⟩ _ over'
            exact absurd enough (not_le.mpr over')

end Cases

theorem one_third_lt_inv_exp : 1 / 3 < 1 / Real.exp 1 := by
  have small := Real.exp_one_lt_d9
  exact one_div_lt_one_div_of_lt (Real.exp_pos 1) (by linarith)

-- One row of six cells, scaled down to five for a limit of one byte less.
theorem optimal_config_usable_trimmed : Usable 0 (1 / 2) (1 / 2) (some 23) := by
  have third := one_third_lt_inv_exp
  have large := Real.exp_one_gt_d9
  have small := Real.exp_one_lt_d9
  have oneRow : (1 / 2 : ℝ) ≤ 1 - 1 / Real.exp 1 := by
    rw [le_sub_comm,div_le_iff₀ (Real.exp_pos 1)]
    linarith
  have six : widthFor (1 / 2) = 6 := by
    have bounds := widthFor_bounds (show (0 : ℝ) < 1 / 2 by norm_num)
    have above : (5 : ℝ) < widthFor (1 / 2) := by linarith
    have below : (widthFor (1 / 2) : ℝ) < 7 := by linarith
    have above' : 5 < widthFor (1 / 2) := by exact_mod_cast above
    have below' : widthFor (1 / 2) < 7 := by exact_mod_cast below
    omega
  have one : depthFor (1 / 2) = 1 := (depthFor_eq_one_iff (by norm_num) (by norm_num)).mpr oneRow
  refine (optimal_config_usable_iff ⟨by norm_num,by norm_num⟩ ⟨by norm_num,by norm_num⟩ 0 (some 23) ?_).mpr ⟨?_,?_⟩
  · rintro _ ⟨⟩
    norm_num
  · intro _
    have product : ⌊(1 / 2 : ℝ) * (6 : ℕ)⌋ = 3 := by norm_num
    have quarter : ⌊(23 : ℝ) / (4 : ℕ)⌋ = 5 := by
      rw [Int.floor_eq_iff]
      norm_num
    refine ⟨oneRow,?_,?_,?_⟩
    · rw [six,product]
      norm_num
    · rw [six]
      norm_num [maxArrayLength]
    · intro _
      rw [six,quarter]
      norm_num
  · rw [six,one]
    intro enough
    norm_num at enough

-- One percent error with 99 percent confidence in a kilobyte.
theorem scaled_config_rejected :
    (optimalConfig realMath (Real.exp 1) 0 (1 / 100) (99 / 100) (some 1024)).construct ≠ .ok () := by
  have third := one_third_lt_inv_exp
  have large := Real.exp_one_gt_d9
  have deep : 1 ≤ depthFor (99 / 100) := (depthFor_bounds (by norm_num) (by norm_num)).1
  have several : 2 ≤ depthFor (99 / 100) := by
    have other : depthFor (99 / 100) ≠ 1 := by
      intro one
      have oneRow := (depthFor_eq_one_iff (by norm_num) (by norm_num)).mp one
      linarith
    omega
  have wide : 200 ≤ widthFor (1 / 100) := by
    have bounds := widthFor_bounds (show (0 : ℝ) < 1 / 100 by norm_num)
    have above : (200 : ℝ) ≤ widthFor (1 / 100) := by linarith
    exact_mod_cast above
  have over' : (1024 : ℝ) < (widthFor (1 / 100) * depthFor (99 / 100) * 4 : ℕ) := by
    have cells : 1024 < widthFor (1 / 100) * depthFor (99 / 100) * 4 := by nlinarith
    exact_mod_cast cells
  rw [optimalConfig_scaled (by norm_num) over' 0]
  exact scaled_rejected ⟨by norm_num,by norm_num⟩ (by norm_num) over' several _ _ _

end PhantomFlow.Sketch
