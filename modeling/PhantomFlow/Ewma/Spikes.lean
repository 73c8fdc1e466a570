import PhantomFlow.Ewma.EWMA
import PhantomFlow.Library.Machine
import PhantomFlow.Library.RealMath

namespace PhantomFlow.Ewma
open Library

structure Plain (config : EWMAConfig ℝ) : Prop where
  simple : config.variant = .simple
  fixed : config.adaptiveAlpha = false
  positive : 0 < config.alpha
  below : config.alpha < 1

theorem getDefaultEWMAConfig_plain : Plain getDefaultEWMAConfig where
  simple := rfl
  fixed := rfl
  positive := by norm_num [getDefaultEWMAConfig]
  below := by norm_num [getDefaultEWMAConfig]

structure Invariant (config : EWMAConfig ℝ) (ewma : EWMA ℝ) : Prop where
  config_eq : ewma.config = config
  variance_nonneg : 0 ≤ ewma.variance

theorem create_invariant (config : EWMAConfig ℝ) (now : ℤ) : Invariant config (EWMA.create config now) :=
  ⟨rfl,le_refl 0⟩

noncomputable def started (ewma : EWMA ℝ) (point : DataPoint ℝ) : EWMA ℝ :=
  (ewma.store point).initializeWith point.value

theorem started_invariant (valid : Invariant config ewma) (point : DataPoint ℝ) :
    Invariant config (started ewma point) := by
  cases h : ewma.initialized with
  | true =>
      exact ⟨by simpa [started,EWMA.initializeWith,EWMA.store,h] using valid.config_eq,
        by simpa [started,EWMA.initializeWith,EWMA.store,h] using valid.variance_nonneg⟩
  | false =>
      exact ⟨by simpa [started,EWMA.initializeWith,EWMA.store,h] using valid.config_eq,
        by simp [started,EWMA.initializeWith,EWMA.store,h]⟩

-- The level a point is compared with, and the spread it is compared by. The
-- point's own error is already in the spread.
theorem judged_eq (plain : Plain ewma.config) (point : DataPoint ℝ) :
    ewma.judged realMath point =
      ((started ewma point).calculateSimpleEWMA point.value ewma.config.alpha,
        (started ewma point).updateVariance point.value) := by
  have config_eq : (started ewma point).config = ewma.config := by
    cases h : ewma.initialized <;> simp [started,EWMA.initializeWith,EWMA.store,h]
  have prepared_eq : ewma.prepared realMath point = started ewma point := by
    simp [EWMA.prepared,started,plain.fixed]
  simp [EWMA.judged,prepared_eq,EWMA.calculateEWMA,config_eq,plain.simple,plain.fixed]

theorem updateVariance_nonneg (plain : Plain config) (valid : Invariant config ewma) (value : ℝ) :
    0 ≤ (ewma.updateVariance value).variance := by
  have first := mul_nonneg plain.positive.le (mul_self_nonneg (value - ewma.currentValue))
  have second := mul_nonneg (sub_nonneg.mpr plain.below.le) valid.variance_nonneg
  simpa [EWMA.updateVariance,valid.config_eq] using add_nonneg first second

theorem step_invariant (plain : Plain config) (ewma : EWMA ℝ) (operation : Operation ℝ)
    (valid : Invariant config ewma) : Invariant config (step realMath ewma operation).1 := by
  cases operation with
  | reset => exact ⟨valid.config_eq,le_refl 0⟩
  | update now point =>
      have begun := started_invariant valid point
      have judged := judged_eq (by rw [valid.config_eq]; exact plain) point
      refine ⟨?_,?_⟩
      · simpa [step,EWMA.update,judged,EWMA.updateVariance] using begun.config_eq
      · simpa [step,EWMA.update,judged] using updateVariance_nonneg plain begun point.value

theorem run_invariant (plain : Plain config) (now : ℤ) (operations : List (Operation ℝ)) :
    Invariant config (Machine.exec (step realMath) (EWMA.create config now) operations).1 :=
  Machine.exec_invariant (step_invariant plain) (create_invariant config now) operations

theorem update_initialized (plain : Plain ewma.config) (now : ℤ) (point : DataPoint ℝ) :
    (step realMath ewma (.update now point)).1.initialized = true := by
  have begun : (started ewma point).initialized = true := by
    cases h : ewma.initialized <;> simp [started,EWMA.initializeWith,EWMA.store,h]
  simpa [step,EWMA.update,judged_eq plain,EWMA.updateVariance] using begun

noncomputable def flagged (ewma : EWMA ℝ) (now : ℤ) (point : DataPoint ℝ) : Bool :=
  (ewma.update realMath now point).1.anomaly.isAnomalous

-- Some distance from the baseline is enough for every point beyond it to be flagged.
def SpikesFlagged (ewma : EWMA ℝ) : Prop :=
  ∃ bound : ℝ, ∀ now point, bound < |point.value - ewma.currentValue| → flagged ewma now point = true

theorem threshold_lt_iff {spread : ℝ} (nonneg : 0 ≤ spread) (deviation : ℝ) :
    Real.sqrt spread * lit (5/2) < |deviation| ↔ 25 * spread < 4 * deviation ^ 2 := by
  have factor : (lit (5/2) : ℝ) = 5/2 := by norm_num
  have root : 0 ≤ Real.sqrt spread * (5/2) := by positivity
  rw [factor,← sq_lt_sq₀ root (abs_nonneg deviation),mul_pow,Real.sq_sqrt nonneg,sq_abs]
  constructor
  · intro less; linarith
  · intro less; linarith

theorem flagged_iff (plain : Plain config) (valid : Invariant config ewma) (now : ℤ) (point : DataPoint ℝ) :
    flagged ewma now point = true ↔
      25 * ((started ewma point).updateVariance point.value).variance <
        4 * ((1 - config.alpha) * (point.value - (started ewma point).currentValue)) ^ 2 := by
  have judged := judged_eq (by rw [valid.config_eq]; exact plain) point
  have spread := updateVariance_nonneg plain (started_invariant valid point) point.value
  have deviation : point.value - (started ewma point).calculateSimpleEWMA point.value ewma.config.alpha =
      (1 - config.alpha) * (point.value - (started ewma point).currentValue) := by
    rw [EWMA.calculateSimpleEWMA,valid.config_eq]; ring
  rw [← threshold_lt_iff spread]
  simp only [flagged,EWMA.update,judged,EWMA.detectAnomaly,realMath_sqrt,decide_eq_true_eq,deviation]

theorem first_point_unflagged (plain : Plain config) (valid : Invariant config ewma)
    (fresh : ewma.initialized = false) (now : ℤ) (point : DataPoint ℝ) : flagged ewma now point = false := by
  have baseline : (started ewma point).currentValue = point.value := by
    simp [started,EWMA.initializeWith,EWMA.store,fresh]
  have spread := updateVariance_nonneg plain (started_invariant valid point) point.value
  rw [Bool.eq_false_iff,ne_eq,flagged_iff plain valid,baseline]
  intro less
  simp at less
  linarith

-- A later point is flagged when its error outgrows what it adds to the spread.
theorem later_point_flagged_iff (plain : Plain config) (valid : Invariant config ewma)
    (known : ewma.initialized = true) (now : ℤ) (point : DataPoint ℝ) :
    flagged ewma now point = true ↔
      25 * ((1 - config.alpha) * ewma.variance) <
        (4 * (1 - config.alpha) ^ 2 - 25 * config.alpha) * (point.value - ewma.currentValue) ^ 2 := by
  have begun : started ewma point = ewma.store point := by
    simp [started,EWMA.initializeWith,EWMA.store,known]
  rw [flagged_iff plain valid,begun]
  have spread : ((ewma.store point).updateVariance point.value).variance =
      config.alpha * ((point.value - ewma.currentValue) * (point.value - ewma.currentValue)) +
        (1 - config.alpha) * ewma.variance := by
    simp [EWMA.updateVariance,EWMA.store,valid.config_eq]
  have baseline : (ewma.store point).currentValue = ewma.currentValue := rfl
  rw [spread,baseline]
  constructor
  · intro less; nlinarith
  · intro less; nlinarith

theorem masked_point_unflagged (plain : Plain config) (valid : Invariant config ewma)
    (masked : 4 * (1 - config.alpha) ^ 2 ≤ 25 * config.alpha) (now : ℤ) (point : DataPoint ℝ) :
    flagged ewma now point = false := by
  cases known : ewma.initialized with
  | false => exact first_point_unflagged plain valid known now point
  | true =>
      rw [Bool.eq_false_iff,ne_eq,later_point_flagged_iff plain valid known,not_lt]
      have grows : (4 * (1 - config.alpha) ^ 2 - 25 * config.alpha) * (point.value - ewma.currentValue) ^ 2 ≤ 0 :=
        mul_nonpos_of_nonpos_of_nonneg (by linarith) (sq_nonneg _)
      have carried : 0 ≤ (1 - config.alpha) * ewma.variance :=
        mul_nonneg (sub_nonneg.mpr plain.below.le) valid.variance_nonneg
      linarith

theorem not_spikesFlagged (never : ∀ now point, flagged ewma now point = false) : ¬SpikesFlagged ewma := by
  rintro ⟨bound,all⟩
  have far : bound < |(ewma.currentValue + (|bound| + 1)) - ewma.currentValue| := by
    rw [add_sub_cancel_left,abs_of_pos (by positivity)]
    linarith [le_abs_self bound]
  have seen := all 0 ⟨ewma.currentValue + (|bound| + 1),0⟩ far
  rw [never] at seen
  cases seen

theorem unmasked_spikesFlagged (plain : Plain config) (valid : Invariant config ewma)
    (known : ewma.initialized = true) (unmasked : 25 * config.alpha < 4 * (1 - config.alpha) ^ 2) :
    SpikesFlagged ewma := by
  have gap : 0 < 4 * (1 - config.alpha) ^ 2 - 25 * config.alpha := by linarith
  refine ⟨Real.sqrt (25 * ((1 - config.alpha) * ewma.variance) /
    (4 * (1 - config.alpha) ^ 2 - 25 * config.alpha)),?_⟩
  intro now point far
  have square := Real.lt_sq_of_sqrt_lt far
  rw [sq_abs,div_lt_iff₀ gap] at square
  rw [later_point_flagged_iff plain valid known]
  linarith

theorem spikes_flagged_exact (config : EWMAConfig ℝ) (plain : Plain config) (now : ℤ)
    (operations : List (Operation ℝ)) :
    let ewma := (Machine.exec (step realMath) (EWMA.create config now) operations).1
    SpikesFlagged ewma ↔ ewma.initialized = true ∧ 25 * config.alpha < 4 * (1 - config.alpha) ^ 2 := by
  intro ewma
  have valid : Invariant config ewma := run_invariant plain now operations
  constructor
  · intro spikes
    constructor
    · by_contra fresh
      rw [Bool.not_eq_true] at fresh
      exact not_spikesFlagged (first_point_unflagged plain valid fresh) spikes
    · by_contra masked
      exact not_spikesFlagged (masked_point_unflagged plain valid (not_lt.mp masked)) spikes
  · rintro ⟨known,unmasked⟩
    exact unmasked_spikesFlagged plain valid known unmasked

theorem slow_smoother_plain : Plain { getDefaultEWMAConfig with alpha := 1/10 } where
  simple := rfl
  fixed := rfl
  positive := by norm_num
  below := by norm_num

theorem spikes_flagged_exact_slow :
    SpikesFlagged (Machine.exec (step realMath) (EWMA.create { getDefaultEWMAConfig with alpha := 1/10 } 0)
      [.update 0 ⟨3,0⟩]).1 :=
  (spikes_flagged_exact _ slow_smoother_plain 0 [.update 0 ⟨3,0⟩]).mpr
    ⟨update_initialized slow_smoother_plain 0 ⟨3,0⟩,by norm_num⟩

-- With the default smoothing factor no point is ever far enough, in any state.
theorem default_spikes_masked :
    ¬SpikesFlagged (Machine.exec (step realMath) (EWMA.create getDefaultEWMAConfig 0) [.update 0 ⟨3,0⟩]).1 := by
  have valid := run_invariant getDefaultEWMAConfig_plain 0 [.update 0 ⟨3,0⟩]
  exact not_spikesFlagged (masked_point_unflagged getDefaultEWMAConfig_plain valid (by norm_num [getDefaultEWMAConfig]))

end PhantomFlow.Ewma
