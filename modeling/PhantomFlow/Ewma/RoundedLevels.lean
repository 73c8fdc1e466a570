import PhantomFlow.Ewma.Levels
import PhantomFlow.Ewma.RoundedEWMA

namespace PhantomFlow.Ewma.Rounded
open Library
variable {K : Type} [Field K] (r : Rounding K)

def projected (config : EWMAConfig K) (level trend : K) : K :=
  if config.variant = .double then r.add level trend else level

def varianceAfter (ewma : EWMA K) (point : DataPoint K) : K :=
  blend r ewma.config.alpha
    (r.mul (r.sub point.value (levelBefore ewma point)) (r.sub point.value (levelBefore ewma point)))
    (varianceBefore ewma)

theorem blend_number (alpha value level : K) : r.round (blend r alpha value level) = blend r alpha value level :=
  r.round_round _

theorem blend_nothing (alpha : K) : blend r alpha 0 0 = 0 := by
  rw [blend,r.mul_nothing,r.mul_nothing,r.add_nothing r.round_zero]

variable [LinearOrder K] (math : JsMath K)

theorem prepared_spec (ewma : EWMA K) (point : DataPoint K) :
    (prepared r ewma math point).config = ewma.config ∧
      (prepared r ewma math point).currentValue = levelBefore ewma point ∧
      (prepared r ewma math point).trendValue = trendBefore ewma ∧
      (prepared r ewma math point).initialized = true ∧
      (prepared r ewma math point).adaptiveParams.alpha = ewma.adaptiveParams.alpha ∧
      (prepared r ewma math point).dataPoints = (ewma.store point).dataPoints ∧
      (prepared r ewma math point).variance = varianceBefore ewma := by
  have level : ((ewma.store point).initializeWith point.value).currentValue = levelBefore ewma point :=
    initializeWith_currentValue (ewma.store point) point
  have trend : ((ewma.store point).initializeWith point.value).trendValue = trendBefore ewma :=
    initializeWith_trendValue (ewma.store point) point.value
  have variance : ((ewma.store point).initializeWith point.value).variance = varianceBefore ewma :=
    initializeWith_variance (ewma.store point) point.value
  cases flag : ewma.config.adaptiveAlpha <;>
    simp [prepared,updateAdaptiveParameters,flag,level,trend,variance]

def smoothingFactor (ewma : EWMA K) (point : DataPoint K) : K :=
  if ewma.config.variant = .adaptive then adaptiveFactor r (prepared r ewma math point) math else ewma.config.alpha

theorem judged_spec (settled : Settled config ewma) (point : DataPoint K) :
    (judged r ewma math point).1 = blend r (smoothingFactor r math ewma point) point.value
      (projected r config (levelBefore ewma point) (trendBefore ewma)) ∧
      Settled config (judged r ewma math point).2 ∧
      (judged r ewma math point).2.initialized = true ∧
      (judged r ewma math point).2.currentValue = levelBefore ewma point := by
  obtain ⟨config_eq,level,trend,initialized,alpha,_⟩ := prepared_spec r math ewma point
  obtain ⟨rfl,alpha_eq⟩ := settled
  cases variant : ewma.config.variant with
  | adaptive =>
      refine ⟨?_,⟨?_,fun different => absurd variant different⟩,?_,?_⟩ <;>
        simp [judged,calculateEWMA,calculateSimpleEWMA,calculateAdaptiveEWMA,updateVariance,smoothingFactor,projected,
          variant,config_eq,level,initialized]
  | simple | double =>
      refine ⟨?_,⟨?_,fun _ => ?_⟩,?_,?_⟩ <;>
        simp [judged,calculateEWMA,calculateSimpleEWMA,calculateDoubleEWMA,updateVariance,smoothingFactor,projected,
          variant,config_eq,level,trend,initialized,alpha,alpha_eq]

theorem judged_variance (ewma : EWMA K) (point : DataPoint K) :
    (judged r ewma math point).2.dataPoints = (ewma.store point).dataPoints ∧
      (judged r ewma math point).2.variance = varianceAfter r ewma point := by
  obtain ⟨config_eq,level,_,_,_,points,variance⟩ := prepared_spec r math ewma point
  cases variant : ewma.config.variant <;>
    simp [judged,calculateEWMA,calculateDoubleEWMA,calculateAdaptiveEWMA,updateVariance,varianceAfter,variant,config_eq,
      level,points,variance]

theorem judged_trendValue (settled : Settled config ewma) (point : DataPoint K) :
    (judged r ewma math point).2.trendValue =
      if config.variant = .double then blend r (smoothingFactor r math ewma point)
        (r.sub (judged r ewma math point).1 (levelBefore ewma point)) (trendBefore ewma)
      else trendBefore ewma := by
  obtain ⟨config_eq,level,trend,_,alpha,_⟩ := prepared_spec r math ewma point
  obtain ⟨rfl,alpha_eq⟩ := settled
  cases variant : ewma.config.variant <;>
    simp [judged,calculateEWMA,calculateSimpleEWMA,calculateDoubleEWMA,calculateAdaptiveEWMA,updateVariance,
      smoothingFactor,variant,config_eq,level,trend,alpha,alpha_eq]

theorem update_spec (settled : Settled config ewma) (point : DataPoint K) :
    (update r ewma math point).2.currentValue = (update r ewma math point).1.value ∧
      Settled config (update r ewma math point).2 ∧ (update r ewma math point).2.initialized = true := by
  obtain ⟨_,judged,initialized,_⟩ := judged_spec r math settled point
  exact ⟨rfl,⟨judged.config_eq,judged.alpha_eq⟩,initialized⟩

theorem step_settled (config : EWMAConfig K) (ewma : EWMA K) (operation : Operation K) (settled : Settled config ewma) :
    Settled config (step r math ewma operation).1 := by
  cases operation with
  | reset => exact ⟨settled.config_eq,fun _ => congrArg EWMAConfig.alpha settled.config_eq⟩
  | update point => exact (update_spec r math settled point).2.1

def Updating (holds : EWMA K → DataPoint K → Prop) (ewma : EWMA K) (operation : Operation K) : Prop :=
  ∀ point, operation = .update point → holds ewma point

def Forecasts (ewma : EWMA K) (point : DataPoint K) : Prop :=
  let updated := update r ewma math point
  updated.1.prediction.nextValue = projected r ewma.config updated.1.value updated.2.trendValue

-- The point leaves the level where it was. Also a first point, which is smoothed with
-- its own value, may move it by a rounding.
def Unmoved (ewma : EWMA K) (point : DataPoint K) : Prop :=
  blend r (smoothingFactor r math ewma point) point.value
    (projected r ewma.config (levelBefore ewma point) (trendBefore ewma)) = levelBefore ewma point

theorem nextValue_eq (settled : Settled config ewma) (point : DataPoint K) :
    (update r ewma math point).1.prediction.nextValue =
      projected r config (levelBefore ewma point) (update r ewma math point).2.trendValue := by
  obtain ⟨_,judged,_,before⟩ := judged_spec r math settled point
  rw [← before,← judged.config_eq]
  rfl

theorem forecasts_of_unmoved (settled : Settled config ewma) (point : DataPoint K) (unmoved : Unmoved r math ewma point) :
    Forecasts r math ewma point := by
  have level := (judged_spec r math settled point).1
  rw [← settled.config_eq,unmoved] at level
  have current : (update r ewma math point).1.value = levelBefore ewma point := level
  rw [Forecasts,nextValue_eq r math settled,current,settled.config_eq]

-- Without a trend to add, or without rounding, a forecast tells two levels apart.
theorem unmoved_of_forecasts (settled : Settled config ewma) (plain : config.variant ≠ .double ∨ r = .exact)
    (point : DataPoint K) (forecasts : Forecasts r math ewma point) : Unmoved r math ewma point := by
  have level := (judged_spec r math settled point).1
  rw [Forecasts,nextValue_eq r math settled,settled.config_eq] at forecasts
  rw [Unmoved,settled.config_eq,← level]
  by_cases double : config.variant = .double
  · obtain rfl := plain.resolve_left (fun other => other double)
    rw [projected,projected,if_pos double,if_pos double] at forecasts
    exact (add_right_cancel forecasts).symm
  · rw [projected,projected,if_neg double,if_neg double] at forecasts
    exact forecasts.symm

theorem forecasts_exact (config : EWMAConfig K) (start : ℤ) (operations : List (Operation K)) (point : DataPoint K) :
    let ewma := (Machine.exec (step r math) (EWMA.create config start) operations).1
    (Unmoved r math ewma point → Forecasts r math ewma point) ∧
      (config.variant ≠ .double ∨ r = .exact → (Forecasts r math ewma point ↔ Unmoved r math ewma point)) := by
  intro ewma
  have settled := Machine.exec_invariant (step_settled r math config) (create_settled config start) operations
  have enough := forecasts_of_unmoved r math settled point
  exact ⟨enough,fun plain => ⟨unmoved_of_forecasts r math settled plain point,enough⟩⟩

theorem unmoved_exact (ewma : EWMA K) (point : DataPoint K) :
    Unmoved .exact math ewma point ↔ ewma.initialized = false ∨
      smoothingFactor .exact math ewma point * (point.value - ewma.currentValue) +
        (1 - smoothingFactor .exact math ewma point) * (if ewma.config.variant = .double then ewma.trendValue else 0) =
          0 := by
  have mixed : projected .exact ewma.config (levelBefore ewma point) (trendBefore ewma) =
      levelBefore ewma point + (if ewma.config.variant = .double then trendBefore ewma else 0) := by
    rw [projected]
    split
    · rfl
    · rw [add_zero]
  rw [Unmoved,mixed,blend_exact,← sub_eq_zero]
  cases known : ewma.initialized with
  | false =>
      simp only [levelBefore,trendBefore,known,Bool.false_eq_true,if_false,ite_self,add_zero,true_or,iff_true]
      ring
  | true =>
      rw [levelBefore,trendBefore,known,if_pos rfl,if_pos rfl,or_iff_right (by decide)]
      apply Eq.congr_left
      ring

-- The doubles of the default smoother at 5, where nothing is lost, and at 10.
section Defaults

theorem defaultAlpha : Rounding.double.lit (2/10) = 7205759403792794 / 2 ^ 55 := by
  have rounded : nearestDouble (1/5) = 7205759403792794 / 2 ^ 55 := by
    apply nearestDouble_eq (-3) 7205759403792794 <;> norm_num
  have fifth : (lit (2/10) : ℚ) = 1/5 := by norm_num
  rw [Rounding.lit,fifth]
  exact rounded

theorem defaultRest : Rounding.double.sub 1 (7205759403792794 / 2 ^ 55) = 7205759403792794 / 2 ^ 53 := by
  change nearestDouble _ = _
  rw [nearestDouble_nonneg (by norm_num),
    Doubles.toDouble_tie (-1) 7205759403792794 (by norm_num) (by norm_num) (by norm_num) (by norm_num) (by norm_num)
      (by norm_num)]
  norm_num

theorem defaultRest_five : Rounding.double.mul (7205759403792794 / 2 ^ 53) 5 = 4 := by
  apply nearestDouble_eq 2 (2 ^ 52) <;> norm_num

theorem default_five : blend .double (Rounding.double.lit (2/10)) 5 5 = 5 := by
  have part : Rounding.double.mul (7205759403792794 / 2 ^ 55) 5 = 1 := by
    apply nearestDouble_eq 0 (2 ^ 52) <;> norm_num
  rw [blend,defaultAlpha,defaultRest,part,defaultRest_five]
  calc nearestDouble (1 + 4) = nearestDouble (5 : ℕ) := by norm_num
    _ = 5 := nearestDouble_natCast 5 (by norm_num)

theorem default_ten : blend .double (Rounding.double.lit (2/10)) 10 5 = 6 := by
  have part : Rounding.double.mul (7205759403792794 / 2 ^ 55) 10 = 2 := by
    apply nearestDouble_eq 1 (2 ^ 52) <;> norm_num
  rw [blend,defaultAlpha,defaultRest,part,defaultRest_five]
  calc nearestDouble (2 + 4) = nearestDouble (6 : ℕ) := by norm_num
    _ = 6 := nearestDouble_natCast 6 (by norm_num)

end Defaults

def plainMath : JsMath ℚ := ⟨id,id,id,id⟩

-- A second point with another value: the level is 6, the forecast is the level before.
theorem stale_forecast :
    let ewma := (Machine.exec (step .double plainMath) (EWMA.create (getDefaultEWMAConfig .double) 0)
      [.update ⟨5,0⟩]).1
    (update .double ewma plainMath ⟨10,1⟩).1.value = 6 ∧
      (update .double ewma plainMath ⟨10,1⟩).1.prediction.nextValue = 5 ∧
      ¬Forecasts .double plainMath ewma ⟨10,1⟩ := by
  intro ewma
  have settled : Settled (getDefaultEWMAConfig .double) ewma :=
    Machine.exec_invariant (step_settled .double plainMath _) (create_settled _ 0) _
  have level : ewma.currentValue = 5 := default_five
  have value : (update .double ewma plainMath ⟨10,1⟩).1.value = 6 := by
    change blend .double _ 10 ewma.currentValue = 6
    rw [level]
    exact default_ten
  have forecast : (update .double ewma plainMath ⟨10,1⟩).1.prediction.nextValue = 5 :=
    (nextValue_eq .double plainMath settled ⟨10,1⟩).trans level
  refine ⟨value,forecast,?_⟩
  intro forecasts
  rw [Forecasts,value,forecast] at forecasts
  change (5 : ℚ) = 6 at forecasts
  norm_num at forecasts

end PhantomFlow.Ewma.Rounded
