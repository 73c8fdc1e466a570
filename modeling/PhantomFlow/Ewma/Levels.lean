import PhantomFlow.Ewma.EWMA
import PhantomFlow.Library.BoundedHistory
import PhantomFlow.Library.Machine
import PhantomFlow.Library.Smoothing

namespace PhantomFlow.Ewma
open Library
variable {K : Type}

@[simp] theorem store_config (ewma : EWMA K) (point : DataPoint K) : (ewma.store point).config = ewma.config := rfl
@[simp] theorem store_adaptiveParams (ewma : EWMA K) (point : DataPoint K) :
    (ewma.store point).adaptiveParams = ewma.adaptiveParams := rfl

theorem recent_eq (ewma : EWMA K) (n : ℕ) : ewma.recent n = lastOf n (ewma.dataPoints.map DataPoint.value) :=
  map_rtake DataPoint.value ewma.dataPoints n

variable [Field K]

-- The level and the trend a point meets. The first point is its own level.
def levelBefore (ewma : EWMA K) (point : DataPoint K) : K :=
  if ewma.initialized then ewma.currentValue else point.value

def trendBefore (ewma : EWMA K) : K := if ewma.initialized then ewma.trendValue else 0

def varianceBefore (ewma : EWMA K) : K := if ewma.initialized then ewma.variance else 0

def varianceAfter (ewma : EWMA K) (point : DataPoint K) : K :=
  ewma.config.alpha * ((point.value - levelBefore ewma point) * (point.value - levelBefore ewma point)) +
    (1 - ewma.config.alpha) * varianceBefore ewma

-- Holt's method moves from the level by the trend, the others from the level alone.
def projected (config : EWMAConfig K) (level trend : K) : K :=
  if config.variant = .double then level + trend else level

@[simp] theorem initializeWith_config (ewma : EWMA K) (value : K) : (ewma.initializeWith value).config = ewma.config := by
  cases h : ewma.initialized <;> simp [EWMA.initializeWith,h]
@[simp] theorem initializeWith_dataPoints (ewma : EWMA K) (value : K) :
    (ewma.initializeWith value).dataPoints = ewma.dataPoints := by
  cases h : ewma.initialized <;> simp [EWMA.initializeWith,h]
@[simp] theorem initializeWith_adaptiveParams (ewma : EWMA K) (value : K) :
    (ewma.initializeWith value).adaptiveParams = ewma.adaptiveParams := by
  cases h : ewma.initialized <;> simp [EWMA.initializeWith,h]
@[simp] theorem initializeWith_initialized (ewma : EWMA K) (value : K) :
    (ewma.initializeWith value).initialized = true := by
  cases h : ewma.initialized <;> simp [EWMA.initializeWith,h]
theorem initializeWith_currentValue (ewma : EWMA K) (point : DataPoint K) :
    (ewma.initializeWith point.value).currentValue = levelBefore ewma point := by
  cases h : ewma.initialized <;> simp [EWMA.initializeWith,levelBefore,h]
theorem initializeWith_trendValue (ewma : EWMA K) (value : K) :
    (ewma.initializeWith value).trendValue = trendBefore ewma := by
  cases h : ewma.initialized <;> simp [EWMA.initializeWith,trendBefore,h]
theorem initializeWith_variance (ewma : EWMA K) (value : K) :
    (ewma.initializeWith value).variance = varianceBefore ewma := by
  cases h : ewma.initialized <;> simp [EWMA.initializeWith,varianceBefore,h]

variable [LinearOrder K] (math : JsMath K)

theorem prepared_spec (ewma : EWMA K) (point : DataPoint K) :
    (ewma.prepared math point).config = ewma.config ∧
      (ewma.prepared math point).currentValue = levelBefore ewma point ∧
      (ewma.prepared math point).trendValue = trendBefore ewma ∧
      (ewma.prepared math point).initialized = true ∧
      (ewma.prepared math point).adaptiveParams.alpha = ewma.adaptiveParams.alpha ∧
      (ewma.prepared math point).dataPoints = (ewma.store point).dataPoints ∧
      (ewma.prepared math point).variance = varianceBefore ewma := by
  have level : ((ewma.store point).initializeWith point.value).currentValue = levelBefore ewma point :=
    initializeWith_currentValue (ewma.store point) point
  have trend : ((ewma.store point).initializeWith point.value).trendValue = trendBefore ewma :=
    initializeWith_trendValue (ewma.store point) point.value
  have variance : ((ewma.store point).initializeWith point.value).variance = varianceBefore ewma :=
    initializeWith_variance (ewma.store point) point.value
  cases flag : ewma.config.adaptiveAlpha <;>
    simp [EWMA.prepared,EWMA.updateAdaptiveParameters,flag,level,trend,variance]

-- The weight the point gets. The adaptive variant chooses it from the points stored.
def smoothingFactor (ewma : EWMA K) (point : DataPoint K) : K :=
  let state := ewma.prepared math point
  if ewma.config.variant = .adaptive then
    if ewma.config.volatilityThreshold < state.calculateVolatility math ∨ state.detectChangePoint math = true
    then min ewma.config.maxAlpha (ewma.config.alpha * lit (3/2))
    else max ewma.config.minAlpha (ewma.config.alpha * lit (95/100))
  else ewma.config.alpha

-- Only the adaptive variant ever writes the adaptive smoothing factor.
structure Settled (config : EWMAConfig K) (ewma : EWMA K) : Prop where
  config_eq : ewma.config = config
  alpha_eq : config.variant ≠ .adaptive → ewma.adaptiveParams.alpha = config.alpha

omit [LinearOrder K] in
theorem create_settled (config : EWMAConfig K) (start : ℤ) : Settled config (EWMA.create config start) :=
  ⟨rfl,fun _ => rfl⟩

theorem judged_spec (settled : Settled config ewma) (point : DataPoint K) :
    (ewma.judged math point).1 = mix (smoothingFactor math ewma point) point.value
      (projected config (levelBefore ewma point) (trendBefore ewma)) ∧
      Settled config (ewma.judged math point).2 ∧
      (ewma.judged math point).2.initialized = true ∧
      (ewma.judged math point).2.currentValue = levelBefore ewma point := by
  obtain ⟨config_eq,level,trend,initialized,alpha,_⟩ := prepared_spec math ewma point
  obtain ⟨rfl,alpha_eq⟩ := settled
  cases variant : ewma.config.variant with
  | adaptive =>
      refine ⟨?_,⟨?_,fun different => absurd variant different⟩,?_,?_⟩ <;>
        simp [EWMA.judged,EWMA.calculateEWMA,EWMA.calculateSimpleEWMA,EWMA.calculateAdaptiveEWMA,EWMA.updateVariance,
          smoothingFactor,projected,mix,variant,config_eq,level,initialized]
  | simple | double =>
      refine ⟨?_,⟨?_,fun _ => ?_⟩,?_,?_⟩ <;>
        simp [EWMA.judged,EWMA.calculateEWMA,EWMA.calculateSimpleEWMA,EWMA.calculateDoubleEWMA,EWMA.updateVariance,
          smoothingFactor,projected,mix,variant,config_eq,level,trend,initialized,alpha,alpha_eq]

theorem judged_variance (ewma : EWMA K) (point : DataPoint K) :
    (ewma.judged math point).2.dataPoints = (ewma.store point).dataPoints ∧
      (ewma.judged math point).2.variance = varianceAfter ewma point := by
  obtain ⟨config_eq,level,_,_,_,points,variance⟩ := prepared_spec math ewma point
  cases variant : ewma.config.variant <;>
    simp [EWMA.judged,EWMA.calculateEWMA,EWMA.calculateSimpleEWMA,EWMA.calculateDoubleEWMA,EWMA.calculateAdaptiveEWMA,
      EWMA.updateVariance,varianceAfter,variant,config_eq,level,points,variance]

theorem judged_trendValue (settled : Settled config ewma) (point : DataPoint K) :
    (ewma.judged math point).2.trendValue =
      if config.variant = .double then smoothingFactor math ewma point * ((ewma.judged math point).1 - levelBefore ewma point) +
        (1 - smoothingFactor math ewma point) * trendBefore ewma
      else trendBefore ewma := by
  obtain ⟨config_eq,level,trend,_,alpha,_⟩ := prepared_spec math ewma point
  obtain ⟨rfl,alpha_eq⟩ := settled
  cases variant : ewma.config.variant <;>
    simp [EWMA.judged,EWMA.calculateEWMA,EWMA.calculateSimpleEWMA,EWMA.calculateDoubleEWMA,EWMA.calculateAdaptiveEWMA,
      EWMA.updateVariance,smoothingFactor,variant,config_eq,level,trend,alpha,alpha_eq]

variable [FloorRing K]

theorem update_spec (settled : Settled config ewma) (now : ℤ) (point : DataPoint K) :
    (ewma.update math now point).2.currentValue = mix (smoothingFactor math ewma point) point.value
      (projected config (levelBefore ewma point) (trendBefore ewma)) ∧
      Settled config (ewma.update math now point).2 ∧
      (ewma.update math now point).2.initialized = true := by
  obtain ⟨level,judged,initialized,_⟩ := judged_spec math settled point
  exact ⟨level,⟨judged.config_eq,judged.alpha_eq⟩,initialized⟩

theorem step_settled (config : EWMAConfig K) (ewma : EWMA K) (operation : Operation K) (settled : Settled config ewma) :
    Settled config (step math ewma operation).1 := by
  cases operation with
  | reset => exact ⟨settled.config_eq,fun _ => congrArg EWMAConfig.alpha settled.config_eq⟩
  | update now point => exact (update_spec math settled now point).2.1

def feed (updates : List (ℤ × DataPoint K)) : List (Operation K) :=
  updates.map (fun entry => .update entry.1 entry.2)

def valuesOf (updates : List (ℤ × DataPoint K)) : List K := updates.map (fun entry => entry.2.value)

theorem simple_run (simple : config.variant = .simple) (settled : Settled config ewma)
    (known : ewma.initialized = true) (updates : List (ℤ × DataPoint K)) :
    (Machine.exec (step math) ewma (feed updates)).1.currentValue =
      smooth config.alpha ewma.currentValue (valuesOf updates) := by
  induction updates generalizing ewma with
  | nil => rfl
  | cons entry rest ih =>
      obtain ⟨level,next,initialized⟩ := update_spec math settled entry.1 entry.2
      have weight : smoothingFactor math ewma entry.2 = config.alpha := by
        simp [smoothingFactor,settled.config_eq,simple]
      rw [weight,projected,if_neg (by rw [simple]; decide),levelBefore,if_pos known] at level
      calc (Machine.exec (step math) ewma (feed (entry :: rest))).1.currentValue
          = smooth config.alpha (ewma.update math entry.1 entry.2).2.currentValue (valuesOf rest) := ih next initialized
        _ = smooth config.alpha ewma.currentValue (valuesOf (entry :: rest)) := by rw [level]; rfl

def Weighted (config : EWMAConfig K) : Prop :=
  (config.variant = .simple ∧ 0 ≤ config.alpha ∧ config.alpha ≤ 1) ∨
    (config.variant = .adaptive ∧ 0 ≤ config.minAlpha ∧ config.minAlpha ≤ config.alpha ∧
      config.alpha ≤ config.maxAlpha ∧ config.maxAlpha ≤ 1)

omit [FloorRing K] in
theorem weighted_not_double {config : EWMAConfig K} (weighted : Weighted config) : config.variant ≠ .double := by
  rcases weighted with ⟨variant,_⟩ | ⟨variant,_⟩ <;> rw [variant] <;> decide

theorem first_update (weighted : Weighted config) (settled : Settled config ewma) (fresh : ewma.initialized = false)
    (now : ℤ) (point : DataPoint K) : (ewma.update math now point).2.currentValue = point.value := by
  have level := (update_spec math settled now point).1
  rwa [projected,if_neg (weighted_not_double weighted),levelBefore,fresh,if_neg (by decide),mix_self] at level

section Weights
variable [IsStrictOrderedRing K]

omit [FloorRing K] in
theorem smoothingFactor_mem (weighted : Weighted config) (settled : Settled config ewma) (point : DataPoint K) :
    0 ≤ smoothingFactor math ewma point ∧ smoothingFactor math ewma point ≤ 1 := by
  obtain ⟨rfl,_⟩ := settled
  rcases weighted with ⟨simple,nonneg,below⟩ | ⟨adaptive,least,above,under,most⟩
  · rw [smoothingFactor,if_neg (by rw [simple]; decide)]
    exact ⟨nonneg,below⟩
  · have nonneg : 0 ≤ ewma.config.alpha := least.trans above
    have below : ewma.config.alpha ≤ 1 := under.trans most
    have slower : ewma.config.alpha * lit (95/100) ≤ 1 := by rw [lit_cast]; push_cast; linarith
    have faster : 0 ≤ ewma.config.alpha * lit (3/2) := by rw [lit_cast]; push_cast; linarith
    rw [smoothingFactor,if_pos adaptive]
    split
    · exact ⟨le_min (nonneg.trans under) faster,(min_le_left _ _).trans most⟩
    · exact ⟨least.trans (le_max_left _ _),max_le (above.trans below) slower⟩

theorem spanned_run (weighted : Weighted config) (settled : Settled config ewma) (known : ewma.initialized = true)
    (spanned : Spanned seen ewma.currentValue) (updates : List (ℤ × DataPoint K)) :
    Spanned (seen ++ valuesOf updates) (Machine.exec (step math) ewma (feed updates)).1.currentValue := by
  induction updates generalizing ewma seen with
  | nil => simpa [valuesOf,feed] using spanned
  | cons entry rest ih =>
      obtain ⟨level,next,initialized⟩ := update_spec math settled entry.1 entry.2
      obtain ⟨nonneg,below⟩ := smoothingFactor_mem math weighted settled entry.2
      rw [projected,if_neg (weighted_not_double weighted),levelBefore,if_pos known] at level
      have mixed : Spanned (seen ++ [entry.2.value]) (ewma.update math entry.1 entry.2).2.currentValue := by
        rw [level]; exact spanned.mix nonneg below entry.2.value
      have later := ih next initialized mixed
      rwa [List.append_assoc] at later

theorem weighted_means (config : EWMAConfig K) (weighted : Weighted config) (start now : ℤ) (first : DataPoint K)
    (rest : List (ℤ × DataPoint K)) :
    let ewma := (Machine.exec (step math) (EWMA.create config start) (feed ((now,first) :: rest))).1
    (config.variant = .simple → ewma.currentValue = (1 - config.alpha) ^ rest.length * first.value +
      ∑ i ∈ Finset.range rest.length,
        config.alpha * (1 - config.alpha) ^ (rest.length - 1 - i) * (valuesOf rest).getD i 0) ∧
      Spanned (valuesOf ((now,first) :: rest)) ewma.currentValue := by
  intro ewma
  obtain ⟨_,settled,known⟩ := update_spec math (create_settled config start) now first
  have level := first_update math weighted (create_settled config start) rfl now first
  constructor
  · intro simple
    have closed := simple_run math simple settled known rest
    rw [level,smooth_eq,valuesOf,List.length_map] at closed
    exact closed
  · have initially : Spanned [first.value] ((EWMA.create config start).update math now first).2.currentValue := by
      rw [level]; exact spanned_first first.value
    exact spanned_run math weighted settled known initially rest

theorem weighted_means_default :
    let ewma := (Machine.exec (step (K := ℚ) ⟨id,id,id,id⟩) (EWMA.create getDefaultEWMAConfig 0)
      (feed [(0,⟨5,0⟩),(1,⟨10,1⟩)])).1
    ewma.currentValue = 6 ∧ Spanned [5,10] ewma.currentValue := by
  have weighted : Weighted (getDefaultEWMAConfig (K := ℚ)) :=
    Or.inl ⟨rfl,by norm_num [getDefaultEWMAConfig],by norm_num [getDefaultEWMAConfig]⟩
  obtain ⟨closed,spanned⟩ := weighted_means (K := ℚ) ⟨id,id,id,id⟩ _ weighted 0 0 ⟨5,0⟩ [(1,⟨10,1⟩)]
  refine ⟨(closed rfl).trans ?_,spanned⟩
  norm_num [valuesOf,getDefaultEWMAConfig]

end Weights

end PhantomFlow.Ewma
