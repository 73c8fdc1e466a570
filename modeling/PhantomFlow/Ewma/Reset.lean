import PhantomFlow.Ewma.EWMA
import PhantomFlow.Library.Machine

namespace PhantomFlow.Ewma
open Library Library.Machine

structure VolatilitySpike (K : Type) where
  timestamp : ℤ
  magnitude : JsNumber K
  duration : ℕ

inductive VolatilityRegime where
  | low | medium | high | extreme
  deriving DecidableEq

structure VolatilityAnalysis (K : Type) where
  current : K
  average : JsNumber K
  trend : TrendDirection
  spikes : List (VolatilitySpike K)
  regime : VolatilityRegime

structure EWMAValidation (K : Type) where
  isValid : Bool
  issues : List String
  accuracy : K
  dataPoints : ℕ
  memoryUsage : ℕ

section Volatility
variable {K : Type} [Field K] [LinearOrder K] (math : JsMath K)

-- The standard deviations of the windows of five that end before the last value.
def calculateVolatilityHistory (values : List K) : List K :=
  (List.range (values.length - 5)).map (fun i => math.sqrt (spreadOf ((values.drop i).take 5)))

def detectVolatilitySpikes (now : ℤ) (volatilities : List K) : List (VolatilitySpike K) :=
  let threshold := (JsNumber.div volatilities.sum volatilities.length).scale (lit 2)
  volatilities.zipIdx.filterMap (fun entry =>
    if threshold.lt (.finite entry.1) then
      some ⟨now - (volatilities.length - entry.2) * 60000,JsNumber.quotient (.finite entry.1) threshold,1⟩
    else none)

end Volatility

namespace EWMA
variable {K : Type} [Field K] [LinearOrder K] [FloorRing K] (ewma : EWMA K) (math : JsMath K)

-- Without volatilities their average is NaN and every comparison with it fails.
def getVolatilityAnalysis (now : ℤ) : VolatilityAnalysis K :=
  let volatilities := calculateVolatilityHistory math (ewma.recent 20)
  let current := ewma.calculateVolatility math
  let average : JsNumber K := .div volatilities.sum volatilities.length
  let below (factor : ℚ) := JsNumber.lt (.finite current) (average.scale (lit factor))
  { current
    average
    trend :=
      if average.lt (.finite current) then .increasing
      else if JsNumber.lt (.finite current) average then .decreasing
      else .stable
    spikes := detectVolatilitySpikes now volatilities
    regime := if below (1/2) then .low else if below (3/2) then .medium else if below 3 then .high else .extreme }

omit [Field K] [LinearOrder K] [FloorRing K] in
def calculateMemoryUsage : ℕ := 500 + ewma.dataPoints.length * 100

def validate : EWMAValidation K :=
  let accuracy := ewma.calculatePredictionAccuracy math
  let issues :=
    (if ewma.config.alpha ≤ 0 ∨ 1 ≤ ewma.config.alpha then ["Alpha must be between 0 and 1"] else []) ++
    (if ewma.config.windowSize < 10 then ["Window size should be at least 10 for stable results"] else []) ++
    (if accuracy < lit (7/10) then ["Low prediction accuracy: " ++ JsNumber.toFixedNumber 2 accuracy] else [])
  ⟨issues.isEmpty,issues,accuracy,ewma.dataPoints.length,ewma.calculateMemoryUsage⟩

end EWMA

inductive Call (K : Type) where
  | update (now : ℤ) (point : DataPoint K)
  | getCurrentValue
  | getTrend
  | getVolatilityAnalysis (now : ℤ)
  | validate
  | reset
  | getMemoryUsage

inductive Answer (K : Type) where
  | updated (result : EWMAResult K)
  | value (result : K)
  | trend (result : TrendDirection)
  | volatility (result : VolatilityAnalysis K)
  | validation (result : EWMAValidation K)
  | done
  | memory (result : ℕ)

section Calls
variable {K : Type} [Field K] [LinearOrder K] [FloorRing K] (math : JsMath K)

def callStep (ewma : EWMA K) : Call K → EWMA K × Answer K
  | .update now point => ((ewma.update math now point).2,.updated (ewma.update math now point).1)
  | .getCurrentValue => (ewma,.value ewma.currentValue)
  | .getTrend => (ewma,.trend (ewma.detectTrend math).direction)
  | .getVolatilityAnalysis now => (ewma,.volatility (ewma.getVolatilityAnalysis math now))
  | .validate => (ewma,.validation (ewma.validate math))
  | .reset => (ewma.reset,.done)
  | .getMemoryUsage => (ewma,.memory ewma.calculateMemoryUsage)

end Calls

section LastUpdate
variable {K : Type} [Field K]

def EWMA.updatedAt (ewma : EWMA K) (time : ℤ) : EWMA K := { ewma with lastUpdate := time }

variable (ewma : EWMA K) (time : ℤ)

theorem initializeWith_updatedAt (value : K) :
    (ewma.updatedAt time).initializeWith value = (ewma.initializeWith value).updatedAt time := by
  unfold EWMA.initializeWith
  cases here : ewma.initialized <;> simp [EWMA.updatedAt,here]

variable [LinearOrder K] (math : JsMath K)

theorem prepared_updatedAt (point : DataPoint K) :
    (ewma.updatedAt time).prepared math point = (ewma.prepared math point).updatedAt time := by
  have stored : (ewma.updatedAt time).store point = (ewma.store point).updatedAt time := rfl
  have adaptive : (ewma.updatedAt time).config.adaptiveAlpha = ewma.config.adaptiveAlpha := rfl
  unfold EWMA.prepared
  rw [stored,initializeWith_updatedAt,adaptive]
  cases ewma.config.adaptiveAlpha <;> rfl

theorem calculateEWMA_updatedAt (value : K) :
    (ewma.updatedAt time).calculateEWMA math value =
      ((ewma.calculateEWMA math value).1,(ewma.calculateEWMA math value).2.updatedAt time) := by
  have kind : (ewma.updatedAt time).config.variant = ewma.config.variant := rfl
  unfold EWMA.calculateEWMA
  rw [kind]
  cases ewma.config.variant <;> rfl

variable [FloorRing K]

theorem update_updatedAt (now : ℤ) (point : DataPoint K) :
    (ewma.updatedAt time).update math now point = ewma.update math now point := by
  have judged : (ewma.updatedAt time).judged math point =
      ((ewma.judged math point).1,(ewma.judged math point).2.updatedAt time) := by
    unfold EWMA.judged
    rw [prepared_updatedAt,calculateEWMA_updatedAt]
    rfl
  unfold EWMA.update
  rw [judged]
  rfl

-- No continuation tells the time of the last update.
theorem updatedAt_alike : Alike (callStep math) (ewma.updatedAt time) ewma := by
  have lockstep : ∀ (s t : EWMA K) (call : Call K), (∃ time, s = t.updatedAt time) →
      (∃ time, (callStep math s call).1 = (callStep math t call).1.updatedAt time) ∧
        (callStep math s call).2 = (callStep math t call).2 := by
    intro s t call related
    obtain ⟨time,rfl⟩ := related
    cases call with
    | update now point =>
        rw [callStep,callStep,update_updatedAt]
        exact ⟨⟨point.timestamp,rfl⟩,rfl⟩
    | _ => exact ⟨⟨time,rfl⟩,rfl⟩
  exact alike_of_lockstep lockstep ⟨time,rfl⟩

theorem update_config (now : ℤ) (point : DataPoint K) : (ewma.update math now point).2.config = ewma.config := by
  have started : ((ewma.store point).initializeWith point.value).config = ewma.config := by
    unfold EWMA.initializeWith
    split <;> rfl
  have prepared : (ewma.prepared math point).config = ewma.config := by
    unfold EWMA.prepared
    dsimp only
    split
    · exact started
    · exact started
  have level : ∀ s : EWMA K, (s.calculateEWMA math point.value).2.config = s.config := by
    intro s
    unfold EWMA.calculateEWMA
    cases s.config.variant <;> rfl
  exact (level _).trans prepared

theorem callStep_config (call : Call K) : (callStep math ewma call).1.config = ewma.config := by
  cases call with
  | update now point => exact update_config ewma math now point
  | _ => rfl

omit [LinearOrder K] [FloorRing K] in
theorem reset_eq : ewma.reset = (EWMA.create ewma.config time).updatedAt ewma.lastUpdate := rfl

theorem reset_alike (config : EWMAConfig K) (now now' : ℤ) (history : List (Call K)) :
    Alike (callStep math) (exec (callStep math) (.create config now) history).1.reset (.create config now') := by
  have preserved : ∀ (s : EWMA K) call, s.config = config → (callStep math s call).1.config = config :=
    fun s call same => (callStep_config s math call).trans same
  have kept := exec_invariant preserved (s := .create config now) rfl history
  rw [reset_eq _ now',kept]
  exact updatedAt_alike _ _ math

end LastUpdate
end PhantomFlow.Ewma
