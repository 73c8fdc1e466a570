import PhantomFlow.Ewma.Forecast

namespace PhantomFlow.Ewma
open Library

inductive ChangeType where
  | level | trend | variance
  deriving DecidableEq

structure ChangePoint (K : Type) where
  timestamp : ℤ
  magnitude : JsNumber K
  confidence : K
  changeType : ChangeType

section Changes
variable {K : Type} [Field K] [LinearOrder K] (math : JsMath K)

def changeWindow (data : List (DataPoint K)) : ℕ := max 5 (data.length / 10)

def changeAt (data : List (DataPoint K)) (i : ℕ) : K :=
  let values := data.map DataPoint.value
  let windowSize := changeWindow data
  let before := (values.drop (i - windowSize)).take windowSize
  let after := (values.drop i).take windowSize
  |meanOf after - meanOf before|

def changeLimit (data : List (DataPoint K)) : K :=
  math.sqrt (calculateVariance (data.map DataPoint.value)) * lit (3/2)

def changeIndices (data : List (DataPoint K)) : List ℕ :=
  if data.length < 20 then []
  else (List.range' (changeWindow data) (data.length - changeWindow data - changeWindow data)).filter (fun i =>
    decide (changeLimit math data < changeAt data i))

def detectChangePoints (data : List (DataPoint K)) : List (ChangePoint K) :=
  (changeIndices math data).filterMap (fun i => data[i]?.map (fun point =>
    { timestamp := point.timestamp
      magnitude := JsNumber.div (changeAt data i) (changeLimit math data)
      confidence := min (lit (9/10)) (changeWindow data / lit 10)
      changeType := .level }))

end Changes

structure Shifted (data : List (DataPoint ℝ)) (a b : ℝ) (k : ℕ) : Prop where
  inside : k ≤ data.length
  values : data.map DataPoint.value = List.replicate k a ++ List.replicate (data.length - k) b

theorem Shifted.total (shifted : Shifted data a b k) : (k : ℝ) + (data.length - k : ℕ) = data.length := by
  rw [← Nat.cast_add,Nat.add_sub_cancel' shifted.inside]

theorem meanOf_window (a b : ℝ) (k m first : ℕ) (width_pos : 0 < width) (fits : first + width ≤ k + m) :
    meanOf (((List.replicate k a ++ List.replicate m b).drop first).take width) =
      a + (b - a) * ((width - (k - first) : ℕ) : ℝ) / width := by
  have parts : ((List.replicate k a ++ List.replicate m b).drop first).take width =
      List.replicate (min width (k - first)) a ++ List.replicate (width - (k - first)) b := by
    rw [List.drop_append,List.drop_replicate,List.drop_replicate,List.take_append,List.take_replicate,List.take_replicate,
      List.length_replicate,List.length_replicate]
    congr 2
    omega
  have total : min width (k - first) + (width - (k - first)) = width := by omega
  have mean := average_two (List.Perm.of_eq parts) (by omega)
  rw [← Nat.cast_add,total] at mean
  exact mean

def overlap (width k i : ℕ) : ℕ := width - (max i k - min i k)

section Shift
variable {data : List (DataPoint ℝ)} {a b : ℝ} {k i : ℕ}

theorem changeWindow_pos (data : List (DataPoint ℝ)) : 0 < changeWindow data :=
  lt_of_lt_of_le (by decide) (le_max_left 5 (data.length / 10))

theorem changeAt_eq (shifted : Shifted data a b k) (low : changeWindow data ≤ i)
    (high : i + changeWindow data ≤ data.length) :
    changeAt data i = |b - a| * overlap (changeWindow data) k i / changeWindow data := by
  have positive : (0 : ℝ) < changeWindow data := Nat.cast_pos.mpr (changeWindow_pos data)
  have inside := shifted.inside
  have before := meanOf_window a b k (data.length - k) (i - changeWindow data) (changeWindow_pos data) (by omega)
  have after := meanOf_window a b k (data.length - k) i (changeWindow_pos data) (by omega)
  have counts : changeWindow data - (k - i) =
      changeWindow data - (k - (i - changeWindow data)) + overlap (changeWindow data) k i := by
    rw [overlap]; omega
  have difference : a + (b - a) * ((changeWindow data - (k - i) : ℕ) : ℝ) / changeWindow data -
      (a + (b - a) * ((changeWindow data - (k - (i - changeWindow data)) : ℕ) : ℝ) / changeWindow data) =
        (b - a) * (overlap (changeWindow data) k i / changeWindow data) := by
    rw [counts,Nat.cast_add]; ring
  rw [changeAt]
  simp only [shifted.values]
  rw [before,after,difference,abs_mul,abs_of_nonneg (div_nonneg (Nat.cast_nonneg _) positive.le),mul_div_assoc]

theorem changeLimit_eq (shifted : Shifted data a b k) (long : 2 ≤ data.length) :
    changeLimit realMath data = |b - a| * (√(k * (data.length - k : ℕ)) / data.length) * (3/2) := by
  have positive : (0 : ℝ) < data.length := by exact_mod_cast (by omega : 0 < data.length)
  have total := shifted.total
  have enough : ¬(data.map DataPoint.value).length < 2 := by rw [List.length_map]; omega
  have spread := spread_two (List.Perm.of_eq shifted.values) (by omega)
  rw [total] at spread
  have root : √(calculateVariance (data.map DataPoint.value)) = |b - a| * (√(k * (data.length - k : ℕ)) / data.length) := by
    rw [calculateVariance,if_neg enough,spreadOf_eq_spread,spread,Real.sqrt_div' _ (sq_nonneg _),Real.sqrt_sq positive.le,
      Real.sqrt_mul (sq_nonneg _),Real.sqrt_sq_eq_abs,mul_div_assoc]
  rw [changeLimit,realMath_sqrt,root,lit_cast]
  push_cast
  rfl

-- The deviation of the whole series is at most half the jump.
theorem changeLimit_lt (shifted : Shifted data a b k) (different : b ≠ a) (long : 2 ≤ data.length) :
    changeLimit realMath data < |b - a| := by
  have positive : (0 : ℝ) < data.length := by exact_mod_cast (by omega : 0 < data.length)
  have total := shifted.total
  have half : √((k : ℝ) * (data.length - k : ℕ)) ≤ data.length / 2 := by
    apply Real.sqrt_le_iff.mpr
    refine ⟨by positivity,?_⟩
    rw [← total]
    linarith [sq_nonneg ((k : ℝ) - (data.length - k : ℕ))]
  have share : √((k : ℝ) * (data.length - k : ℕ)) / data.length ≤ 1/2 := by
    rw [div_le_iff₀ positive]; linarith
  have jump : 0 < |b - a| := abs_pos.mpr (sub_ne_zero.mpr different)
  rw [changeLimit_eq shifted long]
  calc |b - a| * (√((k : ℝ) * (data.length - k : ℕ)) / data.length) * (3/2)
      ≤ |b - a| * (1/2) * (3/2) := by gcongr
    _ < |b - a| := by linarith

theorem changeLimit_pos (shifted : Shifted data a b k) (different : b ≠ a) (first : 0 < k) (last : k < data.length) :
    0 < changeLimit realMath data := by
  have before : (0 : ℝ) < k := Nat.cast_pos.mpr first
  have after : (0 : ℝ) < (data.length - k : ℕ) := Nat.cast_pos.mpr (Nat.sub_pos_of_lt last)
  have length : (0 : ℝ) < data.length := Nat.cast_pos.mpr (Nat.zero_lt_of_lt last)
  have jump : 0 < |b - a| := abs_pos.mpr (sub_ne_zero.mpr different)
  rw [changeLimit_eq shifted (by omega)]
  positivity

theorem mem_changeIndices : i ∈ changeIndices realMath data ↔ 20 ≤ data.length ∧ changeWindow data ≤ i ∧
    i < data.length - changeWindow data ∧ changeLimit realMath data < changeAt data i := by
  rw [changeIndices]
  split
  · rename_i short
    constructor
    · intro none; cases none
    · intro all; exact absurd all.1 (Nat.not_le_of_lt short)
  · rename_i long
    rw [List.mem_filter,List.mem_range'_1,decide_eq_true_iff]
    constructor
    · intro all; exact ⟨Nat.le_of_not_lt long,all.1.1,by omega,all.2⟩
    · intro all; exact ⟨⟨all.2.1,by omega⟩,all.2.2.2⟩

theorem changeIndices_near (shifted : Shifted data a b k) (here : i ∈ changeIndices realMath data) :
    |(i : ℤ) - k| < changeWindow data := by
  obtain ⟨long,low,high,exceeds⟩ := mem_changeIndices.mp here
  by_contra far
  rw [abs_lt] at far
  have apart : overlap (changeWindow data) k i = 0 := by
    rw [overlap]
    omega
  have nonneg : 0 ≤ changeLimit realMath data := by
    rw [changeLimit_eq shifted (by omega)]
    positivity
  rw [changeAt_eq shifted low (by omega),apart,Nat.cast_zero,mul_zero,zero_div] at exceeds
  exact absurd exceeds (not_lt.mpr nonneg)

theorem shift_reported (shifted : Shifted data a b k) (different : b ≠ a) (long : 20 ≤ data.length)
    (low : changeWindow data ≤ k) (high : k < data.length - changeWindow data) : k ∈ changeIndices realMath data := by
  apply mem_changeIndices.mpr
  refine ⟨long,low,high,?_⟩
  have width : (0 : ℝ) < changeWindow data := Nat.cast_pos.mpr (changeWindow_pos data)
  have whole : overlap (changeWindow data) k k = changeWindow data := by
    rw [overlap]
    omega
  rw [changeAt_eq shifted low (by omega),whole,mul_div_assoc,div_self width.ne',mul_one]
  exact changeLimit_lt shifted different (by omega)

theorem magnitude_finite (limit_pos : 0 < changeLimit realMath data) (report : ChangePoint ℝ)
    (listed : report ∈ detectChangePoints realMath data) : ∃ magnitude, report.magnitude = .finite magnitude ∧ 1 < magnitude := by
  obtain ⟨i,here,shown⟩ := List.mem_filterMap.mp listed
  obtain ⟨point,_,rfl⟩ := Option.map_eq_some_iff.mp shown
  refine ⟨changeAt data i / changeLimit realMath data,if_pos limit_pos.ne',?_⟩
  rw [one_lt_div limit_pos]
  exact (mem_changeIndices.mp here).2.2.2

theorem timestamps_eq (data : List (DataPoint ℝ)) : (detectChangePoints realMath data).map ChangePoint.timestamp =
    (changeIndices realMath data).filterMap (fun i => data[i]?.map DataPoint.timestamp) := by
  rw [detectChangePoints,List.map_filterMap]
  congr 1
  funext i
  rw [Option.map_map]
  rfl

theorem constant_unreported (same : ∀ point ∈ data, point.value = a) : detectChangePoints realMath data = [] := by
  have values : data.map DataPoint.value = List.replicate data.length a := by
    rw [List.eq_replicate_iff,List.length_map]
    exact ⟨rfl,List.forall_mem_map.mpr same⟩
  have shifted : Shifted data a a data.length := ⟨le_refl _,by rw [values,Nat.sub_self,List.replicate_zero,List.append_nil]⟩
  have none : changeIndices realMath data = [] := by
    apply List.eq_nil_iff_forall_not_mem.mpr
    intro i here
    obtain ⟨long,low,high,exceeds⟩ := mem_changeIndices.mp here
    rw [changeAt_eq shifted low (by omega),changeLimit_eq shifted (by omega),sub_self,abs_zero] at exceeds
    simp at exceeds
  rw [detectChangePoints,none,List.filterMap_nil]

end Shift

theorem level_shifts_located (data : List (DataPoint ℝ)) (a b : ℝ) (k : ℕ) (shifted : Shifted data a b k)
    (different : b ≠ a) (long : 20 ≤ data.length) (low : changeWindow data ≤ k)
    (high : k < data.length - changeWindow data) :
    k ∈ changeIndices realMath data ∧ (∀ i ∈ changeIndices realMath data, |(i : ℤ) - k| < changeWindow data) ∧
      (detectChangePoints realMath data).map ChangePoint.timestamp =
        (changeIndices realMath data).filterMap (fun i => data[i]?.map DataPoint.timestamp) ∧
      (∀ report ∈ detectChangePoints realMath data, ∃ magnitude, report.magnitude = .finite magnitude ∧ 1 < magnitude) ∧
      ∀ (value : ℝ) (constant : List (DataPoint ℝ)), (∀ point ∈ constant, point.value = value) →
        detectChangePoints realMath constant = [] := by
  have width := changeWindow_pos data
  have limit := changeLimit_pos shifted different (by omega) (by omega)
  exact ⟨shift_reported shifted different long low high,fun i here => changeIndices_near shifted here,timestamps_eq data,
    magnitude_finite limit,fun value constant same => constant_unreported same⟩

theorem level_shifts_located_twenty :
    let data := (List.replicate 10 (1 : ℝ) ++ List.replicate 10 3).map (fun value => (⟨value,0⟩ : DataPoint ℝ))
    10 ∈ changeIndices realMath data := by
  intro data
  have values : data.map DataPoint.value = List.replicate 10 1 ++ List.replicate 10 3 := by
    rw [List.map_map]
    exact List.map_id _
  have shifted : Shifted data 1 3 10 := ⟨by decide,values⟩
  exact (level_shifts_located data 1 3 10 shifted (by norm_num) (by decide) (by decide) (by decide)).1

end PhantomFlow.Ewma
