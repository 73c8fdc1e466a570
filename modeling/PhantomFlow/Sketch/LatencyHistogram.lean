import PhantomFlow.Library.BoundedHistory
import PhantomFlow.Library.Doubles
import PhantomFlow.Library.OrderStatistics

namespace PhantomFlow.Sketch
open Library Library.Doubles

structure LatencyHistogram (V : Type) where
  buckets : List V := []

namespace LatencyHistogram
variable {V : Type}

def maxSize : ℕ := 1000

def add (histogram : LatencyHistogram V) (value : V) : LatencyHistogram V :=
  let buckets := histogram.buckets ++ [value]
  ⟨if maxSize < buckets.length then buckets.tail else buckets⟩

-- Both steps of the product are rounded to doubles.
def index (percentile : ℚ) (length : ℕ) : ℤ := ⌈toDouble (toDouble (percentile / 100) * length)⌉ - 1

def readIndex (percentile : ℚ) (length : ℕ) : ℕ := (max 0 (index percentile length)).toNat

-- `none` stands for a read outside the array.
def getPercentile [LinearOrder V] [Zero V] (histogram : LatencyHistogram V) (percentile : ℚ) : Option V :=
  if histogram.buckets.length = 0 then some 0
  else orderStatistic histogram.buckets (readIndex percentile histogram.buckets.length)

def recorded (added : List V) : LatencyHistogram V := added.foldl add {}

theorem buckets_add (histogram : LatencyHistogram V) (value : V) (kept : histogram.buckets = added.rtake maxSize) :
    (histogram.add value).buckets = (added ++ [value]).rtake maxSize := by
  have joined := rtake_append_rtake added [value] (Nat.le_refl maxSize)
  have bound := length_rtake added maxSize
  rw [← kept] at joined bound
  rw [← joined]
  unfold add
  dsimp only
  split
  · rename_i past
    rw [List.length_append,List.length_singleton] at past
    have one : (histogram.buckets ++ [value]).length - maxSize = 1 := by
      rw [List.length_append,List.length_singleton]
      omega
    rw [List.rtake,one,List.drop_one]
  · rename_i fits
    rw [rtake_of_length_le (Nat.not_lt.mp fits)]

theorem buckets_recorded (added : List V) : (recorded added).buckets = added.rtake maxSize := by
  induction added using List.reverseRecOn with
  | nil => exact List.drop_nil.symm
  | append_singleton added value ih =>
      have last : recorded (added ++ [value]) = (recorded added).add value := List.foldl_concat ..
      rw [last]
      exact buckets_add _ value ih

theorem index_mono (nonneg : 0 ≤ p) (le : p ≤ q) (length : ℕ) : index p length ≤ index q length := by
  have shares : p / 100 ≤ q / 100 := by linarith
  have share : 0 ≤ p / 100 := by linarith
  have doubles := toDouble_mono share shares
  have products := mul_le_mul_of_nonneg_right doubles (Nat.cast_nonneg length)
  have rounded := toDouble_mono (mul_nonneg (toDouble_nonneg share) (Nat.cast_nonneg length)) products
  exact sub_le_sub_right (Int.ceil_mono rounded) 1

theorem index_hundred (fits : length < 2 ^ 53) : index 100 length = length - 1 := by
  have one := toDouble_natCast 1 (by norm_num)
  rw [Nat.cast_one] at one
  unfold index
  rw [div_self (by norm_num),one,one_mul,toDouble_natCast length fits.le,Int.ceil_natCast]

theorem readIndex_lt (nonneg : 0 ≤ p) (most : p ≤ 100) (some' : 0 < length) (fits : length < 2 ^ 53) :
    readIndex p length < length := by
  have bound := index_mono nonneg most length
  rw [index_hundred fits] at bound
  unfold readIndex
  omega

theorem readIndex_mono (nonneg : 0 ≤ p) (le : p ≤ q) (length : ℕ) : readIndex p length ≤ readIndex q length :=
  Int.toNat_le_toNat (max_le_max_left 0 (index_mono nonneg le length))

structure NearestRank [LinearOrder V] (values : List V) (percentile : ℚ) (value : V) : Prop where
  member : value ∈ values
  atLeast : percentile / 100 * values.length ≤ values.countP (· ≤ value)
  fewer : values.countP (· < value) < percentile / 100 * values.length

def ExactRank (percentile : ℚ) (length : ℕ) : Prop :=
  ⌈toDouble (toDouble (percentile / 100) * length)⌉ = ⌈percentile / 100 * length⌉

theorem readIndex_exact (positive : 0 < p) (some' : 0 < length) (exact' : ExactRank p length) :
    (readIndex p length : ℤ) = ⌈p / 100 * length⌉ - 1 := by
  have above : 0 < ⌈p / 100 * (length : ℚ)⌉ := Int.ceil_pos.mpr (mul_pos (by linarith) (by exact_mod_cast some'))
  unfold readIndex index
  rw [show ⌈toDouble (toDouble (p / 100) * length)⌉ = ⌈p / 100 * (length : ℚ)⌉ from exact']
  omega

theorem nearestRank_of_exact [LinearOrder V] {values : List V} (positive : 0 < p) (some' : 0 < values.length)
    (exact' : ExactRank p values.length) (found : orderStatistic values (readIndex p values.length) = some value) :
    NearestRank values p value := by
  have place := readIndex_exact positive some' exact'
  obtain ⟨below,reach⟩ := orderStatistic_counts found
  have upper : p / 100 * values.length ≤ ⌈p / 100 * (values.length : ℚ)⌉ := Int.le_ceil _
  have lower : (⌈p / 100 * (values.length : ℚ)⌉ : ℚ) < p / 100 * values.length + 1 := Int.ceil_lt_add_one _
  have rank : ((readIndex p values.length : ℤ) : ℚ) = ⌈p / 100 * (values.length : ℚ)⌉ - 1 := by
    rw [place]
    push_cast
    rfl
  rw [Int.cast_natCast] at rank
  refine ⟨orderStatistic_mem found,?_,?_⟩
  · have counted : (readIndex p values.length : ℚ) + 1 ≤ values.countP (· ≤ value) := by exact_mod_cast reach
    linarith
  · have counted : (values.countP (· < value) : ℚ) ≤ readIndex p values.length := by exact_mod_cast below
    linarith

-- A share of whole percents in doubles, from below by twenty binary digits.
theorem share_ge (percent : ℕ) (small : percent ≤ 100) : (percent : ℚ) / 100 - 1 / 2 ^ 20 ≤ toDouble (percent / 100) := by
  have digits : percent * 2 ^ 20 / 100 * 100 ≤ percent * 2 ^ 20 ∧ percent * 2 ^ 20 < percent * 2 ^ 20 / 100 * 100 + 100 := by
    omega
  have bound : percent * 2 ^ 20 / 100 < 2 ^ 53 := by omega
  generalize percent * 2 ^ 20 / 100 = k at digits bound
  have lower : (k : ℚ) * 100 ≤ percent * 2 ^ 20 := by exact_mod_cast digits.1
  have upper : (percent : ℚ) * 2 ^ 20 < k * 100 + 100 := by exact_mod_cast digits.2
  have fixed : toDouble ((k : ℚ) / 2 ^ 20) = k / 2 ^ 20 :=
    toDouble_dyadic k 20 bound (by norm_num) (div_mul_cancel₀ _ (by positivity))
  have share : (k : ℚ) / 2 ^ 20 ≤ percent / 100 := by
    rw [div_le_div_iff₀ (by positivity) (by positivity)]
    exact lower
  have rounded := toDouble_mono (by positivity) share
  rw [fixed] at rounded
  have near : (percent : ℚ) / 100 - 1 / 2 ^ 20 ≤ k / 2 ^ 20 := by linarith
  exact near.trans rounded

theorem exists_rank (percent length : ℕ) : ∃ rank : ℕ, percent * length ≤ rank * 100 ∧ rank * 100 < percent * length + 100 ∧
    ⌈(percent : ℚ) / 100 * length⌉ = rank := by
  have above : percent * length ≤ (percent * length + 99) / 100 * 100 := by omega
  have below : (percent * length + 99) / 100 * 100 < percent * length + 100 := by omega
  refine ⟨(percent * length + 99) / 100,above,below,?_⟩
  generalize (percent * length + 99) / 100 = rank at above below
  have upper : (percent : ℚ) * length ≤ rank * 100 := by exact_mod_cast above
  have lower : (rank : ℚ) * 100 < percent * length + 100 := by exact_mod_cast below
  apply Int.ceil_eq_iff.mpr
  push_cast
  exact ⟨by linarith,by linarith⟩

-- Above the rank before, a hundredth at least is left, which seven binary digits tell.
theorem product_ge (percent : ℕ) (small : percent ≤ 100) (fits : length ≤ maxSize) (some' : 0 < rank)
    (under : rank * 100 < percent * length + 100) (few : rank ≤ 1000) :
    (rank : ℚ) - 127 / 128 ≤ toDouble (toDouble (percent / 100) * length) := by
  have short : (length : ℚ) ≤ 1000 := by exact_mod_cast fits
  have near := mul_le_mul_of_nonneg_right (share_ge percent small) (Nat.cast_nonneg (α:=ℚ) length)
  have steps : (rank : ℚ) * 100 + 1 ≤ percent * length + 100 := by exact_mod_cast under
  have apart : ((128 * rank - 127 : ℕ) : ℚ) = 128 * rank - 127 := by
    rw [Nat.cast_sub (by omega)]
    push_cast
    rfl
  have fixed : toDouble ((rank : ℚ) - 127 / 128) = rank - 127 / 128 := by
    apply toDouble_dyadic (128 * rank - 127) 7 (by omega) (by norm_num)
    rw [apart]
    ring
  have least : (0 : ℚ) ≤ rank - 127 / 128 := by
    have one : (1 : ℚ) ≤ rank := by exact_mod_cast some'
    linarith
  have rounded := toDouble_mono least (show (rank : ℚ) - 127 / 128 ≤ toDouble (percent / 100) * length by linarith)
  rwa [fixed] at rounded

-- A whole percentile whose share is not rounded up has the exact rank at every length
-- that the histogram reaches.
theorem exactRank_of_down (percent : ℕ) (down : toDouble ((percent : ℚ) / 100) ≤ percent / 100)
    (small : percent ≤ 100) (fits : length ≤ maxSize) : ExactRank percent length := by
  have long : (0 : ℚ) ≤ length := Nat.cast_nonneg length
  have nonneg := mul_nonneg (toDouble_nonneg (show (0 : ℚ) ≤ percent / 100 by positivity)) long
  have product : toDouble (percent / 100) * length ≤ percent / 100 * length := mul_le_mul_of_nonneg_right down long
  obtain ⟨rank,reached,under,whole⟩ := exists_rank percent length
  have few : rank ≤ 1000 := by
    have most := Nat.mul_le_mul small fits
    unfold maxSize at most
    omega
  have upper : (percent : ℚ) / 100 * length ≤ rank := by
    rw [← Int.cast_natCast rank,← whole]
    exact Int.le_ceil _
  unfold ExactRank
  rw [whole]
  apply Int.ceil_eq_iff.mpr
  push_cast
  constructor
  · cases Nat.eq_zero_or_pos rank with
    | inl zero =>
        have least := toDouble_nonneg nonneg
        rw [zero,Nat.cast_zero]
        linarith
    | inr some' =>
        have above := product_ge percent small fits some' under few
        linarith
  · have rounded := toDouble_mono nonneg (product.trans upper)
    rwa [toDouble_natCast rank (by omega)] at rounded

def metricPercentiles : List ℕ := [50,95,99]

theorem metricPercentiles_down : ∀ percent ∈ metricPercentiles, toDouble ((percent : ℚ) / 100) ≤ percent / 100 := by
  have half : toDouble ((50 : ℕ) / 100 : ℚ) = 1 / 2 := by
    rw [toDouble_eq (-1) 4503599627370496 (by norm_num) (by norm_num) (by norm_num) (by norm_num) (by norm_num)]
    norm_num
  have most : toDouble ((95 : ℕ) / 100 : ℚ) = 8556839292003942 / 2 ^ 53 := by
    rw [toDouble_eq (-1) 8556839292003942 (by norm_num) (by norm_num) (by norm_num) (by norm_num) (by norm_num)]
    norm_num
  have nearly : toDouble ((99 : ℕ) / 100 : ℚ) = 8917127262193582 / 2 ^ 53 := by
    rw [toDouble_eq (-1) 8917127262193582 (by norm_num) (by norm_num) (by norm_num) (by norm_num) (by norm_num)]
    norm_num
  unfold metricPercentiles
  simp only [List.forall_mem_cons]
  refine ⟨?_,?_,?_,?_⟩
  · rw [half]
    norm_num
  · rw [most]
    norm_num
  · rw [nearly]
    norm_num
  · intro percent none
    cases none

theorem getPercentile_empty [LinearOrder V] [Zero V] (p : ℚ) : (recorded ([] : List V)).getPercentile p = some 0 := rfl

theorem getPercentile_recorded [LinearOrder V] [Zero V] {added : List V} (some' : added ≠ []) (p : ℚ) :
    (recorded added).getPercentile p =
      orderStatistic (added.rtake maxSize) (readIndex p (added.rtake maxSize).length) := by
  have long := List.length_pos_iff.mpr some'
  have bound := length_rtake added maxSize
  unfold getPercentile
  rw [buckets_recorded]
  apply if_neg
  unfold maxSize at bound ⊢
  omega

theorem kept_length {added : List V} (some' : added ≠ []) :
    0 < (added.rtake maxSize).length ∧ (added.rtake maxSize).length ≤ maxSize := by
  have long := List.length_pos_iff.mpr some'
  rw [length_rtake]
  unfold maxSize
  omega

theorem getPercentile_isSome [LinearOrder V] [Zero V] {added : List V} (some' : added ≠ []) (nonneg : 0 ≤ p)
    (most : p ≤ 100) : ∃ value, (recorded added).getPercentile p = some value := by
  obtain ⟨least,fits⟩ := kept_length some'
  rw [getPercentile_recorded some']
  apply orderStatistic_isSome
  apply readIndex_lt nonneg most least
  unfold maxSize at fits ⊢
  omega

structure PercentileLaw [LinearOrder V] [Zero V] (added : List V) : Prop where
  inside : ∀ p, 0 < p → p ≤ 100 → ∃ value, (recorded added).getPercentile p = some value
  empty : added = [] → ∀ p, (recorded added).getPercentile p = some 0
  member : added ≠ [] → ∀ p value, (recorded added).getPercentile p = some value → value ∈ added.rtake maxSize
  nearest : added ≠ [] → ∀ p value, 0 < p → p ≤ 100 → ExactRank p (added.rtake maxSize).length →
    (recorded added).getPercentile p = some value → NearestRank (added.rtake maxSize) p value
  metrics : added ≠ [] → ∀ percent ∈ metricPercentiles, ∀ value,
    (recorded added).getPercentile percent = some value → NearestRank (added.rtake maxSize) percent value
  ordered : ∀ p q value other, 0 < p → p ≤ q → q ≤ 100 → (recorded added).getPercentile p = some value →
    (recorded added).getPercentile q = some other → value ≤ other

theorem percentile_law [LinearOrder V] [Zero V] (added : List V) : PercentileLaw added := by
  have nearest (some' : added ≠ []) (p : ℚ) (value : V) (positive : 0 < p) (_ : p ≤ 100)
      (exact' : ExactRank p (added.rtake maxSize).length) (found : (recorded added).getPercentile p = some value) :
      NearestRank (added.rtake maxSize) p value := by
    rw [getPercentile_recorded some'] at found
    exact nearestRank_of_exact positive (kept_length some').1 exact' found
  refine ⟨?_,?_,?_,nearest,?_,?_⟩
  · intro p positive most
    by_cases none : added = []
    · subst none
      exact ⟨0,getPercentile_empty p⟩
    · exact getPercentile_isSome none positive.le most
  · intro none p
    subst none
    exact getPercentile_empty p
  · intro some' p value found
    rw [getPercentile_recorded some'] at found
    exact orderStatistic_mem found
  · intro some' percent member value found
    have range : 0 < percent ∧ percent ≤ 100 := by
      simp only [metricPercentiles,List.mem_cons,List.not_mem_nil,or_false] at member
      omega
    have exact' := exactRank_of_down percent (metricPercentiles_down percent member) range.2 (kept_length some').2
    exact nearest some' percent value (by exact_mod_cast range.1) (by exact_mod_cast range.2) exact' found
  · intro p q value other positive le most first second
    by_cases none : added = []
    · subst none
      rw [getPercentile_empty] at first second
      cases first
      cases second
      exact le_refl _
    · rw [getPercentile_recorded none] at first second
      exact orderStatistic_mono (readIndex_mono positive.le le _) first second

def ReturnsNearestRank [LinearOrder V] [Zero V] (added : List V) (percentile : ℚ) : Prop :=
  ∃ value, (recorded added).getPercentile percentile = some value ∧
    NearestRank (added.rtake maxSize) percentile value

theorem readIndex_above : readIndex 28 25 = 7 := by
  have share : toDouble (28 / 100) = 5044031582654956 * 2 ^ (-54 : ℤ) := by
    rw [toDouble_eq (-2) 5044031582654956 (by norm_num) (by norm_num) (by norm_num) (by norm_num) (by norm_num)]
    norm_num
  have product : toDouble (5044031582654956 * 2 ^ (-54 : ℤ) * (25 : ℕ)) = 7881299347898369 * 2 ^ (-50 : ℤ) := by
    rw [toDouble_eq 2 7881299347898369 (by norm_num) (by norm_num) (by norm_num) (by norm_num) (by norm_num)]
    norm_num
  have above : ⌈(7881299347898369 * 2 ^ (-50 : ℤ) : ℚ)⌉ = 8 := by
    apply Int.ceil_eq_iff.mpr
    norm_num
  unfold readIndex index
  rw [share,product,above]
  decide

-- A histogram without measurements has no nearest rank, and of 25 measurements the
-- rank for 28 percent is one too high.
theorem empty_and_rounded_ranks : ¬ ReturnsNearestRank ([] : List ℕ) 50 ∧ ¬ ReturnsNearestRank (List.range 25) 28 := by
  constructor
  · intro returned
    obtain ⟨value,_,ranked⟩ := returned
    cases ranked.member
  · intro returned
    obtain ⟨value,found,ranked⟩ := returned
    have kept : (List.range 25).rtake maxSize = List.range 25 := rtake_of_length_le (by decide)
    rw [getPercentile_recorded (by decide),kept,List.length_range,readIndex_above] at found
    have seventh : orderStatistic (List.range 25) 7 = some 7 := by decide
    rw [seventh] at found
    cases found
    have fewer := ranked.fewer
    rw [kept,List.length_range] at fewer
    have seven : (List.range 25).countP (· < 7) = 7 := by decide
    rw [seven] at fewer
    norm_num at fewer

end LatencyHistogram

end PhantomFlow.Sketch
