import Mathlib.Order.Interval.Set.Defs
import Mathlib.Tactic.FieldSimp
import Mathlib.Tactic.Linarith
import Mathlib.Tactic.Ring
import PhantomFlow.RateLimit.LimiterRuns

namespace PhantomFlow.RateLimit.UserAdjustment
open Library

def configuredFactor (limiter : AdaptiveRateLimiter) (profile : UserProfile) : ℚ :=
  (limiter.userAdjustments profile).getD 1

def withProfile (redis : Redis) (request : RateLimitRequest) (profile : UserRateProfile) : Redis :=
  { redis with
    profiles := Function.update redis.profiles (AdaptiveRateLimiter.profileKey request) (some profile) }

def limitApplied (limiter : AdaptiveRateLimiter) (redis : Redis) (zone : LocalTime) (now : ℤ)
    (request : RateLimitRequest) (profile : UserRateProfile) : ℚ :=
  (limiter.checkRateLimit (withProfile redis request profile) zone now request).1.limitApplied

-- No profile gets more than one with a factor and a trust score that are at least as
-- high, among the trust scores that may be stored.
def LimitMonotone (limiter : AdaptiveRateLimiter) (redis : Redis) (zone : LocalTime) (now : ℤ)
    (request : RateLimitRequest) (scores : Set ℚ) : Prop :=
  ∀ first second : UserRateProfile, first.trustScore ∈ scores → second.trustScore ∈ scores →
    configuredFactor limiter first.userProfile ≤ configuredFactor limiter second.userProfile →
    first.trustScore ≤ second.trustScore →
    limitApplied limiter redis zone now request first ≤ limitApplied limiter redis zone now request second

def commonLimit (limiter : AdaptiveRateLimiter) (zone : LocalTime) (request : RateLimitRequest) : ℚ :=
  limiter.config.baseLimit * limiter.calculateThreatAdjustment (request.threatScore.getD 0) *
    limiter.calculateGeographicAdjustment request.ipAddress *
    limiter.calculateTemporalAdjustment zone request.timestamp

section Limits
variable {rate rate' trust trust' : ℚ}

def capped (rate trust : ℚ) : ℤ := max 1 ⌊rate * trust⌋

theorem capped_le (more : rate * trust ≤ rate' * trust') : capped rate trust ≤ capped rate' trust' :=
  max_le_max (le_refl 1) (Int.floor_le_floor more)

theorem one_le_capped (rate trust : ℚ) : 1 ≤ capped rate trust := le_max_left _ _

theorem capped_low (low : rate * trust < 2) : capped rate trust = 1 := by
  have below : ⌊rate * trust⌋ < 2 := by
    rw [Int.floor_lt]
    exact_mod_cast low
  unfold capped
  omega

theorem capped_lt {n : ℤ} (several : 2 ≤ n) (reached : rate * trust = n) (missed : rate' * trust < n) :
    capped rate' trust < capped rate trust := by
  have below : ⌊rate' * trust⌋ < n := by rwa [Int.floor_lt]
  rw [capped,capped,reached,Int.floor_intCast]
  omega

theorem exists_reached (several : 2 ≤ rate) :
    ∃ trust : ℚ, 1 / 2 ≤ trust ∧ trust ≤ 1 ∧ 0 < trust ∧ 2 ≤ ⌊rate⌋ ∧ rate * trust = ⌊rate⌋ := by
  have positive : 0 < rate := by linarith
  have above := Int.lt_floor_add_one rate
  refine ⟨⌊rate⌋ / rate,?_,?_,?_,?_,?_⟩
  · rw [le_div_iff₀ positive]
    linarith
  · rw [div_le_one positive]
    exact Int.floor_le rate
  · refine div_pos ?_ positive
    linarith
  · rw [Int.le_floor]
    exact_mod_cast several
  · exact mul_div_cancel₀ _ (ne_of_gt positive)

end Limits

section Tables
variable {π : Type} (common : ℚ) (factor : π → ℚ)

def effective (factor : π → ℚ) (profile : π) : ℚ := if factor profile = 0 then 1 else factor profile

def Ascending (scores : Set ℚ) : Prop :=
  ∀ u v, ∀ trust ∈ scores, ∀ trust' ∈ scores, factor u ≤ factor v → trust ≤ trust' →
    capped (common * effective factor u) trust ≤ capped (common * effective factor v) trust'

variable {common factor}

theorem effective_zero (zero : factor u = 0) : effective factor u = 1 := if_pos zero
theorem effective_other (other : factor u ≠ 0) : effective factor u = factor u := if_neg other

theorem effective_pos (upright : 0 ≤ factor u) : 0 < effective factor u := by
  by_cases zero : factor u = 0
  · rw [effective_zero zero]
    exact one_pos
  · rw [effective_other zero]
    exact lt_of_le_of_ne upright (Ne.symm zero)

theorem effective_mono (upright : ∀ u, 0 ≤ factor u)
    (gap : ∀ zero other, factor zero = 0 → 0 < factor other → 1 ≤ factor other) (order : factor u ≤ factor v) :
    effective factor u ≤ effective factor v := by
  by_cases none' : factor u = 0
  · rw [effective_zero none']
    by_cases also : factor v = 0
    · rw [effective_zero also]
    · rw [effective_other also]
      exact gap u v none' (lt_of_le_of_ne (upright v) (Ne.symm also))
  · have some' : factor v ≠ 0 := ne_of_gt ((lt_of_le_of_ne (upright u) (Ne.symm none')).trans_le order)
    rwa [effective_other none',effective_other some']

-- With every trust adjustment possible, no factor may turn the limit around, and the
-- factors in effect must be ordered like the configured ones.
theorem ascending_all_iff : Ascending common factor Set.univ ↔
    (∀ u, 0 ≤ common * effective factor u) ∧
      ∀ u v, factor u ≤ factor v → common * effective factor u ≤ common * effective factor v := by
  constructor
  · intro ascending
    have upright : ∀ u, 0 ≤ common * effective factor u := by
      intro u
      by_contra turned
      have negative := not_le.mp turned
      have reached : common * effective factor u * (2 / (common * effective factor u)) = ((2 : ℤ) : ℚ) :=
        mul_div_cancel₀ _ (ne_of_lt negative)
      have nothing : 0 * (2 / (common * effective factor u)) < ((2 : ℤ) : ℚ) := by
        rw [zero_mul]
        exact_mod_cast two_pos
      have more := capped_lt (le_refl 2) reached nothing
      have none' : capped (common * effective factor u) 0 = 1 := capped_low (by norm_num)
      have earlier := ascending u u _ (Set.mem_univ _) 0 (Set.mem_univ _) (le_refl _)
        (le_of_lt (div_neg_of_pos_of_neg two_pos negative))
      have least := one_le_capped 0 (2 / (common * effective factor u))
      omega
    refine ⟨upright,?_⟩
    intro u v order
    by_contra turned
    have less := not_le.mp turned
    have positive : 0 < common * effective factor u := (upright v).trans_lt less
    have reached : common * effective factor u * (2 / (common * effective factor u)) = ((2 : ℤ) : ℚ) :=
      mul_div_cancel₀ _ (ne_of_gt positive)
    have missed : common * effective factor v * (2 / (common * effective factor u)) < ((2 : ℤ) : ℚ) := by
      rw [← reached]
      exact mul_lt_mul_of_pos_right less (div_pos two_pos positive)
    exact absurd (ascending u v _ (Set.mem_univ _) _ (Set.mem_univ _) order (le_refl _))
      (not_le.mpr (capped_lt (le_refl 2) reached missed))
  · rintro ⟨upright,ordered⟩ u v trust - trust' - order increase
    rcases le_or_gt trust 0 with none' | some'
    · rw [capped_low]
      · exact one_le_capped _ _
      · have most := mul_nonpos_of_nonneg_of_nonpos (upright u) none'
        linarith
    · exact capped_le (mul_le_mul (ordered u v order) increase (le_of_lt some') (upright v))

theorem ascending_range_iff : Ascending common factor (Set.Icc (1 / 2) 1) ↔
    ∀ u v, factor u ≤ factor v →
      common * effective factor u ≤ common * effective factor v ∨ common * effective factor u < 2 := by
  constructor
  · intro ascending u v order
    by_contra neither
    obtain ⟨turned,high⟩ := not_or.mp neither
    obtain ⟨trust,low,top,positive,several,reached⟩ := exists_reached (not_lt.mp high)
    have missed : common * effective factor v * trust < ⌊common * effective factor u⌋ := by
      rw [← reached]
      exact mul_lt_mul_of_pos_right (not_le.mp turned) positive
    exact absurd (ascending u v trust ⟨low,top⟩ trust ⟨low,top⟩ order (le_refl _))
      (not_le.mpr (capped_lt several reached missed))
  · rintro condition u v trust ⟨low,top⟩ trust' - order increase
    by_cases few : common * effective factor u < 2
    · rw [capped_low]
      · exact one_le_capped _ _
      · nlinarith
    · have higher := (condition u v order).resolve_right few
      exact capped_le (mul_le_mul higher increase (by linarith) (by linarith))

theorem ascending_all_exact [Nonempty π] : Ascending common factor Set.univ ↔
    common = 0 ∨
      0 < common ∧ (∀ u, 0 ≤ factor u) ∧ (∀ zero other, factor zero = 0 → 0 < factor other → 1 ≤ factor other) ∨
      common < 0 ∧ (∃ same < 0, ∀ u, factor u = same) := by
  rw [ascending_all_iff]
  constructor
  · rintro ⟨upright,ordered⟩
    rcases lt_trichotomy common 0 with negative | zero | positive
    · right; right
      have down : ∀ u, factor u < 0 := by
        intro u
        by_contra up
        have above := effective_pos (not_lt.mp up)
        exact absurd (upright u) (not_le.mpr (mul_neg_of_neg_of_pos negative above))
      have same : ∀ u v, factor u ≤ factor v → factor v ≤ factor u := by
        intro u v order
        have turned := ordered u v order
        rwa [effective_other (ne_of_lt (down u)),effective_other (ne_of_lt (down v)),
          mul_le_mul_left_of_neg negative] at turned
      obtain ⟨u⟩ := ‹Nonempty π›
      refine ⟨negative,factor u,down u,fun v => ?_⟩
      rcases le_total (factor u) (factor v) with order | order
      · exact le_antisymm (same u v order) order
      · exact le_antisymm order (same v u order)
    · exact .inl zero
    · right; left
      refine ⟨positive,?_,?_⟩
      · intro u
        by_contra down
        have below := upright u
        rw [effective_other (ne_of_lt (not_le.mp down))] at below
        exact absurd below (not_le.mpr (mul_neg_of_pos_of_neg positive (not_le.mp down)))
      · intro zero other none' some'
        have order := ordered zero other (none'.trans_le (le_of_lt some'))
        rw [effective_zero none',effective_other (ne_of_gt some')] at order
        exact le_of_mul_le_mul_left order positive
  · rintro (rfl | ⟨positive,upright,gap⟩ | ⟨negative,same,below,equal⟩)
    · simp
    · refine ⟨?_,?_⟩
      · intro u
        exact le_of_lt (mul_pos positive (effective_pos (upright u)))
      · intro u v order
        exact mul_le_mul_of_nonneg_left (effective_mono upright gap order) (le_of_lt positive)
    · have all (u : π) : effective factor u = same := by
        rw [effective_other (by rw [equal u]; exact ne_of_lt below),equal u]
      refine ⟨?_,?_⟩
      · intro u
        rw [all u]
        exact le_of_lt (mul_pos_of_neg_of_neg negative below)
      · intro u v _
        rw [all u,all v]

theorem ascending_range_exact : Ascending common factor (Set.Icc (1 / 2) 1) ↔
    (0 ≤ common → ∀ zero other, factor zero = 0 → 0 < factor other → factor other < 1 → common < 2) ∧
      (common < 0 → ∀ u v, factor u < factor v → common * factor u < 2) := by
  rw [ascending_range_iff]
  constructor
  · intro condition
    refine ⟨?_,?_⟩
    · intro nonneg zero other none' some' small
      have order := condition zero other (none'.trans_le (le_of_lt some'))
      rw [effective_zero none',effective_other (ne_of_gt some'),mul_one] at order
      rcases order with most | few
      · nlinarith
      · exact few
    · intro negative u v order
      rcases le_or_gt 0 (factor u) with up | down
      · nlinarith
      · have either := condition u v (le_of_lt order)
        rw [effective_other (ne_of_lt down)] at either
        refine either.resolve_left fun turned => ?_
        rw [mul_le_mul_left_of_neg negative] at turned
        by_cases none' : factor v = 0
        · rw [effective_zero none'] at turned
          linarith
        · rw [effective_other none'] at turned
          linarith
  · rintro ⟨upper,lower⟩ u v order
    rcases le_or_gt 0 common with nonneg | negative
    · by_cases none' : factor u = 0
      · by_cases also : factor v = 0
        · exact .inl (by rw [effective_zero none',effective_zero also])
        · have some' : 0 < factor v := lt_of_le_of_ne (none' ▸ order) (Ne.symm also)
          rw [effective_zero none',effective_other also,mul_one]
          rcases lt_or_ge (factor v) 1 with small | large
          · exact .inr (upper nonneg u v none' some' small)
          · exact .inl (le_mul_of_one_le_right nonneg large)
      · left
        refine mul_le_mul_of_nonneg_left ?_ nonneg
        rw [effective_other none']
        by_cases also : factor v = 0
        · rw [effective_zero also]
          linarith
        · rwa [effective_other also]
    · rcases eq_or_lt_of_le order with equal | strict
      · left
        unfold effective
        rw [equal]
      · right
        by_cases none' : factor u = 0
        · rw [effective_zero none']
          linarith
        · rw [effective_other none']
          exact lower negative u v strict

end Tables

section Profiles
variable (limiter : AdaptiveRateLimiter) (redis : Redis) (zone : LocalTime) (now : ℤ) (request : RateLimitRequest)

theorem userFactor_effective (profile : UserProfile) :
    limiter.userFactor profile = effective (configuredFactor limiter) profile := by
  unfold AdaptiveRateLimiter.userFactor effective configuredFactor
  cases limiter.userAdjustments profile <;> simp

theorem limitApplied_capped (profile : UserRateProfile) :
    limitApplied limiter redis zone now request profile =
      capped (commonLimit limiter zone request * effective (configuredFactor limiter) profile.userProfile)
        (1 / 2 + profile.trustScore * (1 / 2)) := by
  have looked : (limiter.getUserProfile (withProfile redis request profile) request).1 = profile := by
    simp [AdaptiveRateLimiter.getUserProfile,withProfile]
  have product : limiter.config.baseLimit *
      (limiter.calculateAdjustments (withProfile redis request profile) zone request).1.final =
      commonLimit limiter zone request * effective (configuredFactor limiter) profile.userProfile *
        (1 / 2 + profile.trustScore * (1 / 2)) := by
    simp only [AdaptiveRateLimiter.calculateAdjustments,AdaptiveRateLimiter.calculateUserAdjustment,looked,commonLimit,
      userFactor_effective]
    ring
  rw [limitApplied,AdaptiveRateLimiter.checkRateLimit,checkAlgorithm_limit,AdaptiveRateLimiter.finalLimit,product,
    capped]
  push_cast
  rfl

theorem limitMonotone_ascending (scores : Set ℚ) :
    LimitMonotone limiter redis zone now request scores ↔
      Ascending (commonLimit limiter zone request) (configuredFactor limiter) {trust | 2 * trust - 1 ∈ scores} := by
  constructor
  · intro monotone u v trust stored trust' stored' order increase
    have at' (profile : UserProfile) (trust : ℚ) :
        limitApplied limiter redis zone now request ⟨profile,0,2 * trust - 1⟩ =
          capped (commonLimit limiter zone request * effective (configuredFactor limiter) profile) trust := by
      have back : 1 / 2 + (2 * trust - 1) * (1 / 2) = trust := by ring
      rw [limitApplied_capped,back]
    have raised := monotone ⟨u,0,2 * trust - 1⟩ ⟨v,0,2 * trust' - 1⟩ stored stored' order
      (show 2 * trust - 1 ≤ 2 * trust' - 1 by linarith)
    rw [at',at'] at raised
    exact_mod_cast raised
  · intro ascending first second stored stored' order increase
    have back (score : ℚ) : 2 * (1 / 2 + score * (1 / 2)) - 1 = score := by ring
    rw [limitApplied_capped,limitApplied_capped]
    refine Int.cast_le.mpr (ascending first.userProfile second.userProfile _ ?_ _ ?_ order (by linarith))
    · change 2 * (1 / 2 + first.trustScore * (1 / 2)) - 1 ∈ scores
      rwa [back]
    · change 2 * (1 / 2 + second.trustScore * (1 / 2)) - 1 ∈ scores
      rwa [back]

theorem limit_monotone_iff :
    (LimitMonotone limiter redis zone now request Set.univ ↔
      commonLimit limiter zone request = 0 ∨
        0 < commonLimit limiter zone request ∧ (∀ u, 0 ≤ configuredFactor limiter u) ∧
          (∀ zero other, configuredFactor limiter zero = 0 → 0 < configuredFactor limiter other →
            1 ≤ configuredFactor limiter other) ∨
        commonLimit limiter zone request < 0 ∧ (∃ same < 0, ∀ u, configuredFactor limiter u = same)) ∧
    (LimitMonotone limiter redis zone now request (Set.Icc 0 1) ↔
      (0 ≤ commonLimit limiter zone request → ∀ zero other, configuredFactor limiter zero = 0 →
        0 < configuredFactor limiter other → configuredFactor limiter other < 1 →
          commonLimit limiter zone request < 2) ∧
      (commonLimit limiter zone request < 0 → ∀ u v, configuredFactor limiter u < configuredFactor limiter v →
        commonLimit limiter zone request * configuredFactor limiter u < 2)) := by
  have all : {trust : ℚ | 2 * trust - 1 ∈ Set.univ} = Set.univ := rfl
  have range : {trust : ℚ | 2 * trust - 1 ∈ Set.Icc (0 : ℚ) 1} = Set.Icc (1 / 2) 1 := by
    ext trust
    constructor
    · rintro ⟨low,top⟩
      exact ⟨by linarith,by linarith⟩
    · rintro ⟨low,top⟩
      exact ⟨by linarith,by linarith⟩
  have : Nonempty UserProfile := ⟨.new⟩
  constructor
  · rw [limitMonotone_ascending,all]
    exact ascending_all_exact
  · rw [limitMonotone_ascending,range]
    exact ascending_range_exact

end Profiles

def authenticationFactors : UserProfile → Option ℚ
  | .new => some (8 / 10)
  | .trusted => some (12 / 10)
  | .suspicious => some (2 / 10)
  | .vip => some (15 / 10)
  | .blocked => some 0

def authentication : AdaptiveRateLimiter :=
  .create ⟨.sliding_window,5,300000,167 / 10000⟩ [⟨.low,1⟩] authenticationFactors [] []

theorem blocked_profile_preferred :
    configuredFactor authentication .blocked = 0 ∧ configuredFactor authentication .new = 8 / 10 ∧
      limitApplied authentication .empty noon 0 sameClient ⟨.blocked,0,1⟩ = 5 ∧
      limitApplied authentication .empty noon 0 sameClient ⟨.new,0,1⟩ = 4 := by
  decide +kernel

end PhantomFlow.RateLimit.UserAdjustment
