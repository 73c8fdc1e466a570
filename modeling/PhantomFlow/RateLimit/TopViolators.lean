import Mathlib.Data.List.Induction
import PhantomFlow.Library.StableSort
import PhantomFlow.RateLimit.EventAnalytics

namespace PhantomFlow.RateLimit.EventAnalytics
open Library

structure Violator where
  identifier : String
  ipAddress : String
  violationCount : ℕ
  lastViolation : ℤ
  countryCode : Option String
  deriving DecidableEq

-- One turn of the loop. The entry of a new identifier starts at zero and is counted
-- like every other.
def countViolation (violatorMap : OrderedMap String Violator) (v : RateLimitViolation) : OrderedMap String Violator :=
  let violator := (violatorMap.get v.identifier).getD ⟨v.identifier,v.ipAddress,0,v.timestamp,v.countryCode⟩
  violatorMap.set v.identifier { violator with
    violationCount := violator.violationCount + 1
    lastViolation := if violator.lastViolation < v.timestamp then v.timestamp else violator.lastViolation }

def violatorMap (violations : List RateLimitViolation) : OrderedMap String Violator :=
  violations.foldl countViolation .empty

def getTopViolators (violations : List RateLimitViolation) : List Violator :=
  (sortByScore Violator.violationCount (violatorMap violations).values).take 10

def violationsOf (violations : List RateLimitViolation) (identifier : String) : ℕ :=
  violations.countP (fun v => decide (v.identifier = identifier))

def timesOf (violations : List RateLimitViolation) (identifier : String) : Set ℤ :=
  {time | ∃ v ∈ violations, v.identifier = identifier ∧ v.timestamp = time}

structure Summarises (violations : List RateLimitViolation) (identifier : String) (violator : Violator) : Prop where
  own : violator.identifier = identifier
  counted : violator.violationCount = violationsOf violations identifier
  latest : IsGreatest (timesOf violations identifier) violator.lastViolation

structure TopOf (violations : List RateLimitViolation) (top : List Violator) : Prop where
  size : top.length = min 10 (violations.map RateLimitViolation.identifier).dedup.length
  distinct : (top.map Violator.identifier).Nodup
  exactly : ∀ violator ∈ top, Summarises violations violator.identifier violator
  sorted : top.Pairwise (fun a b => b.violationCount ≤ a.violationCount)
  highest : ∀ identifier ∉ top.map Violator.identifier, ∀ violator ∈ top,
    violationsOf violations identifier ≤ violator.violationCount

section Grouping
variable {violations : List RateLimitViolation} {identifier : String}

theorem violatorMap_snoc (violations : List RateLimitViolation) (v : RateLimitViolation) :
    violatorMap (violations ++ [v]) = countViolation (violatorMap violations) v := by
  simp [violatorMap]

theorem violationsOf_snoc (violations : List RateLimitViolation) (v : RateLimitViolation) (identifier : String) :
    violationsOf (violations ++ [v]) identifier =
      violationsOf violations identifier + if v.identifier = identifier then 1 else 0 := by
  simp [violationsOf,List.countP_append,List.countP_cons]

theorem timesOf_snoc (violations : List RateLimitViolation) (v : RateLimitViolation) (identifier : String) :
    timesOf (violations ++ [v]) identifier =
      if v.identifier = identifier then insert v.timestamp (timesOf violations identifier)
      else timesOf violations identifier := by
  ext time
  by_cases same : v.identifier = identifier
  · simp [timesOf,same,or_and_right,exists_or,eq_comm,or_comm]
  · simp [timesOf,same,or_and_right,exists_or]

theorem summarises_other {v : RateLimitViolation} (summary : Summarises violations identifier violator)
    (other : v.identifier ≠ identifier) : Summarises (violations ++ [v]) identifier violator := by
  refine ⟨summary.own,?_,?_⟩
  · rw [violationsOf_snoc,if_neg other,summary.counted]
    rfl
  · rw [timesOf_snoc,if_neg other]
    exact summary.latest

def Grouped (violations : List RateLimitViolation) (groups : OrderedMap String Violator) : Prop :=
  ∀ identifier, match groups.get identifier with
    | none => violationsOf violations identifier = 0
    | some violator => Summarises violations identifier violator

theorem summarises_counted {violator : Violator} {v : RateLimitViolation}
    (summary : Summarises violations v.identifier violator) :
    Summarises (violations ++ [v]) v.identifier { violator with
      violationCount := violator.violationCount + 1
      lastViolation := if violator.lastViolation < v.timestamp then v.timestamp else violator.lastViolation } := by
  refine ⟨summary.own,?_,?_⟩
  · rw [violationsOf_snoc,if_pos rfl]
    exact congrArg Nat.succ summary.counted
  · rw [timesOf_snoc,if_pos rfl]
    have greatest : (if violator.lastViolation < v.timestamp then v.timestamp else violator.lastViolation) =
        max v.timestamp violator.lastViolation := by
      split
      · rename_i later
        exact (max_eq_left (le_of_lt later)).symm
      · rename_i earlier
        exact (max_eq_right (not_lt.mp earlier)).symm
    dsimp only
    rw [greatest]
    exact summary.latest.insert v.timestamp

theorem timesOf_none (none : violationsOf violations identifier = 0) : timesOf violations identifier = ∅ := by
  apply Set.eq_empty_of_forall_notMem
  rintro time ⟨v,present,same,_⟩
  have counted := List.countP_pos_iff (p:=fun v : RateLimitViolation => decide (v.identifier = identifier)).mpr
    ⟨v,present,decide_eq_true same⟩
  rw [violationsOf] at none
  omega

theorem summarises_first {v : RateLimitViolation} (none : violationsOf violations v.identifier = 0) :
    Summarises (violations ++ [v]) v.identifier ⟨v.identifier,v.ipAddress,1,v.timestamp,v.countryCode⟩ := by
  refine ⟨rfl,?_,?_⟩
  · rw [violationsOf_snoc,if_pos rfl,none]
  · rw [timesOf_snoc,if_pos rfl,timesOf_none none]
    simp

theorem grouped_violatorMap (violations : List RateLimitViolation) : Grouped violations (violatorMap violations) := by
  induction violations using List.reverseRecOn with
  | nil => exact fun identifier => rfl
  | append_singleton violations v ih =>
      intro identifier
      rw [violatorMap_snoc,countViolation,OrderedMap.get_set]
      by_cases same : identifier = v.identifier
      · subst identifier
        have before := ih v.identifier
        rw [if_pos rfl]
        cases found : (violatorMap violations).get v.identifier with
        | none =>
            rw [found] at before
            simpa using summarises_first before
        | some violator =>
            rw [found] at before
            exact summarises_counted before
      · have other : v.identifier ≠ identifier := fun equal => same equal.symm
        have before := ih identifier
        rw [if_neg same]
        cases found : (violatorMap violations).get identifier with
        | none =>
            rw [found] at before
            change violationsOf (violations ++ [v]) identifier = 0
            rw [violationsOf_snoc,if_neg other]
            exact before
        | some violator =>
            rw [found] at before
            exact summarises_other before other

end Grouping

section Selection
variable {violations : List RateLimitViolation}

theorem summarises_of_get (found : (violatorMap violations).get identifier = some violator) :
    Summarises violations identifier violator := by
  have grouped := grouped_violatorMap violations identifier
  rwa [found] at grouped

theorem values_identifiers (violations : List RateLimitViolation) :
    (violatorMap violations).values.map Violator.identifier = (violatorMap violations).keys := by
  rw [OrderedMap.values,OrderedMap.keys,List.map_map]
  apply List.map_congr_left
  intro entry present
  exact (summarises_of_get ((OrderedMap.get_exact _ _ _).mpr present)).own

theorem violationsOf_pos (violations : List RateLimitViolation) (identifier : String) :
    0 < violationsOf violations identifier ↔ identifier ∈ violations.map RateLimitViolation.identifier := by
  rw [violationsOf,List.countP_pos_iff,List.mem_map]
  simp

theorem keys_perm (violations : List RateLimitViolation) :
    (violatorMap violations).keys.Perm (violations.map RateLimitViolation.identifier).dedup := by
  apply (List.perm_ext_iff_of_nodup (violatorMap violations).distinct (List.nodup_dedup _)).mpr
  intro identifier
  change identifier ∈ (violatorMap violations).keys ↔ _
  rw [List.mem_dedup,← violationsOf_pos,OrderedMap.mem_keys]
  have grouped := grouped_violatorMap violations identifier
  cases found : (violatorMap violations).get identifier with
  | none =>
      rw [found] at grouped
      simp [show violationsOf violations identifier = 0 from grouped]
  | some violator =>
      rw [found] at grouped
      obtain ⟨_,counted,⟨v,present,same,_⟩,_⟩ := (grouped : Summarises violations identifier violator)
      refine iff_of_true ⟨violator,rfl⟩ ((violationsOf_pos _ _).mpr ?_)
      exact List.mem_map.mpr ⟨v,present,same⟩

end Selection

theorem top_violators (violations : List RateLimitViolation) : TopOf violations (getTopViolators violations) := by
  have sorted := sortByScore_perm Violator.violationCount (violatorMap violations).values
  have listed : ∀ violator ∈ getTopViolators violations, violator ∈ (violatorMap violations).values :=
    fun violator taken => sorted.subset (List.mem_of_mem_take taken)
  have summary : ∀ violator ∈ (violatorMap violations).values, Summarises violations violator.identifier violator := by
    intro violator present
    obtain ⟨identifier,found⟩ := (OrderedMap.mem_values _ _).mp present
    have summary := summarises_of_get found
    rwa [← summary.own] at summary
  refine ⟨?_,?_,fun violator taken => summary violator (listed violator taken),?_,?_⟩
  · rw [getTopViolators,List.length_take,sorted.length_eq,OrderedMap.size_values,← OrderedMap.size_keys,
      (keys_perm violations).length_eq]
  · have distinct : ((sortByScore Violator.violationCount (violatorMap violations).values).map
        Violator.identifier).Nodup := by
      rw [(sorted.map Violator.identifier).nodup_iff,values_identifiers]
      exact (violatorMap violations).distinct
    exact distinct.sublist ((List.take_sublist _ _).map _)
  · exact (sortByScore_sorted _ _).sublist (List.take_sublist _ _)
  · intro identifier absent violator taken
    rcases Nat.eq_zero_or_pos (violationsOf violations identifier) with none | some
    · rw [none]
      exact Nat.zero_le _
    · have key := (keys_perm violations).mem_iff.mpr (List.mem_dedup.mpr ((violationsOf_pos _ _).mp some))
      obtain ⟨other,found⟩ := (OrderedMap.mem_keys _ _).mp key
      have own := summarises_of_get found
      rw [← own.counted]
      refine sortByScore_take_highest Violator.violationCount 10 taken
        ((OrderedMap.mem_values _ _).mpr ⟨identifier,found⟩) fun returned => absent ?_
      rw [← own.own]
      exact List.mem_map_of_mem returned

end PhantomFlow.RateLimit.EventAnalytics
