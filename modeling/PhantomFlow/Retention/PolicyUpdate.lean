import Mathlib.Data.Finset.Basic
import PhantomFlow.Retention.DataRetentionService

namespace PhantomFlow.Retention

deriving instance DecidableEq for RetentionPolicy

structure StoredPolicy extends RetentionPolicy where
  replication : ℕ
  shardDuration : Option String
  isDefault : Bool
deriving DecidableEq

abbrev PolicySet := Finset StoredPolicy

-- How a call of the database client ends. It has an effect only where it succeeds.
inductive CallOutcome where
  | succeeds | reportsFailure | throws
deriving DecidableEq

-- `query` with its `success`, and `createRetentionPolicy` with the flag it returns.
def callServer (policies : PolicySet) (effect : PolicySet → PolicySet) :
    CallOutcome → PolicySet × Except String Bool
  | .succeeds => (effect policies,.ok true)
  | .reportsFailure => (policies,.ok false)
  | .throws => (policies,.error "InfluxDB error")

def withoutName (policyName : String) (policies : PolicySet) : PolicySet :=
  policies.filter (fun policy => policy.name ≠ policyName)

def dropRetentionPolicy (policies : PolicySet) (policyName : String) (outcome : CallOutcome) : PolicySet × Bool :=
  let called := callServer policies (withoutName policyName) outcome
  match called.2 with
  | .ok success => (called.1,success)
  | .error _ => (called.1,false)

def createRetentionPolicy (policies : PolicySet) (policy : StoredPolicy) (outcome : CallOutcome) : PolicySet × Bool :=
  let called := callServer policies (insert policy) outcome
  match called.2 with
  | .ok result => (called.1,result)
  | .error _ => (called.1,false)

-- The flag of the first call is not looked at.
def updateRetentionPolicy (policies : PolicySet) (policyName : String) (newPolicy : StoredPolicy)
    (dropped created : CallOutcome) : PolicySet × Bool :=
  createRetentionPolicy (dropRetentionPolicy policies policyName dropped).1 newPolicy created

def Replaced (policyName : String) (newPolicy : StoredPolicy) (before after : PolicySet) : Prop :=
  newPolicy ∈ after ∧ ∀ policy ∈ before, policy.name = policyName → policy ≠ newPolicy → policy ∉ after

structure AtomicUpdate (policyName : String) (newPolicy : StoredPolicy) (before : PolicySet)
    (result : PolicySet × Bool) : Prop where
  replaced : result.2 = true ↔ Replaced policyName newPolicy before result.1
  unchanged : result.2 = false → result.1 = before

def UpToDate (policyName : String) (newPolicy : StoredPolicy) (policies : PolicySet) : Prop :=
  ∀ policy ∈ policies, policy.name = policyName → policy = newPolicy

section Update
variable {policies : PolicySet} {policyName : String} {newPolicy : StoredPolicy}

theorem dropRetentionPolicy_policies (policies : PolicySet) (policyName : String) (outcome : CallOutcome) :
    (dropRetentionPolicy policies policyName outcome).1 =
      if outcome = .succeeds then withoutName policyName policies else policies := by
  cases outcome <;> rfl

theorem createRetentionPolicy_exact (policies : PolicySet) (policy : StoredPolicy) (outcome : CallOutcome) :
    createRetentionPolicy policies policy outcome =
      if outcome = .succeeds then (insert policy policies,true) else (policies,false) := by
  cases outcome <;> rfl

theorem updateRetentionPolicy_exact (policies : PolicySet) (policyName : String) (newPolicy : StoredPolicy)
    (dropped created : CallOutcome) :
    updateRetentionPolicy policies policyName newPolicy dropped created =
      let kept := if dropped = .succeeds then withoutName policyName policies else policies
      if created = .succeeds then (insert newPolicy kept,true) else (kept,false) := by
  rw [updateRetentionPolicy,createRetentionPolicy_exact,dropRetentionPolicy_policies]

theorem not_mem_withoutName (named : policy.name = policyName) : policy ∉ withoutName policyName policies := by
  intro kept
  exact (Finset.mem_filter.mp kept).2 named

theorem replaced_both : Replaced policyName newPolicy policies (insert newPolicy (withoutName policyName policies)) := by
  refine ⟨Finset.mem_insert_self _ _,?_⟩
  intro policy _ named other present
  rcases Finset.mem_insert.mp present with same | kept
  · exact other same
  · exact not_mem_withoutName named kept

theorem replaced_added_iff :
    Replaced policyName newPolicy policies (insert newPolicy policies) ↔ UpToDate policyName newPolicy policies := by
  constructor
  · intro replaced policy present named
    by_contra other
    exact replaced.2 policy present named other (Finset.mem_insert_of_mem present)
  · intro current
    refine ⟨Finset.mem_insert_self _ _,?_⟩
    intro policy present named other
    exact absurd (current policy present named) other

theorem replaced_untouched_iff (known : ∃ policy ∈ policies, policy.name = policyName) :
    Replaced policyName newPolicy policies policies ↔ UpToDate policyName newPolicy policies := by
  constructor
  · intro replaced policy present named
    by_contra other
    exact replaced.2 policy present named other present
  · intro current
    obtain ⟨policy,present,named⟩ := known
    refine ⟨?_,fun other here called differs => absurd (current other here called) differs⟩
    rw [← current policy present named]
    exact present

theorem withoutName_ne (known : ∃ policy ∈ policies, policy.name = policyName) :
    withoutName policyName policies ≠ policies := by
  obtain ⟨policy,present,named⟩ := known
  intro same
  rw [← same] at present
  exact not_mem_withoutName named present

end Update

-- Both calls succeed; or the first one fails, and the second one succeeds exactly
-- where it changes nothing.
theorem update_atomic_iff (policies : PolicySet) (policyName : String) (newPolicy : StoredPolicy)
    (known : ∃ policy ∈ policies, policy.name = policyName) (dropped created : CallOutcome) :
    AtomicUpdate policyName newPolicy policies
        (updateRetentionPolicy policies policyName newPolicy dropped created) ↔
      (dropped = .succeeds ∧ created = .succeeds) ∨
        (dropped ≠ .succeeds ∧ (created = .succeeds ↔ UpToDate policyName newPolicy policies)) := by
  rw [updateRetentionPolicy_exact]
  dsimp only
  by_cases first : dropped = .succeeds
  · rw [if_pos first]
    by_cases second : created = .succeeds
    · rw [if_pos second]
      refine iff_of_true ⟨iff_of_true rfl replaced_both,fun refused => ?_⟩ (.inl ⟨first,second⟩)
      cases refused
    · rw [if_neg second]
      refine iff_of_false (fun atomic => withoutName_ne known (atomic.unchanged rfl)) ?_
      rintro (both | failed)
      · exact second both.2
      · exact failed.1 first
  · rw [if_neg first]
    by_cases second : created = .succeeds
    · rw [if_pos second]
      constructor
      · intro atomic
        exact .inr ⟨first,iff_of_true second (replaced_added_iff.mp (atomic.replaced.mp rfl))⟩
      · rintro (both | failed)
        · exact absurd both.1 first
        · refine ⟨iff_of_true rfl (replaced_added_iff.mpr (failed.2.mp second)),fun refused => ?_⟩
          cases refused
    · rw [if_neg second]
      constructor
      · intro atomic
        refine .inr ⟨first,iff_of_false second fun current => ?_⟩
        have claimed := atomic.replaced.mpr ((replaced_untouched_iff known).mpr current)
        cases claimed
      · rintro (both | failed)
        · exact absurd both.1 first
        · refine ⟨iff_of_false Bool.false_ne_true fun replaced => ?_,fun _ => rfl⟩
          exact second (failed.2.mpr ((replaced_untouched_iff known).mp replaced))

def week : StoredPolicy := ⟨⟨"raw_data","7d"⟩,1,none,true⟩

def month : StoredPolicy := ⟨⟨"raw_data","30d"⟩,1,none,true⟩

theorem update_atomic_of_success :
    AtomicUpdate "raw_data" month {week} (updateRetentionPolicy {week} "raw_data" month .succeeds .succeeds) :=
  (update_atomic_iff {week} "raw_data" month ⟨week,Finset.mem_singleton_self _,rfl⟩ .succeeds .succeeds).mpr
    (.inl ⟨rfl,rfl⟩)

-- The policy is lost where only the first call succeeds, and stays beside the new one
-- where only the second does.
theorem update_halfway :
    updateRetentionPolicy {week} "raw_data" month .succeeds .reportsFailure = (∅,false) ∧
      updateRetentionPolicy {week} "raw_data" month .throws .succeeds = ({month,week},true) ∧
      ¬ AtomicUpdate "raw_data" month {week}
        (updateRetentionPolicy {week} "raw_data" month .succeeds .reportsFailure) ∧
      ¬ AtomicUpdate "raw_data" month {week} (updateRetentionPolicy {week} "raw_data" month .throws .succeeds) := by
  have lost : updateRetentionPolicy {week} "raw_data" month .succeeds .reportsFailure = (∅,false) := by decide
  have both : updateRetentionPolicy {week} "raw_data" month .throws .succeeds = ({month,week},true) := by decide
  refine ⟨lost,both,?_,?_⟩
  · rw [lost]
    intro atomic
    exact absurd (atomic.unchanged rfl) (by decide)
  · rw [both]
    intro atomic
    have replaced := (atomic.replaced.mp rfl).2 week (Finset.mem_singleton_self _) rfl (by decide)
    exact absurd replaced (by decide)

end PhantomFlow.Retention
