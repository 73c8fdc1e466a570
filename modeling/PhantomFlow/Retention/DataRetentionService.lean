import Mathlib.Algebra.Order.Ring.Int
import Mathlib.Data.Rat.Defs
import PhantomFlow.Library.Fallible

namespace PhantomFlow.Retention
open Library

structure RetentionPolicy where
  name : String
  duration : String

inductive PolicyName where
  | rawData | hourlyAggregates | dailyAggregates | monthlyAggregates | threatData
deriving DecidableEq

structure DataRetentionConfig where
  policies : PolicyName → RetentionPolicy
  archiveBeforeDelete : Bool

inductive Query where
  | count (measurement : String) (cutoff : ℤ)
  | archive (measurement : String) (cutoff : ℤ)
  | delete (measurement : String) (cutoff : ℤ)
deriving DecidableEq

-- What a query comes back with: the `record_count` of every row, where a row has one,
-- or a throw.
inductive Outcome where
  | result (success : Bool) (data : List (Option ℚ))
  | throws
deriving DecidableEq

def Outcome.succeeded : Outcome → Bool
  | .result success _ => success
  | .throws => false

abbrev Trace := List (Query × Outcome)

def measurementPolicyMap : List (String × PolicyName) :=
  [("performance_metrics",.rawData),("user_behavior",.rawData),("system_health",.rawData),
    ("rate_limiting",.rawData),("threat_detection",.threatData)]

def getRetentionPolicyForMeasurement (config : DataRetentionConfig) (measurement : String) : Option RetentionPolicy :=
  (measurementPolicyMap.lookup measurement).map config.policies

def multiplier : Char → Option ℤ
  | 's' => some 1000
  | 'm' => some (60 * 1000)
  | 'h' => some (60 * 60 * 1000)
  | 'd' => some (24 * 60 * 60 * 1000)
  | 'w' => some (7 * 24 * 60 * 60 * 1000)
  | 'y' => some (365 * 24 * 60 * 60 * 1000)
  | _ => none

def digitsValue (digits : List Char) : ℤ := digits.foldl (fun value digit => 10 * value + (digit.toNat - '0'.toNat : ℕ)) 0

def parseDuration (duration : String) : Except String ℤ :=
  let digits := duration.toList.dropLast
  match duration.toList.getLast? >>= multiplier with
  | some milliseconds =>
    if digits ≠ [] ∧ digits.all Char.isDigit then .ok (digitsValue digits * milliseconds)
    else .error ("Invalid duration format: " ++ duration)
  | none => .error ("Invalid duration format: " ++ duration)

def calculateCutoffTime (now : ℤ) (duration : String) : Except String ℤ := do
  let milliseconds ← parseDuration duration
  return now - milliseconds

-- `toISOString` throws for a date out of range.
def toISOString (date : ℤ) : Except String ℤ :=
  if date.natAbs ≤ 8640000000000000 then .ok date else .error "Invalid time value"

def cutoffFor (config : DataRetentionConfig) (now : ℤ) (measurement : String) : Option ℤ :=
  match getRetentionPolicyForMeasurement config measurement with
  | none => none
  | some policy =>
    match calculateCutoffTime now policy.duration >>= toISOString with
    | .ok cutoff => some cutoff
    | .error _ => none

def recordCount : Outcome → Option ℚ
  | .result true (count :: _) => count
  | _ => some 0

section Cleanup
variable (config : DataRetentionConfig) (answer : Query → Outcome)

-- Nothing that goes wrong here reaches the caller.
def archiveData (measurement : String) (cutoff : ℤ) : Trace :=
  [(.archive measurement cutoff,answer (.archive measurement cutoff))]

def cleanupMeasurement (now : ℤ) (measurement : String) : Trace × Option ℚ :=
  match cutoffFor config now measurement with
  | none => ([],some 0)
  | some cutoff =>
    let counted := (Query.count measurement cutoff,answer (.count measurement cutoff))
    match counted.2 with
    | .throws => ([counted],some 0)
    | .result _ _ =>
      let count := recordCount counted.2
      if count = some 0 then ([counted],some 0)
      else
        let archived := if config.archiveBeforeDelete then archiveData answer measurement cutoff else []
        let deleted := (Query.delete measurement cutoff,answer (.delete measurement cutoff))
        (counted :: archived ++ [deleted],if deleted.2.succeeded then count else some 0)

def measurements : List String :=
  ["performance_metrics","threat_detection","user_behavior","system_health","rate_limiting"]

-- The clock is read once for each measurement.
def performCleanup (clock : String → ℤ) : Trace :=
  measurements.flatMap (fun measurement => (cleanupMeasurement config answer (clock measurement) measurement).1)

end Cleanup

def ArchivedBefore (trace : Trace) : Prop :=
  ∀ before after measurement cutoff outcome, trace = before ++ (.delete measurement cutoff,outcome) :: after →
    ∃ archived, (Query.archive measurement cutoff,archived) ∈ before ∧ archived.succeeded = true

def Due (config : DataRetentionConfig) (answer : Query → Outcome) (clock : String → ℤ) (measurement : String)
    (cutoff : ℤ) : Prop :=
  measurement ∈ measurements ∧ cutoffFor config (clock measurement) measurement = some cutoff ∧
    recordCount (answer (.count measurement cutoff)) ≠ some 0

section Traces
variable {config : DataRetentionConfig} {answer : Query → Outcome}

theorem flatMap_split {f : α → List β} {items : List α} (split : items.flatMap f = before ++ x :: after) :
    ∃ first item rest inner tail, items = first ++ item :: rest ∧ f item = inner ++ x :: tail ∧
      before = first.flatMap f ++ inner := by
  induction items generalizing before with
  | nil => simp at split
  | cons item rest ih =>
      rw [List.flatMap_cons,List.append_eq_append_iff] at split
      rcases split with ⟨middle,front,back⟩ | ⟨middle,front,back⟩
      · obtain ⟨first,found,later,inner,tail,whole,inside,front'⟩ := ih back
        refine ⟨item :: first,found,later,inner,tail,by rw [whole]; rfl,inside,?_⟩
        rw [front,front',List.flatMap_cons,List.append_assoc]
      · cases middle with
        | nil =>
            obtain ⟨first,found,later,inner,tail,whole,inside,front'⟩ :=
              ih (show rest.flatMap f = [] ++ x :: after from back.symm)
            refine ⟨item :: first,found,later,inner,tail,by rw [whole]; rfl,inside,?_⟩
            rw [List.append_nil] at front
            rw [List.flatMap_cons,List.append_assoc,← front',front,List.append_nil]
        | cons head middle =>
            cases back
            exact ⟨[],item,rest,before,middle,rfl,front,rfl⟩

theorem cleanupMeasurement_due (archives : config.archiveBeforeDelete = true)
    (cutoff : cutoffFor config now measurement = some c)
    (due : recordCount (answer (.count measurement c)) ≠ some 0) :
    (cleanupMeasurement config answer now measurement).1 =
      [(.count measurement c,answer (.count measurement c)),(.archive measurement c,answer (.archive measurement c)),
        (.delete measurement c,answer (.delete measurement c))] := by
  unfold cleanupMeasurement
  rw [cutoff]
  cases counted : answer (.count measurement c) with
  | throws => rw [counted] at due; exact absurd rfl due
  | result success data =>
      rw [counted] at due
      simp [due,archives,archiveData,counted]

theorem cleanupMeasurement_idle
    (idle : ∀ c, cutoffFor config now measurement = some c → recordCount (answer (.count measurement c)) = some 0)
    (member : event ∈ (cleanupMeasurement config answer now measurement).1) :
    ∃ c, event.1 = .count measurement c := by
  unfold cleanupMeasurement at member
  cases cutoff : cutoffFor config now measurement with
  | none => simp [cutoff] at member
  | some c =>
      rw [cutoff] at member
      have none := idle c cutoff
      cases counted : answer (.count measurement c) with
      | throws =>
          simp only [counted,List.mem_singleton] at member
          exact ⟨c,by rw [member]⟩
      | result success data =>
          rw [counted] at none
          simp only [counted,none,if_true,List.mem_singleton] at member
          exact ⟨c,by rw [member]⟩

theorem cleanupMeasurement_cases (archives : config.archiveBeforeDelete = true) (answer : Query → Outcome) (now : ℤ)
    (measurement : String) :
    (∃ c, cutoffFor config now measurement = some c ∧ recordCount (answer (.count measurement c)) ≠ some 0 ∧
        (cleanupMeasurement config answer now measurement).1 =
          [(.count measurement c,answer (.count measurement c)),(.archive measurement c,answer (.archive measurement c)),
            (.delete measurement c,answer (.delete measurement c))]) ∨
      ∀ event ∈ (cleanupMeasurement config answer now measurement).1, ∃ c, event.1 = .count measurement c := by
  by_cases due : ∃ c, cutoffFor config now measurement = some c ∧ recordCount (answer (.count measurement c)) ≠ some 0
  · obtain ⟨c,cutoff,nonzero⟩ := due
    exact .inl ⟨c,cutoff,nonzero,cleanupMeasurement_due archives cutoff nonzero⟩
  · refine .inr (fun event member => cleanupMeasurement_idle ?_ member)
    intro c cutoff
    by_contra nonzero
    exact due ⟨c,cutoff,nonzero⟩

theorem archived_answer (archives : config.archiveBeforeDelete = true)
    (member : (.archive measurement c,outcome) ∈ (cleanupMeasurement config answer now other).1) :
    outcome = answer (.archive measurement c) := by
  rcases cleanupMeasurement_cases archives answer now other with ⟨c',_,_,trace⟩ | counts
  · rw [trace] at member
    simp only [List.mem_cons,Prod.mk.injEq,Query.archive.injEq,reduceCtorEq,false_and,false_or,List.not_mem_nil,
      or_false] at member
    rw [member.2,member.1.1,member.1.2]
  · obtain ⟨c',impossible⟩ := counts _ member
    cases impossible

theorem delete_after_archive {earlier tail : List (Query × Outcome)} (archives : config.archiveBeforeDelete = true)
    (inside : (cleanupMeasurement config answer now item).1 = earlier ++ (.delete measurement cutoff,outcome) :: tail) :
    item = measurement ∧ cutoffFor config now item = some cutoff ∧ recordCount (answer (.count item cutoff)) ≠ some 0 ∧
      (.archive measurement cutoff,answer (.archive measurement cutoff)) ∈ earlier := by
  rcases cleanupMeasurement_cases archives answer now item with ⟨c,found,nonzero,trace⟩ | counts
  · rw [trace] at inside
    match earlier with
    | [] => simp at inside
    | [_] => simp at inside
    | [counted,archived] =>
        simp only [List.cons_append,List.nil_append,List.cons.injEq,Prod.mk.injEq,Query.delete.injEq] at inside
        obtain ⟨_,second,⟨⟨rfl,rfl⟩,_⟩,_⟩ := inside
        refine ⟨rfl,found,nonzero,?_⟩
        rw [← second]
        simp
    | _ :: _ :: _ :: _ => simp at inside
  · obtain ⟨c,impossible⟩ := counts (.delete measurement cutoff,outcome) (by rw [inside]; simp)
    cases impossible

end Traces

theorem archived_before_iff (config : DataRetentionConfig) (archives : config.archiveBeforeDelete = true)
    (answer : Query → Outcome) (clock : String → ℤ) :
    ArchivedBefore (performCleanup config answer clock) ↔
      ∀ measurement cutoff, Due config answer clock measurement cutoff →
        (answer (.archive measurement cutoff)).succeeded = true := by
  constructor
  · intro archived measurement cutoff due
    obtain ⟨member,found,nonzero⟩ := due
    obtain ⟨first,rest,split⟩ := List.append_of_mem member
    have trace : performCleanup config answer clock =
        (first.flatMap (fun m => (cleanupMeasurement config answer (clock m) m).1) ++
          [(.count measurement cutoff,answer (.count measurement cutoff)),
            (.archive measurement cutoff,answer (.archive measurement cutoff))]) ++
        (.delete measurement cutoff,answer (.delete measurement cutoff)) ::
          rest.flatMap (fun m => (cleanupMeasurement config answer (clock m) m).1) := by
      rw [performCleanup,split,List.flatMap_append,List.flatMap_cons,cleanupMeasurement_due archives found nonzero]
      simp
    obtain ⟨outcome,member,succeeded⟩ := archived _ _ measurement cutoff _ trace
    rw [List.mem_append] at member
    have same : outcome = answer (.archive measurement cutoff) := by
      rcases member with earlier | here
      · obtain ⟨other,_,inside⟩ := List.mem_flatMap.mp earlier
        exact archived_answer archives inside
      · simpa using here
    rw [← same]
    exact succeeded
  · intro all before after measurement cutoff outcome split
    obtain ⟨first,item,rest,inner,tail,whole,inside,front⟩ := flatMap_split split
    obtain ⟨rfl,found,nonzero,earlier⟩ := delete_after_archive archives inside
    refine ⟨_,?_,all item cutoff ⟨by rw [whole]; simp,found,nonzero⟩⟩
    rw [front]
    exact List.mem_append_right _ earlier

def retentionPolicies : DataRetentionConfig where
  policies
    | .rawData => ⟨"raw_data","7d"⟩
    | .hourlyAggregates => ⟨"hourly_aggregates","30d"⟩
    | .dailyAggregates => ⟨"daily_aggregates","1y"⟩
    | .monthlyAggregates => ⟨"monthly_aggregates","5y"⟩
    | .threatData => ⟨"threat_data","2y"⟩
  archiveBeforeDelete := true

theorem archived_before_when_reachable :
    ArchivedBefore (performCleanup retentionPolicies (fun _ => .result true [some 3]) (fun _ => 1700000000000)) :=
  (archived_before_iff retentionPolicies rfl _ _).mpr (fun _ _ _ => rfl)

-- The archive query throws, the data is deleted all the same.
theorem deleted_without_archive :
    ¬ ∀ (answer : Query → Outcome) (clock : String → ℤ), ArchivedBefore (performCleanup retentionPolicies answer clock) := by
  intro all
  let answer : Query → Outcome
    | .archive _ _ => .throws
    | _ => .result true [some 3]
  have cutoff : cutoffFor retentionPolicies 1700000000000 "performance_metrics" = some 1699395200000 := by decide
  have run : (cleanupMeasurement retentionPolicies answer 1700000000000 "performance_metrics").1 = _ :=
    cleanupMeasurement_due rfl cutoff (by decide)
  obtain ⟨outcome,member,succeeded⟩ := all answer (fun _ => 1700000000000)
    [(.count "performance_metrics" 1699395200000,.result true [some 3]),
      (.archive "performance_metrics" 1699395200000,.throws)] _ "performance_metrics" 1699395200000
    (.result true [some 3]) (by rw [performCleanup,measurements,List.flatMap_cons,run]; rfl)
  simp only [List.mem_cons,Prod.mk.injEq,reduceCtorEq,false_and,true_and,false_or,List.not_mem_nil,or_false] at member
  rw [member] at succeeded
  cases succeeded

end PhantomFlow.Retention
