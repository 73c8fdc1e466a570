import Mathlib.Data.List.Range
import PhantomFlow.Soar.PlaybookExecutor

namespace PhantomFlow.Soar

def Event.succeeds (index : ℕ) : Event → Bool
  | .acted step _ succeeded => step == index && succeeded
  | _ => false

def successes (index : ℕ) (events : List Event) : ℕ := events.countP (Event.succeeds index)

structure ExactlyOnce (playbook : PlaybookSchema) (events : List Event) (result : PlaybookExecutionResult) : Prop where
  once : ∀ i, successes i events ≤ 1
  reported : result.stepsExecuted =
    ((List.range playbook.steps.length).filter (fun i => decide (0 < successes i events))).filterMap
      (fun i => (playbook.steps[i]?).map PlaybookActionStep.id)
  failed : result.failedStep =
    ((List.range playbook.steps.length).find? (fun i => decide (successes i events = 0))).bind
      (fun i => (playbook.steps[i]?).map PlaybookActionStep.id)

def firstFrom (outcomes : Outcomes) (index : ℕ) (step : PlaybookActionStep) : ℕ → ℕ → Option ℕ
  | _,0 => none
  | attempt,remaining + 1 =>
    match executeAction step (outcomes.action index attempt) with
    | .ok _ => some attempt
    | .error _ => firstFrom outcomes index step (attempt + 1) remaining

def firstSuccess (outcomes : Outcomes) (index : ℕ) (step : PlaybookActionStep) : Option ℕ :=
  firstFrom outcomes index step 1 (attempts step)

-- For every step that is reached because the actions before it succeed, the audit
-- write after the first success succeeds too.
def Recorded (outcomes : Outcomes) (start : ℕ) (steps : List PlaybookActionStep) : Prop :=
  ∀ i step, steps[i]? = some step →
    (∀ j < i, ∀ earlier, steps[j]? = some earlier → (firstSuccess outcomes (start + j) earlier).isSome = true) →
    ∀ attempt, firstSuccess outcomes (start + i) step = some attempt →
      (outcomes.audit (start + i) attempt).isOk = true

@[simp] theorem successes_nil (i : ℕ) : successes i [] = 0 := rfl

@[simp] theorem successes_append (i : ℕ) (first second : List Event) :
    successes i (first ++ second) = successes i first + successes i second := List.countP_append

@[simp] theorem successes_acted (i step attempt : ℕ) (succeeded : Bool) (rest : List Event) :
    successes i (.acted step attempt succeeded :: rest) =
      successes i rest + if step = i ∧ succeeded = true then 1 else 0 := by
  simp [successes,List.countP_cons,Event.succeeds]

@[simp] theorem successes_audited (i step : ℕ) (entry : AuditEntry) (succeeded : Bool) (rest : List Event) :
    successes i (.audited step entry succeeded :: rest) = successes i rest := by
  simp [successes,Event.succeeds]

theorem successes_runRollback (i : ℕ) (outcomes : Outcomes) (steps : List PlaybookActionStep) :
    successes i (runRollback outcomes steps) = 0 := by
  rw [successes,List.countP_eq_zero]
  intro event member
  obtain ⟨index,bound,rfl⟩ := List.mem_mapIdx.mp member
  simp [Event.succeeds]

section Retry
variable {outcomes : Outcomes} {playbookId : String} {operator : Operator} {index : ℕ} {step : PlaybookActionStep}

theorem retryLoop_other (other : i ≠ index) (attempt remaining : ℕ) (lastError : Option Thrown) :
    successes i (retryLoop outcomes playbookId operator index step attempt remaining lastError).1 = 0 := by
  have apart : index ≠ i := fun same => other same.symm
  induction remaining generalizing attempt lastError with
  | zero => rfl
  | succ remaining ih =>
      rw [retryLoop]
      split
      · simp [ih]
      · split
        · simp [apart]
        · simp [apart,ih]

theorem retryLoop_none (none : firstFrom outcomes index step attempt remaining = none) (lastError : Option Thrown) :
    successes index (retryLoop outcomes playbookId operator index step attempt remaining lastError).1 = 0 ∧
      (retryLoop outcomes playbookId operator index step attempt remaining lastError).2.isOk = false := by
  induction remaining generalizing attempt lastError with
  | zero => exact ⟨rfl,rfl⟩
  | succ remaining ih =>
      rw [firstFrom] at none
      rw [retryLoop]
      split at none
      · cases none
      · rename_i thrown failed
        simp only [failed,successes_acted,Bool.false_eq_true,and_false,if_false,Nat.add_zero]
        exact ih none (some thrown)

theorem retryLoop_some (first : firstFrom outcomes index step attempt remaining = some a) (lastError : Option Thrown) :
    1 ≤ successes index (retryLoop outcomes playbookId operator index step attempt remaining lastError).1 := by
  induction remaining generalizing attempt lastError with
  | zero => cases first
  | succ remaining ih =>
      rw [firstFrom] at first
      rw [retryLoop]
      split at first
      · rename_i detail succeeded
        rw [succeeded]
        cases outcomes.audit index attempt <;> simp
      · rename_i thrown failed
        rw [failed]
        simp only [successes_acted,Bool.false_eq_true,and_false,if_false,Nat.add_zero]
        exact ih first (some thrown)

theorem retryLoop_audited (first : firstFrom outcomes index step attempt remaining = some a)
    (audited : (outcomes.audit index a).isOk = true) (lastError : Option Thrown) :
    successes index (retryLoop outcomes playbookId operator index step attempt remaining lastError).1 = 1 ∧
      (retryLoop outcomes playbookId operator index step attempt remaining lastError).2.isOk = true := by
  induction remaining generalizing attempt lastError with
  | zero => cases first
  | succ remaining ih =>
      rw [firstFrom] at first
      rw [retryLoop]
      split at first
      · rename_i detail succeeded
        cases first
        cases write : outcomes.audit index a with
        | error thrown => rw [write] at audited; cases audited
        | ok done =>
            rw [succeeded]
            exact ⟨by simp,rfl⟩
      · rename_i thrown failed
        rw [failed]
        simp only [successes_acted,Bool.false_eq_true,and_false,if_false,Nat.add_zero]
        exact ih first (some thrown)

-- The attempts after a lost audit write act again, or end without a report.
theorem retryLoop_unaudited (first : firstFrom outcomes index step attempt remaining = some a)
    (lost : (outcomes.audit index a).isOk = false) (lastError : Option Thrown) :
    2 ≤ successes index (retryLoop outcomes playbookId operator index step attempt remaining lastError).1 ∨
      1 ≤ successes index (retryLoop outcomes playbookId operator index step attempt remaining lastError).1 ∧
        (retryLoop outcomes playbookId operator index step attempt remaining lastError).2.isOk = false := by
  induction remaining generalizing attempt lastError with
  | zero => cases first
  | succ remaining ih =>
      rw [firstFrom] at first
      rw [retryLoop]
      split at first
      · rename_i detail succeeded
        cases first
        cases write : outcomes.audit index a with
        | ok done => rw [write] at lost; cases lost
        | error thrown =>
            rw [succeeded]
            simp only [successes_acted,successes_audited,and_self,if_true]
            cases again : firstFrom outcomes index step (a + 1) remaining with
            | none => exact .inr ⟨Nat.le_add_left _ _,(retryLoop_none again (some thrown)).2⟩
            | some b => exact .inl (Nat.succ_le_succ (retryLoop_some again (some thrown)))
      · rename_i thrown failed
        rw [failed]
        simp only [successes_acted,Bool.false_eq_true,and_false,if_false,Nat.add_zero]
        exact ih first (some thrown)

end Retry

theorem recorded_cons (outcomes : Outcomes) (start : ℕ) (step : PlaybookActionStep) (rest : List PlaybookActionStep) :
    Recorded outcomes start (step :: rest) ↔
      (∀ attempt, firstSuccess outcomes start step = some attempt → (outcomes.audit start attempt).isOk = true) ∧
        ((firstSuccess outcomes start step).isSome = true → Recorded outcomes (start + 1) rest) := by
  have shift : ∀ i, start + (i + 1) = start + 1 + i := by omega
  constructor
  · intro recorded
    refine ⟨recorded 0 step rfl (by omega),?_⟩
    intro succeeded i later found before attempt first
    rw [← shift] at first ⊢
    apply recorded (i + 1) later found ?_ attempt first
    intro j earlier step' found'
    cases j with
    | zero => cases found'; exact succeeded
    | succ j =>
        rw [shift]
        exact before j (by omega) step' found'
  · intro both i later found before attempt first
    cases i with
    | zero => cases found; exact both.1 attempt first
    | succ i =>
        rw [shift] at first ⊢
        apply both.2 (before 0 (by omega) step rfl) i later found ?_ attempt first
        intro j earlier step' found'
        rw [← shift]
        exact before (j + 1) (by omega) step' found'

structure Reached (start : ℕ) (steps : List PlaybookActionStep) (done : List String) (progress : Progress) (m : ℕ) :
    Prop where
  within : m ≤ steps.length
  executed : progress.stepsExecuted = done ++ (steps.take m).map PlaybookActionStep.id
  finished : progress.thrown = none ↔ m = steps.length
  acted : ∀ j < m, 1 ≤ successes (start + j) progress.events
  untouched : ∀ i, i < start ∨ start + m < i → successes i progress.events = 0
  stopped : m = steps.length → successes (start + m) progress.events = 0

section Steps
variable {outcomes : Outcomes} {playbookId : String} {operator : Operator} {step : PlaybookActionStep}

theorem executeWithRetry_cases (outcomes : Outcomes) (playbookId : String) (operator : Operator) (start : ℕ)
    (step : PlaybookActionStep) (tried : executeWithRetry outcomes playbookId operator start step = (events,outcome)) :
    (firstSuccess outcomes start step = none ∧ successes start events = 0 ∧ outcome.isOk = false) ∨
      ∃ a, firstSuccess outcomes start step = some a ∧ 1 ≤ successes start events ∧
        ((outcomes.audit start a).isOk = true ∧ successes start events = 1 ∧ outcome.isOk = true ∨
          (outcomes.audit start a).isOk = false ∧ (2 ≤ successes start events ∨ outcome.isOk = false)) := by
  have made : events = (executeWithRetry outcomes playbookId operator start step).1 := by rw [tried]
  have ended : outcome = (executeWithRetry outcomes playbookId operator start step).2 := by rw [tried]
  subst made ended
  cases first : firstSuccess outcomes start step with
  | none => exact .inl ⟨rfl,retryLoop_none first none⟩
  | some a =>
      refine .inr ⟨a,rfl,retryLoop_some first none,?_⟩
      cases audited : (outcomes.audit start a).isOk with
      | true => exact .inl ⟨rfl,retryLoop_audited first audited none⟩
      | false =>
          rcases retryLoop_unaudited first audited none with twice | ⟨_,failed⟩
          · exact .inr ⟨rfl,.inl twice⟩
          · exact .inr ⟨rfl,.inr failed⟩

theorem executeWithRetry_other (tried : executeWithRetry outcomes playbookId operator start step = (events,outcome))
    (other : i ≠ start) : successes i events = 0 := by
  have made : events = (executeWithRetry outcomes playbookId operator start step).1 := by rw [tried]
  rw [made]
  exact retryLoop_other other _ _ _

theorem reached_failed (rest : List PlaybookActionStep) (done : List String)
    (tried : executeWithRetry outcomes playbookId operator start step = (events,.error thrown)) :
    (runSteps outcomes playbookId operator start done (step :: rest)).events = events ∧
      Reached start (step :: rest) done (runSteps outcomes playbookId operator start done (step :: rest)) 0 := by
  rw [runSteps,tried]
  exact ⟨rfl,Nat.zero_le _,by simp,by simp,by omega,fun i outside => executeWithRetry_other tried (by omega),by simp⟩

theorem reached_passed {rest : List PlaybookActionStep} (done : List String)
    (tried : executeWithRetry outcomes playbookId operator start step = (events,.ok ()))
    (acted : 1 ≤ successes start events)
    (later : Reached (start + 1) rest (done ++ [step.id])
      (runSteps outcomes playbookId operator (start + 1) (done ++ [step.id]) rest) m) :
    (runSteps outcomes playbookId operator start done (step :: rest)).events =
        events ++ (runSteps outcomes playbookId operator (start + 1) (done ++ [step.id]) rest).events ∧
      Reached start (step :: rest) done (runSteps outcomes playbookId operator start done (step :: rest)) (m + 1) := by
  rw [runSteps,tried]
  refine ⟨rfl,Nat.succ_le_succ later.within,?_,?_,?_,?_,?_⟩
  · simp only [later.executed,List.take_succ_cons,List.map_cons,List.append_assoc,List.singleton_append]
  · simp only [later.finished,List.length_cons,Nat.add_right_cancel_iff]
  · intro j below
    rw [successes_append]
    cases j with
    | zero => exact Nat.le_trans acted (Nat.le_add_right _ _)
    | succ j =>
        have inside := later.acted j (by omega)
        rw [Nat.add_assoc,Nat.add_comm 1 j] at inside
        omega
  · intro i outside
    rw [successes_append,executeWithRetry_other tried (by omega),later.untouched i (by omega)]
  · intro last
    have ended := later.stopped (by simpa using last)
    rw [Nat.add_assoc,Nat.add_comm 1 m] at ended
    rw [successes_append,executeWithRetry_other tried (by omega),ended]

def CountedOnce (start m : ℕ) (events : List Event) : Prop :=
  (∀ j < m, successes (start + j) events = 1) ∧ successes (start + m) events = 0

theorem countedOnce_append {events later : List Event} (others : ∀ i, i ≠ start → successes i events = 0)
    (before : successes start later = 0) :
    CountedOnce start (m + 1) (events ++ later) ↔ successes start events = 1 ∧ CountedOnce (start + 1) m later := by
  have shifted : ∀ j, successes (start + (j + 1)) (events ++ later) = successes (start + 1 + j) later := by
    intro j
    rw [successes_append,others _ (by omega),Nat.zero_add]
    congr 1
    omega
  have here : successes start (events ++ later) = successes start events := by
    rw [successes_append,before,Nat.add_zero]
  unfold CountedOnce
  rw [shifted]
  constructor
  · intro all
    refine ⟨?_,?_,all.2⟩
    · have single := all.1 0 (by omega)
      rwa [Nat.add_zero,here] at single
    · intro j below
      rw [← shifted]
      exact all.1 (j + 1) (by omega)
  · intro all
    refine ⟨?_,all.2.2⟩
    intro j below
    cases j with
    | zero => rw [Nat.add_zero,here,all.1]
    | succ j => rw [shifted]; exact all.2.1 j (by omega)

theorem audited_exact (first : firstSuccess outcomes start step = some a) :
    (∀ attempt, firstSuccess outcomes start step = some attempt → (outcomes.audit start attempt).isOk = true) ↔
      (outcomes.audit start a).isOk = true := by
  rw [first]
  constructor
  · intro all
    exact all a rfl
  · intro kept attempt same
    cases same
    exact kept

theorem runSteps_reached (steps : List PlaybookActionStep) (start : ℕ) (done : List String) :
    ∃ m, Reached start steps done (runSteps outcomes playbookId operator start done steps) m ∧
      (Recorded outcomes start steps ↔
        CountedOnce start m (runSteps outcomes playbookId operator start done steps).events) := by
  induction steps generalizing start done with
  | nil =>
      refine ⟨0,⟨Nat.le_refl _,by simp [runSteps],by simp [runSteps],by omega,fun _ _ => rfl,fun _ => rfl⟩,?_⟩
      refine iff_of_true ?_ ⟨by omega,rfl⟩
      intro i step found
      simp at found
  | cons step rest ih =>
      obtain ⟨m,later,exactly⟩ := ih (start + 1) (done ++ [step.id])
      rw [recorded_cons]
      cases tried : executeWithRetry outcomes playbookId operator start step with
      | mk events outcome =>
      have possible := executeWithRetry_cases outcomes playbookId operator start step tried
      cases outcome with
      | error thrown =>
          obtain ⟨made,reached⟩ := reached_failed rest done tried
          refine ⟨0,reached,?_⟩
          rw [made]
          rcases possible with ⟨none,silent,_⟩ | ⟨a,first,acted,⟨_,_,impossible⟩ | ⟨lost,_⟩⟩
          · rw [none]
            exact iff_of_true ⟨by simp,by simp⟩ ⟨by omega,silent⟩
          · cases impossible
          · rw [audited_exact first,lost]
            refine iff_of_false (by intro both; cases both.1) ?_
            intro both
            have nothing := both.2
            rw [Nat.add_zero] at nothing
            omega
      | ok finished =>
          rcases possible with ⟨_,_,impossible⟩ | ⟨a,first,acted,audited⟩
          · cases impossible
          · obtain ⟨made,reached⟩ := reached_passed done tried acted later
            refine ⟨m + 1,reached,?_⟩
            have before := later.untouched start (.inl (Nat.lt_succ_self start))
            rw [made,countedOnce_append (fun i other => executeWithRetry_other tried other) before,audited_exact first,
              ← exactly]
            rcases audited with ⟨kept,once,_⟩ | ⟨lost,twice | impossible⟩
            · rw [first,kept,once]
              exact and_congr (iff_of_true rfl rfl) ⟨fun recorded => recorded rfl,fun recorded _ => recorded⟩
            · rw [lost]
              refine iff_of_false (by intro both; cases both.1) ?_
              intro both
              have single := both.1
              omega
            · cases impossible

end Steps

section Reports

theorem range_split (within : m ≤ n) : List.range n = List.range m ++ (List.range (n - m)).map (m + ·) := by
  have total : n = m + (n - m) := by omega
  rw [← List.range_add,← total]

theorem filter_range (within : m ≤ n) : (List.range n).filter (fun i => decide (i < m)) = List.range m := by
  rw [range_split within,List.filter_append,List.filter_eq_self.mpr,List.filter_eq_nil_iff.mpr,List.append_nil]
  · intro i member
    obtain ⟨j,_,rfl⟩ := List.mem_map.mp member
    simp
  · intro i member
    simpa using member

theorem find_range (within : m ≤ n) :
    (List.range n).find? (fun i => decide (m ≤ i)) = if m < n then some m else none := by
  have low : (List.range m).find? (fun i => decide (m ≤ i)) = none := by
    rw [List.find?_eq_none]
    intro i member
    simpa using member
  rw [range_split within,List.find?_append,low,Option.none_or]
  cases gap : n - m with
  | zero => rw [if_neg (by omega)]; rfl
  | succ d => rw [if_pos (by omega),List.range_succ_eq_map]; simp

theorem ids_range (steps : List PlaybookActionStep) (k : ℕ) :
    (List.range k).filterMap (fun i => (steps[i]?).map PlaybookActionStep.id) =
      (steps.take k).map PlaybookActionStep.id := by
  induction k with
  | zero => rfl
  | succ k ih =>
      rw [List.range_succ,List.filterMap_append,ih,List.take_add_one,List.map_append]
      congr 1
      cases found : steps[k]? <;> simp [found]

section Exactness
variable {playbook : PlaybookSchema} {progress : Progress} {events : List Event} {result : PlaybookExecutionResult}

-- A report that misses no success cannot come from a step that acted and did not end.
theorem ExactlyOnce.counted (exactly : ExactlyOnce playbook events result)
    (reached : Reached 0 playbook.steps [] progress m) (same : ∀ i, successes i events = successes i progress.events)
    (report : result.stepsExecuted = (playbook.steps.take m).map PlaybookActionStep.id) :
    CountedOnce 0 m progress.events := by
  have before := reached.acted
  have after := reached.untouched
  have ended := reached.stopped
  have within := reached.within
  unfold CountedOnce
  simp only [Nat.zero_add] at before after ended ⊢
  refine ⟨?_,?_⟩
  · intro j below
    have limited := exactly.once j
    rw [same] at limited
    have least := before j below
    omega
  · by_contra again
    have short : m < playbook.steps.length := by
      by_contra full
      exact again (ended (by omega))
    have chosen : (fun i => decide (0 < successes i events)) = fun i => decide (i < m + 1) := by
      funext i
      rw [same,decide_eq_decide]
      rcases Nat.lt_trichotomy i m with below | here | above
      · have least := before i below
        omega
      · subst i
        omega
      · have nothing := after i (.inr above)
        omega
    have listed := exactly.reported
    rw [report,chosen,filter_range (by omega),ids_range] at listed
    have sizes := congrArg List.length listed
    simp only [List.length_map,List.length_take] at sizes
    omega

theorem CountedOnce.exactlyOnce (counted : CountedOnce 0 m progress.events)
    (reached : Reached 0 playbook.steps [] progress m) (same : ∀ i, successes i events = successes i progress.events)
    (report : result.stepsExecuted = (playbook.steps.take m).map PlaybookActionStep.id)
    (failed : result.failedStep = if m < playbook.steps.length then (playbook.steps[m]?).map PlaybookActionStep.id else none) :
    ExactlyOnce playbook events result := by
  have after := reached.untouched
  unfold CountedOnce at counted
  simp only [Nat.zero_add] at after counted
  have exactly : ∀ i, successes i progress.events = if i < m then 1 else 0 := by
    intro i
    rcases Nat.lt_trichotomy i m with below | here | above
    · rw [if_pos below]; exact counted.1 i below
    · subst i; rw [if_neg (by omega)]; exact counted.2
    · rw [if_neg (by omega)]; exact after i (.inr above)
  refine ⟨?_,?_,?_⟩
  · intro i
    rw [same,exactly]
    split <;> omega
  · have chosen : (fun i => decide (0 < successes i events)) = fun i => decide (i < m) := by
      funext i
      rw [same,exactly,decide_eq_decide]
      split <;> omega
    rw [report,chosen,filter_range reached.within,ids_range]
  · have missing : (fun i => decide (successes i events = 0)) = fun i => decide (m ≤ i) := by
      funext i
      rw [same,exactly,decide_eq_decide]
      split <;> omega
    rw [failed,missing,find_range reached.within]
    split <;> rfl

theorem exactlyOnce_iff (reached : Reached 0 playbook.steps [] progress m)
    (same : ∀ i, successes i events = successes i progress.events)
    (executed : result.stepsExecuted = progress.stepsExecuted)
    (failed : result.failedStep = if m < playbook.steps.length then (playbook.steps[m]?).map PlaybookActionStep.id else none) :
    ExactlyOnce playbook events result ↔ CountedOnce 0 m progress.events := by
  have report : result.stepsExecuted = (playbook.steps.take m).map PlaybookActionStep.id := by
    rw [executed,reached.executed,List.nil_append]
  exact ⟨fun exactly => exactly.counted reached same report,fun counted => counted.exactlyOnce reached same report failed⟩

end Exactness
end Reports

theorem exactly_once_iff (outcomes : Outcomes) (playbook : PlaybookSchema) (operator : Operator) :
    (∀ result, (execute outcomes playbook operator).2 = .ok result →
        ExactlyOnce playbook (execute outcomes playbook operator).1 result) ↔
      (validatePlaybook playbook = .ok () → ∀ i step, playbook.steps[i]? = some step →
        (∀ j < i, ∀ earlier, playbook.steps[j]? = some earlier → (firstSuccess outcomes j earlier).isSome = true) →
        ∀ attempt, firstSuccess outcomes i step = some attempt → (outcomes.audit i attempt).isOk = true) := by
  cases valid : validatePlaybook playbook with
  | error thrown =>
      refine iff_of_true ?_ (by intro impossible; cases impossible)
      intro result returned
      simp only [execute,valid] at returned
      cases returned
  | ok checked =>
      have run : ∃ m, Reached 0 playbook.steps [] (runSteps outcomes playbook.id operator 0 [] playbook.steps) m ∧ _ :=
        runSteps_reached playbook.steps 0 []
      obtain ⟨m,reached,exactly⟩ := run
      have condition : Recorded outcomes 0 playbook.steps ↔ ∀ i step, playbook.steps[i]? = some step →
          (∀ j < i, ∀ earlier, playbook.steps[j]? = some earlier → (firstSuccess outcomes j earlier).isSome = true) →
          ∀ attempt, firstSuccess outcomes i step = some attempt → (outcomes.audit i attempt).isOk = true := by
        simp only [Recorded,Nat.zero_add]
      rw [← condition,exactly]
      have completed : (runSteps outcomes playbook.id operator 0 [] playbook.steps).stepsExecuted.length = m := by
        have within := reached.within
        rw [reached.executed,List.nil_append,List.length_map,List.length_take]
        omega
      cases ended : (runSteps outcomes playbook.id operator 0 [] playbook.steps).thrown with
      | none =>
          have all : ¬ m < playbook.steps.length := by
            have full := reached.finished.mp ended
            omega
          simp only [execute,valid,ended,Except.ok.injEq,forall_eq']
          rw [exactlyOnce_iff reached (fun _ => rfl) rfl (by rw [if_neg all])]
          simp
      | some thrown =>
          have some : m < playbook.steps.length := by
            have unfinished : m ≠ playbook.steps.length := by
              intro full
              rw [reached.finished.mpr full] at ended
              cases ended
            have within := reached.within
            omega
          simp only [execute,valid,ended,Except.ok.injEq,forall_eq']
          rw [exactlyOnce_iff reached ?_ rfl (by rw [if_pos some,completed])]
          · simp
          · intro i
            rw [successes_append,successes_runRollback,Nat.add_zero]

-- The audit write of the first attempt is lost, so the credentials are reset twice.
theorem lost_audit_repeats_action :
    ¬ ∀ (outcomes : Outcomes) (playbook : PlaybookSchema) (operator : Operator) (result : PlaybookExecutionResult),
      (execute outcomes playbook operator).2 = .ok result →
        ExactlyOnce playbook (execute outcomes playbook operator).1 result := by
  intro all
  have exactly := all
    ⟨fun _ _ => .ok "Forced password reset",fun _ attempt => if attempt = 1 then .error .value else .ok (),fun _ => .ok ""⟩
    ⟨"brute_force_response","Brute Force Response",[⟨"iam-reset",.iam,some 2⟩],none⟩ .system
    ⟨true,"brute_force_response",["iam-reset"],none,none⟩ (by decide)
  have once := exactly.once 0
  revert once
  decide

end PhantomFlow.Soar
