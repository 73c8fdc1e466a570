import Mathlib.Algebra.Order.BigOperators.Group.Finset
import PhantomFlow.Library.BoundedHistory
import PhantomFlow.Library.LostUpdates
import PhantomFlow.Library.Machine
import PhantomFlow.RateLimit.Limiter

namespace PhantomFlow.RateLimit.EventAnalytics
open Library Library.Machine

structure RateLimitMetrics where
  totalRequests : ℕ
  allowedRequests : ℕ
  blockedRequests : ℕ
  violationRate : ℚ
  averageResponseTime : ℚ
  effectivenessScore : ℚ
  falsePositiveRate : ℚ
  memoryUsage : ℕ

inductive ViolationAction where
  | blocked | delayed | logged

structure RateLimitViolation where
  identifier : String
  endpoint : String
  ipAddress : String
  timestamp : ℤ
  requestCount : ℕ
  limitApplied : ℚ
  exceedBy : ℕ
  threatScore : ℚ
  userProfile : Option UserProfile
  countryCode : Option String
  action : ViolationAction
  severity : ThreatLevel

structure RateLimitEvent where
  identifier : String
  endpoint : String
  allowed : Bool
  limitApplied : ℚ
  responseTimeMs : ℚ
  ipAddress : String
  timestamp : ℤ
  userProfile : Option UserProfile := none
  threatLevel : Option ThreatLevel := none
  countryCode : Option String := none
  violationCount : Option ℚ := none

def calculateEffectivenessScore (metrics : RateLimitMetrics) : ℚ :=
  let blockingBalance := min (metrics.violationRate * 2) 1
  let responseTimeScore := max 0 (1 - metrics.averageResponseTime / 50)
  blockingBalance * (7 / 10) + responseTimeScore * (3 / 10)

def calculateViolationSeverity (threatLevel : Option ThreatLevel) (violationCount : ℚ) : ThreatLevel :=
  if threatLevel = some .critical ∨ 10 < violationCount then .critical
  else if threatLevel = some .high ∨ 5 < violationCount then .high
  else if threatLevel = some .medium ∨ 2 < violationCount then .medium
  else .low

def getThreatScore : Option ThreatLevel → ℚ
  | some .low => 2 / 10
  | some .medium => 5 / 10
  | some .high => 8 / 10
  | some .critical => 1
  | none => 0

def RateLimitEvent.violation (event : RateLimitEvent) : RateLimitViolation where
  identifier := event.identifier
  endpoint := event.endpoint
  ipAddress := event.ipAddress
  timestamp := event.timestamp
  requestCount := 1
  limitApplied := event.limitApplied
  exceedBy := 1
  threatScore := getThreatScore event.threatLevel
  userProfile := event.userProfile
  countryCode := event.countryCode
  action := .blocked
  severity := calculateViolationSeverity event.threatLevel (event.violationCount.getD 0)

def RateLimitEvent.initialMetrics (event : RateLimitEvent) : RateLimitMetrics where
  totalRequests := 1
  allowedRequests := if event.allowed then 1 else 0
  blockedRequests := if event.allowed then 0 else 1
  violationRate := if event.allowed then 0 else 1
  averageResponseTime := event.responseTimeMs
  effectivenessScore := if event.allowed then 1 else 0
  falsePositiveRate := 0
  memoryUsage := 0

def RateLimitEvent.updatedMetrics (event : RateLimitEvent) (metrics : RateLimitMetrics) : RateLimitMetrics :=
  let totalRequests := metrics.totalRequests + 1
  let blockedRequests := metrics.blockedRequests + if event.allowed then 0 else 1
  let counted := { metrics with
    totalRequests := totalRequests
    allowedRequests := metrics.allowedRequests + if event.allowed then 1 else 0
    blockedRequests := blockedRequests
    violationRate := blockedRequests / totalRequests
    averageResponseTime :=
      (metrics.averageResponseTime * (totalRequests - 1) + event.responseTimeMs) / totalRequests }
  { counted with effectivenessScore := calculateEffectivenessScore counted }

def maxViolations : ℕ := 1000

def keepRecent (violations : List RateLimitViolation) : List RateLimitViolation := violations.rtake maxViolations

-- The Redis command a call is about to run. What it will set is fixed by what it has
-- read, which is kept with the number of sets that the key had seen then.
inductive Stage where
  | checking
  | initialising (seen : ℕ)
  | getting
  | updating (metrics : RateLimitMetrics) (seen : ℕ)
  | readingViolations
  | writingViolations (violations : Option (List RateLimitViolation)) (seen : ℕ)
  | done

def afterMetrics (event : RateLimitEvent) : Stage := if event.allowed then .done else .readingViolations

-- The calls are for one endpoint and one hour, so they share the two keys.
structure Analytics (ι : Type) where
  metrics : Register (Option RateLimitMetrics)
  violations : Register (Option (List RateLimitViolation))
  violationsCache : List RateLimitViolation
  stages : ι → Stage

variable {ι : Type} [DecidableEq ι] (call : ι → RateLimitEvent)

def Analytics.start : Analytics ι := ⟨⟨none,0⟩,⟨none,0⟩,[],fun _ => .checking⟩

def Analytics.move (s : Analytics ι) (i : ι) (stage : Stage) : Analytics ι :=
  { s with stages := Function.update s.stages i stage }

-- One command of the call i. `updateOverallMetrics` runs none.
def Analytics.step (s : Analytics ι) (i : ι) : Analytics ι × Unit :=
  (match s.stages i with
  | .checking => if s.metrics.value.isSome then s.move i .getting else s.move i (.initialising s.metrics.writes)
  | .initialising _ =>
    { s with metrics := s.metrics.write (some (call i).initialMetrics) }.move i (afterMetrics (call i))
  | .getting => match s.metrics.value with
    | some metrics => s.move i (.updating metrics s.metrics.writes)
    | none => s.move i (afterMetrics (call i))
  | .updating metrics _ =>
    { s with metrics := s.metrics.write (some ((call i).updatedMetrics metrics)) }.move i (afterMetrics (call i))
  | .readingViolations => s.move i (.writingViolations s.violations.value s.violations.writes)
  | .writingViolations violations _ =>
    { s with
      violations := s.violations.write (some (keepRecent (violations.getD [] ++ [(call i).violation])))
      violationsCache := keepRecent (s.violationsCache ++ [(call i).violation]) }.move i .done
  | .done => s,())

def totalRequests (stored : Option RateLimitMetrics) : ℕ := (stored.map RateLimitMetrics.totalRequests).getD 0

def blockedRequests (stored : Option RateLimitMetrics) : ℕ := (stored.map RateLimitMetrics.blockedRequests).getD 0

def violationEntries (stored : Option (List RateLimitViolation)) : ℕ := (stored.getD []).length

-- No other call has set the key since this one read it, where that is the existence
-- check for a call that found none.
def NoSetSinceRead (s : Analytics ι) (i : ι) : Prop :=
  match s.stages i with
  | .initialising seen | .updating _ seen => seen = s.metrics.writes
  | .writingViolations _ seen => seen = s.violations.writes
  | .checking | .getting | .readingViolations | .done => True

instance (s : Analytics ι) (i : ι) : Decidable (NoSetSinceRead s i) := by
  unfold NoSetSinceRead
  split <;> infer_instance

def Stage.heldMetrics : Stage → Option (Held (Option RateLimitMetrics))
  | .initialising seen => some ⟨none,seen⟩
  | .updating metrics seen => some ⟨some metrics,seen⟩
  | .checking | .getting | .readingViolations | .writingViolations _ _ | .done => none

def Stage.heldViolations : Stage → Option (Held (Option (List RateLimitViolation)))
  | .writingViolations violations seen => some ⟨violations,seen⟩
  | .checking | .initialising _ | .getting | .updating _ _ | .readingViolations | .done => none

def Stage.recorded : Stage → Bool
  | .readingViolations | .writingViolations _ _ | .done => true
  | .checking | .initialising _ | .getting | .updating _ _ => false

def Stage.finished : Stage → Bool
  | .done => true
  | _ => false

structure StageValid (metrics : Register (Option RateLimitMetrics))
    (violations : Register (Option (List RateLimitViolation))) (event : RateLimitEvent) (stage : Stage) : Prop where
  heldMetrics : ∀ held, stage.heldMetrics = some held → metrics.Holds totalRequests held
  heldViolations : ∀ held, stage.heldViolations = some held → violations.Holds violationEntries held
  present : stage = .getting → metrics.value.isSome = true
  refused : stage.recorded = true → stage.finished = false → event.allowed = false

section Stages
variable {metrics : Register (Option RateLimitMetrics)} {violations : Register (Option (List RateLimitViolation))}
  {event : RateLimitEvent} {stage : Stage}

theorem StageValid.write_metrics (valid : StageValid metrics violations event stage) (value : RateLimitMetrics) :
    StageValid (metrics.write (some value)) violations event stage where
  heldMetrics held found := (valid.heldMetrics held found).write (some value)
  heldViolations := valid.heldViolations
  present _ := rfl
  refused := valid.refused

theorem StageValid.write_violations (valid : StageValid metrics violations event stage)
    (value : List RateLimitViolation) : StageValid metrics (violations.write (some value)) event stage where
  heldMetrics := valid.heldMetrics
  heldViolations held found := (valid.heldViolations held found).write (some value)
  present := valid.present
  refused := valid.refused

theorem afterMetrics_valid (metrics : Register (Option RateLimitMetrics))
    (violations : Register (Option (List RateLimitViolation))) (event : RateLimitEvent) :
    StageValid metrics violations event (afterMetrics event) := by
  unfold afterMetrics
  split
  · exact ⟨nofun,nofun,nofun,nofun⟩
  · rename_i refused
    refine ⟨nofun,nofun,nofun,?_⟩
    intro _ _
    simpa using refused

end Stages

variable {call} in
theorem stages_move {s : Analytics ι} (valid : ∀ j, StageValid s.metrics s.violations (call j) (s.stages j))
    (own : StageValid s.metrics s.violations (call i) stage) (j : ι) :
    StageValid s.metrics s.violations (call j) ((s.move i stage).stages j) :=
  (Function.forall_update_iff s.stages (fun j stage => StageValid s.metrics s.violations (call j) stage)).mpr
    ⟨own,fun j _ => valid j⟩ j

section Counting
variable [Fintype ι]

def Analytics.recorded (s : Analytics ι) : ℕ := ∑ i, (s.stages i).recorded.toNat

def Analytics.refusedRecorded (s : Analytics ι) : ℕ := ∑ i, ((s.stages i).recorded && !(call i).allowed).toNat

def Analytics.refusedFinished (s : Analytics ι) : ℕ := ∑ i, ((s.stages i).finished && !(call i).allowed).toNat

def refusedCalls : ℕ := ∑ i, (!(call i).allowed).toNat

structure Consistent (s : Analytics ι) : Prop where
  metrics : s.metrics.Bounded totalRequests
  violations : s.violations.Bounded violationEntries
  stages : ∀ i, StageValid s.metrics s.violations (call i) (s.stages i)
  written : s.metrics.writes = s.recorded
  violationsWritten : s.violations.writes = s.refusedFinished call
  blocked : s.metrics.Complete totalRequests → blockedRequests s.metrics.value = s.refusedRecorded call

def Lossless (s : Analytics ι) : Prop :=
  s.metrics.Complete totalRequests ∧ s.violations.Complete violationEntries

variable {call} {s : Analytics ι} {i : ι}

theorem recorded_move (more : stage.recorded.toNat = (s.stages i).recorded.toNat + k) :
    (s.move i stage).recorded = s.recorded + k :=
  sum_moved (fun (_ : ι) (stage : Stage) => stage.recorded.toNat) s.stages more

theorem refusedRecorded_move (more : (stage.recorded && !(call i).allowed).toNat =
      ((s.stages i).recorded && !(call i).allowed).toNat + k) :
    (s.move i stage).refusedRecorded call = s.refusedRecorded call + k :=
  sum_moved (fun (j : ι) (stage : Stage) => (stage.recorded && !(call j).allowed).toNat) s.stages more

theorem refusedFinished_move (more : (stage.finished && !(call i).allowed).toNat =
      ((s.stages i).finished && !(call i).allowed).toNat + k) :
    (s.move i stage).refusedFinished call = s.refusedFinished call + k :=
  sum_moved (fun (j : ι) (stage : Stage) => (stage.finished && !(call j).allowed).toNat) s.stages more

theorem move_consistent (valid : Consistent call s) (own : StageValid s.metrics s.violations (call i) stage)
    (recorded : stage.recorded = (s.stages i).recorded) (finished : stage.finished = (s.stages i).finished) :
    Consistent call (s.move i stage) where
  metrics := valid.metrics
  violations := valid.violations
  stages := stages_move valid.stages own
  written := by
    have same : (s.move i stage).recorded = s.recorded + 0 := recorded_move (by rw [recorded]; rfl)
    exact valid.written.trans same.symm
  violationsWritten := by
    have same : (s.move i stage).refusedFinished call = s.refusedFinished call + 0 :=
      refusedFinished_move (by rw [finished]; rfl)
    exact valid.violationsWritten.trans same.symm
  blocked := by
    intro complete
    have same : (s.move i stage).refusedRecorded call = s.refusedRecorded call + 0 :=
      refusedRecorded_move (by rw [recorded]; rfl)
    exact (valid.blocked complete).trans same.symm

-- A set of the metrics from what was read, with what the event adds.
theorem write_metrics_consistent (valid : Consistent call s) (before : (s.stages i).heldMetrics = some held)
    (next : RateLimitMetrics) (total : next.totalRequests = totalRequests held.value + 1)
    (refused : next.blockedRequests = blockedRequests held.value + (!(call i).allowed).toNat) :
    Consistent call ({ s with metrics := s.metrics.write (some next) }.move i (afterMetrics (call i))) ∧
      (Lossless ({ s with metrics := s.metrics.write (some next) }.move i (afterMetrics (call i))) ↔
        Lossless s ∧ held.seen = s.metrics.writes) := by
  have holds := (valid.stages i).heldMetrics held before
  have complete := holds.complete_write_iff (show totalRequests (some next) = totalRequests held.value + 1 from total)
  have waiting : (s.stages i).recorded = false ∧ (s.stages i).finished = false := by
    cases stage : s.stages i with
    | initialising seen => exact ⟨rfl,rfl⟩
    | updating metrics seen => exact ⟨rfl,rfl⟩
    | _ => rw [stage] at before; cases before
  have after : (afterMetrics (call i)).recorded = true ∧ (afterMetrics (call i)).finished = (call i).allowed := by
    cases allowed : (call i).allowed with
    | true => simp [afterMetrics,allowed,Stage.recorded,Stage.finished]
    | false => simp [afterMetrics,allowed,Stage.recorded,Stage.finished]
  refine ⟨⟨holds.bounded_write (le_of_eq total),valid.violations,?_,?_,?_,?_⟩,?_⟩
  · exact stages_move (s:={ s with metrics := s.metrics.write (some next) })
      (fun j => (valid.stages j).write_metrics next) (afterMetrics_valid _ _ _)
  · have counted : (s.move i (afterMetrics (call i))).recorded = s.recorded + 1 :=
      recorded_move (by rw [waiting.1,after.1]; rfl)
    exact (congrArg Nat.succ valid.written).trans counted.symm
  · have same : (s.move i (afterMetrics (call i))).refusedFinished call = s.refusedFinished call + 0 :=
      refusedFinished_move (by rw [waiting.2,after.2,Bool.and_not_self]; rfl)
    exact valid.violationsWritten.trans same.symm
  · intro all
    obtain ⟨earlier,fresh⟩ := complete.mp all
    have counted : (s.move i (afterMetrics (call i))).refusedRecorded call =
        s.refusedRecorded call + (!(call i).allowed).toNat :=
      refusedRecorded_move (by rw [waiting.1,after.1,Bool.true_and,Bool.false_and,Bool.toNat_false,Nat.zero_add])
    change next.blockedRequests = (s.move i (afterMetrics (call i))).refusedRecorded call
    rw [refused,holds.current fresh,valid.blocked earlier,counted]
  · change (s.metrics.write (some next)).Complete totalRequests ∧ s.violations.Complete violationEntries ↔ _
    rw [complete,Lossless]
    exact and_right_comm

omit [DecidableEq ι] in
theorem refusedFinished_lt (waiting : (s.stages i).finished = false) (refused : (call i).allowed = false) :
    s.refusedFinished call < refusedCalls call := by
  apply Finset.sum_lt_sum
  · intro j _
    cases (s.stages j).finished <;> simp
  · exact ⟨i,Finset.mem_univ i,by simp [waiting,refused]⟩

theorem write_violations_consistent (few : refusedCalls call ≤ maxViolations) (valid : Consistent call s)
    (before : s.stages i = .writingViolations violations seen) :
    Consistent call (s.step call i).1 ∧
      (Lossless (s.step call i).1 ↔ Lossless s ∧ seen = s.violations.writes) := by
  have holds := (valid.stages i).heldViolations ⟨violations,seen⟩ (by rw [before]; rfl)
  have refused : (call i).allowed = false :=
    (valid.stages i).refused (by rw [before]; rfl) (by rw [before]; rfl)
  have room : (violations.getD []).length < maxViolations := by
    have short : s.violations.writes < refusedCalls call := by
      rw [valid.violationsWritten]
      exact refusedFinished_lt (by rw [before]; rfl) refused
    have bounded : (violations.getD []).length ≤ seen := holds.bounded
    have earlier : seen ≤ s.violations.writes := holds.earlier
    omega
  have grown : violationEntries (some (keepRecent (violations.getD [] ++ [(call i).violation]))) =
      violationEntries violations + 1 := by
    simp only [violationEntries,Option.getD_some,keepRecent,length_rtake,List.length_append,List.length_singleton]
    omega
  have complete := holds.complete_write_iff grown
  simp only [Analytics.step,before]
  refine ⟨⟨valid.metrics,holds.bounded_write (le_of_eq grown),?_,?_,?_,?_⟩,?_⟩
  · exact stages_move (s:={ s with
      violations := s.violations.write (some (keepRecent (violations.getD [] ++ [(call i).violation])))
      violationsCache := keepRecent (s.violationsCache ++ [(call i).violation]) })
      (fun j => (valid.stages j).write_violations _) ⟨nofun,nofun,nofun,nofun⟩
  · have same : (s.move i .done).recorded = s.recorded + 0 := recorded_move (by rw [before]; rfl)
    exact valid.written.trans same.symm
  · have counted : (s.move i .done).refusedFinished call = s.refusedFinished call + 1 :=
      refusedFinished_move (by rw [before,refused]; rfl)
    exact (congrArg Nat.succ valid.violationsWritten).trans counted.symm
  · intro all
    have same : (s.move i .done).refusedRecorded call = s.refusedRecorded call + 0 :=
      refusedRecorded_move (by rw [before]; rfl)
    exact (valid.blocked all).trans same.symm
  · simp only [Lossless,Analytics.move]
    rw [complete]
    exact and_assoc.symm

theorem read_consistent (valid : Consistent call s) (own : StageValid s.metrics s.violations (call i) stage)
    (recorded : stage.recorded = (s.stages i).recorded) (finished : stage.finished = (s.stages i).finished) :
    Consistent call (s.move i stage) ∧ (Lossless (s.move i stage) ↔ Lossless s ∧ True) :=
  ⟨move_consistent valid own recorded finished,Iff.of_eq (and_true (Lossless s)).symm⟩

theorem step_consistent (few : refusedCalls call ≤ maxViolations) (s : Analytics ι) (i : ι)
    (valid : Consistent call s) :
    Consistent call (s.step call i).1 ∧ (Lossless (s.step call i).1 ↔ Lossless s ∧ NoSetSinceRead s i) := by
  have own := valid.stages i
  cases stage : s.stages i with
  | checking =>
      simp only [Analytics.step,NoSetSinceRead,stage]
      cases stored : s.metrics.value with
      | some metrics =>
          exact read_consistent valid ⟨nofun,nofun,fun _ => by rw [stored]; rfl,nofun⟩ (by rw [stage]; rfl)
            (by rw [stage]; rfl)
      | none =>
          refine read_consistent valid ⟨?_,nofun,nofun,nofun⟩ (by rw [stage]; rfl) (by rw [stage]; rfl)
          rintro held ⟨⟩
          have read := Register.holds_read valid.metrics
          rwa [Register.read,stored] at read
  | getting =>
      rw [stage] at own
      obtain ⟨metrics,stored⟩ := Option.isSome_iff_exists.mp (own.present rfl)
      simp only [Analytics.step,NoSetSinceRead,stage,stored]
      refine read_consistent valid ⟨?_,nofun,nofun,nofun⟩ (by rw [stage]; rfl) (by rw [stage]; rfl)
      rintro held ⟨⟩
      have read := Register.holds_read valid.metrics
      rwa [Register.read,stored] at read
  | initialising seen =>
      simp only [Analytics.step,NoSetSinceRead,stage]
      have held : (s.stages i).heldMetrics = some ⟨none,seen⟩ := by
        rw [stage]
        rfl
      refine write_metrics_consistent valid held _ rfl ?_
      cases allowed : (call i).allowed <;> simp [RateLimitEvent.initialMetrics,blockedRequests,allowed]
  | updating metrics seen =>
      simp only [Analytics.step,NoSetSinceRead,stage]
      have held : (s.stages i).heldMetrics = some ⟨some metrics,seen⟩ := by
        rw [stage]
        rfl
      refine write_metrics_consistent valid held _ rfl ?_
      cases allowed : (call i).allowed <;> simp [RateLimitEvent.updatedMetrics,blockedRequests,allowed]
  | readingViolations =>
      rw [stage] at own
      simp only [Analytics.step,NoSetSinceRead,stage]
      refine read_consistent valid ⟨nofun,?_,nofun,own.refused⟩ (by rw [stage]; rfl) (by rw [stage]; rfl)
      rintro held ⟨⟩
      exact Register.holds_read valid.violations
  | writingViolations violations seen =>
      have written := write_violations_consistent few valid stage
      simpa only [NoSetSinceRead,stage] using written
  | done =>
      simp only [Analytics.step,NoSetSinceRead,stage]
      exact ⟨valid,Iff.of_eq (and_true (Lossless s)).symm⟩

omit [DecidableEq ι] in
theorem start_consistent (call : ι → RateLimitEvent) : Consistent call .start where
  metrics := le_refl 0
  violations := le_refl 0
  stages _ := ⟨nofun,nofun,nofun,nofun⟩
  written := (Finset.sum_eq_zero fun _ _ => rfl).symm
  violationsWritten := (Finset.sum_eq_zero fun _ _ => rfl).symm
  blocked _ := (Finset.sum_eq_zero fun _ _ => rfl).symm

omit [DecidableEq ι] in
-- Once every call is done, what is stored says whether anything was lost.
theorem Consistent.stored_iff (valid : Consistent call s) (finished : ∀ i, s.stages i = .done) :
    (totalRequests s.metrics.value = Fintype.card ι ∧ blockedRequests s.metrics.value = refusedCalls call ∧
      violationEntries s.violations.value = refusedCalls call) ↔ Lossless s := by
  have all : s.metrics.writes = Fintype.card ι := by
    rw [valid.written,Analytics.recorded]
    simp [finished,Stage.recorded]
  have refused : s.refusedRecorded call = refusedCalls call :=
    Finset.sum_congr rfl fun i _ => by simp [finished i,Stage.recorded]
  have listed : s.violations.writes = refusedCalls call := by
    rw [valid.violationsWritten]
    exact Finset.sum_congr rfl fun i _ => by simp [finished i,Stage.finished]
  rw [Lossless,Register.Complete,Register.Complete,all,listed]
  constructor
  · exact fun stored => ⟨stored.1,stored.2.2⟩
  · rintro ⟨total,entries⟩
    have complete : s.metrics.Complete totalRequests := by rw [Register.Complete,all,total]
    exact ⟨total,(valid.blocked complete).trans refused,entries⟩

theorem analytics_lossless_iff (call : ι → RateLimitEvent) (schedule : List ι)
    (finished : ∀ i, (exec (Analytics.step call) .start schedule).1.stages i = .done)
    (few : refusedCalls call ≤ 1000) :
    (totalRequests (exec (Analytics.step call) .start schedule).1.metrics.value = Fintype.card ι ∧
      blockedRequests (exec (Analytics.step call) .start schedule).1.metrics.value = refusedCalls call ∧
      violationEntries (exec (Analytics.step call) .start schedule).1.violations.value = refusedCalls call) ↔
      Along (Analytics.step call) NoSetSinceRead .start schedule := by
  have keeps : ∀ s i, Consistent call s → Consistent call (s.step call i).1 :=
    fun s i valid => (step_consistent few s i valid).1
  have valid := exec_invariant keeps (start_consistent call) schedule
  have lossless : Lossless (.start : Analytics ι) := ⟨rfl,rfl⟩
  rw [valid.stored_iff finished,
    final_exact keeps (fun s i valid => (step_consistent few s i valid).2) (start_consistent call)]
  exact ⟨fun both => both.2,fun conditions => ⟨lossless,conditions⟩⟩

end Counting

def served : RateLimitEvent where
  identifier := "client"
  endpoint := "/api/login"
  allowed := true
  limitApplied := 10
  responseTimeMs := 3
  ipAddress := "10.0.0.7"
  timestamp := 0

-- A served and a refused request.
def twoRequests (second : Bool) : RateLimitEvent := { served with allowed := !second }

theorem separate_events_recorded :
    totalRequests (exec (Analytics.step twoRequests) .start [false,false,true,true,true,true,true]).1.metrics.value = 2 ∧
      blockedRequests
        (exec (Analytics.step twoRequests) .start [false,false,true,true,true,true,true]).1.metrics.value = 1 ∧
      violationEntries
        (exec (Analytics.step twoRequests) .start [false,false,true,true,true,true,true]).1.violations.value = 1 := by
  have finished : ∀ i,
      (exec (Analytics.step twoRequests) .start [false,false,true,true,true,true,true]).1.stages i = .done := by
    intro i
    cases i with
    | false => rfl
    | true => rfl
  exact (analytics_lossless_iff twoRequests _ finished (by decide)).mpr (by decide)

-- Both find no metrics, and the second set is the only one that is left.
theorem simultaneous_events_lost :
    (∀ i, (exec (Analytics.step twoRequests) .start [false,true,true,false,true,true]).1.stages i = .done) ∧
      totalRequests (exec (Analytics.step twoRequests) .start [false,true,true,false,true,true]).1.metrics.value = 1 ∧
      blockedRequests
        (exec (Analytics.step twoRequests) .start [false,true,true,false,true,true]).1.metrics.value = 0 := by
  refine ⟨?_,rfl,rfl⟩
  intro i
  cases i with
  | false => rfl
  | true => rfl

end PhantomFlow.RateLimit.EventAnalytics
