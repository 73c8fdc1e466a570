import Mathlib.Data.List.Induction
import PhantomFlow.RateLimit.EventAnalytics

namespace PhantomFlow.RateLimit.EventAnalytics
open Library Library.Machine

-- `updateMetrics` of a call that no other call interrupts: the key it finds, or does
-- not find, is the key it sets.
def updateMetrics (stored : Option RateLimitMetrics) (event : RateLimitEvent) : Option RateLimitMetrics :=
  match stored with
  | none => some event.initialMetrics
  | some metrics => some (event.updatedMetrics metrics)

def storedMetrics (events : List RateLimitEvent) : Option RateLimitMetrics := events.foldl updateMetrics none

section Uninterrupted
variable {ι : Type} [DecidableEq ι] {call : ι → RateLimitEvent} {s : Analytics ι} {i : ι}

def commandsOfCall : ℕ := 5

def oneAfterAnother (order : List ι) : List ι := order.flatMap (List.replicate commandsOfCall)

theorem step_stages (s : Analytics ι) (other : j ≠ i) : (s.step call i).1.stages j = s.stages j := by
  cases stage : s.stages i with
  | checking =>
      cases stored : s.metrics.value <;> simp [Analytics.step,Analytics.move,stage,stored,Function.update_of_ne other]
  | getting =>
      cases stored : s.metrics.value <;> simp [Analytics.step,Analytics.move,stage,stored,Function.update_of_ne other]
  | _ => simp [Analytics.step,Analytics.move,stage,Function.update_of_ne other]

theorem exec_stages (s : Analytics ι) (other : j ≠ i) (n : ℕ) :
    (exec (Analytics.step call) s (List.replicate n i)).1.stages j = s.stages j := by
  induction n generalizing s with
  | zero => rfl
  | succ n ih => rw [List.replicate_succ,exec_cons,ih,step_stages s other]

theorem exec_metrics (s : Analytics ι) (past : (s.stages i).recorded = true) (n : ℕ) :
    (exec (Analytics.step call) s (List.replicate n i)).1.metrics = s.metrics := by
  induction n generalizing s with
  | zero => rfl
  | succ n ih =>
      rw [List.replicate_succ,exec_cons]
      cases stage : s.stages i with
      | readingViolations =>
          rw [ih _ (by simp [Analytics.step,Analytics.move,stage,Stage.recorded])]
          simp [Analytics.step,Analytics.move,stage]
      | writingViolations violations seen =>
          rw [ih _ (by simp [Analytics.step,Analytics.move,stage,Stage.recorded])]
          simp [Analytics.step,Analytics.move,stage]
      | done =>
          rw [ih _ (by simp [Analytics.step,stage,Stage.recorded])]
          simp [Analytics.step,stage]
      | _ => simp [stage,Stage.recorded] at past

theorem afterMetrics_recorded (event : RateLimitEvent) : (afterMetrics event).recorded = true := by
  cases allowed : event.allowed <;> simp [afterMetrics,allowed,Stage.recorded]

theorem exec_uninterrupted (s : Analytics ι) (fresh : s.stages i = .checking) :
    (exec (Analytics.step call) s (List.replicate commandsOfCall i)).1.metrics.value =
      updateMetrics s.metrics.value (call i) := by
  cases stored : s.metrics.value with
  | none =>
      have first : (s.step call i).1 = s.move i (.initialising s.metrics.writes) := by
        simp [Analytics.step,fresh,stored]
      rw [commandsOfCall,List.replicate_succ,List.replicate_succ,exec_cons,exec_cons,first,exec_metrics]
      · simp [Analytics.step,Analytics.move,Register.write,updateMetrics]
      · simp [Analytics.step,Analytics.move,afterMetrics_recorded]
  | some metrics =>
      have first : (s.step call i).1 = s.move i .getting := by
        simp [Analytics.step,fresh,stored]
      have second : ((s.move i .getting).step call i).1 =
          (s.move i .getting).move i (.updating metrics s.metrics.writes) := by
        simp [Analytics.step,Analytics.move,stored]
      rw [commandsOfCall,List.replicate_succ,List.replicate_succ,List.replicate_succ,exec_cons,exec_cons,exec_cons,
        first,second,exec_metrics]
      · simp [Analytics.step,Analytics.move,Register.write,updateMetrics]
      · simp [Analytics.step,Analytics.move,afterMetrics_recorded]

-- The fold is what the commands do where no two calls overlap.
theorem exec_one_after_another (order : List ι) (distinct : order.Nodup) (s : Analytics ι)
    (fresh : ∀ i ∈ order, s.stages i = .checking) :
    (exec (Analytics.step call) s (oneAfterAnother order)).1.metrics.value =
      (order.map call).foldl updateMetrics s.metrics.value := by
  induction order generalizing s with
  | nil => rfl
  | cons i order ih =>
      obtain ⟨new,distinct⟩ := List.nodup_cons.mp distinct
      have rest : ∀ j ∈ order,
          (exec (Analytics.step call) s (List.replicate commandsOfCall i)).1.stages j = .checking := by
        intro j listed
        rw [exec_stages s (ne_of_mem_of_not_mem listed new)]
        exact fresh j (List.mem_cons_of_mem i listed)
      rw [oneAfterAnother,List.flatMap_cons,exec_append]
      have tail := ih distinct _ rest
      rw [exec_uninterrupted s (fresh i List.mem_cons_self)] at tail
      exact tail

end Uninterrupted

structure Aggregates (events : List RateLimitEvent) (metrics : RateLimitMetrics) : Prop where
  total : metrics.totalRequests = events.length
  parts : metrics.totalRequests = metrics.allowedRequests + metrics.blockedRequests
  blocked : metrics.blockedRequests = events.countP (fun event => !event.allowed)
  rate : metrics.violationRate = metrics.blockedRequests / metrics.totalRequests
  mean : metrics.averageResponseTime = (events.map RateLimitEvent.responseTimeMs).sum / events.length

def Scored (metrics : RateLimitMetrics) : Prop :=
  metrics.effectivenessScore = calculateEffectivenessScore metrics

section Aggregation
variable {events : List RateLimitEvent} {metrics : RateLimitMetrics}

theorem storedMetrics_snoc (events : List RateLimitEvent) (event : RateLimitEvent) :
    storedMetrics (events ++ [event]) = updateMetrics (storedMetrics events) event := by
  simp [storedMetrics]

theorem storedMetrics_isSome (events : List RateLimitEvent) (event : RateLimitEvent) :
    ∃ metrics, storedMetrics (events ++ [event]) = some metrics := by
  rw [storedMetrics_snoc]
  cases storedMetrics events with
  | none => exact ⟨_,rfl⟩
  | some metrics => exact ⟨_,rfl⟩

theorem aggregates_initial (event : RateLimitEvent) : Aggregates [event] event.initialMetrics := by
  cases allowed : event.allowed <;>
    exact ⟨rfl,by simp [RateLimitEvent.initialMetrics,allowed],by simp [RateLimitEvent.initialMetrics,allowed],
      by simp [RateLimitEvent.initialMetrics,allowed],by simp [RateLimitEvent.initialMetrics]⟩

theorem aggregates_updated (event : RateLimitEvent) (before : Aggregates events metrics) :
    Aggregates (events ++ [event]) (event.updatedMetrics metrics) := by
  have total : (event.updatedMetrics metrics).totalRequests = (events ++ [event]).length := by
    rw [List.length_append,← before.total]
    rfl
  refine ⟨total,?_,?_,rfl,?_⟩
  · have parts := before.parts
    cases allowed : event.allowed <;> simp only [RateLimitEvent.updatedMetrics,allowed] <;> simp <;> omega
  · rw [List.countP_append,← before.blocked]
    cases allowed : event.allowed <;> simp [RateLimitEvent.updatedMetrics,allowed]
  · -- What the mean was times how many there were is their sum.
    have restored : metrics.averageResponseTime * metrics.totalRequests =
        (events.map RateLimitEvent.responseTimeMs).sum := by
      rw [before.mean,before.total]
      cases events with
      | nil => simp
      | cons first rest => exact div_mul_cancel₀ _ (Nat.cast_ne_zero.mpr (Nat.succ_ne_zero rest.length))
    rw [← total,List.map_append,List.sum_append,← restored]
    simp [RateLimitEvent.updatedMetrics]

theorem storedMetrics_aggregates (found : storedMetrics events = some metrics) : Aggregates events metrics := by
  induction events using List.reverseRecOn generalizing metrics with
  | nil => cases found
  | append_singleton events event ih =>
      rw [storedMetrics_snoc] at found
      cases stored : storedMetrics events with
      | none =>
          rw [stored] at found
          cases found
          cases events using List.reverseRecOn with
          | nil => exact aggregates_initial event
          | append_singleton events earlier =>
              obtain ⟨metrics,present⟩ := storedMetrics_isSome events earlier
              cases present.symm.trans stored
      | some earlier =>
          rw [stored] at found
          cases found
          exact aggregates_updated event (ih stored)

-- The first event alone does not go through the score's own function.
theorem scored_initial_iff (event : RateLimitEvent) :
    Scored event.initialMetrics ↔ event.allowed = true ∧ event.responseTimeMs = -(350 / 3) := by
  cases allowed : event.allowed with
  | false =>
      have response : (0 : ℚ) ≤ max 0 (1 - event.responseTimeMs / 50) := le_max_left 0 _
      simp only [Scored,calculateEffectivenessScore,RateLimitEvent.initialMetrics,allowed]
      norm_num
      linarith
  | true =>
      simp only [Scored,calculateEffectivenessScore,RateLimitEvent.initialMetrics,allowed]
      norm_num
      constructor
      · intro scored
        rcases max_choice (0 : ℚ) (1 - event.responseTimeMs / 50) with zero | slow
        · rw [zero] at scored
          norm_num at scored
        · rw [slow] at scored
          linarith
      · intro time
        rw [time]
        norm_num

end Aggregation

theorem stored_metrics_iff (events : List RateLimitEvent) :
    (∃ metrics, storedMetrics events = some metrics ∧ Aggregates events metrics ∧ Scored metrics) ↔
      2 ≤ events.length ∨
        ∃ event, events = [event] ∧ event.allowed = true ∧ event.responseTimeMs = -(350 / 3) := by
  cases events using List.reverseRecOn with
  | nil => simp [storedMetrics]
  | append_singleton events event =>
      cases events using List.reverseRecOn with
      | nil =>
          have single : storedMetrics ([] ++ [event]) = some event.initialMetrics := rfl
          constructor
          · rintro ⟨metrics,found,-,scored⟩
            cases single.symm.trans found
            exact .inr ⟨event,rfl,(scored_initial_iff event).mp scored⟩
          · rintro (long | ⟨only,same,condition⟩)
            · simp at long
            · cases same
              exact ⟨_,rfl,aggregates_initial event,(scored_initial_iff event).mpr condition⟩
      | append_singleton events previous =>
          refine iff_of_true ?_ (.inl (by simp))
          obtain ⟨metrics,stored⟩ := storedMetrics_isSome events previous
          rw [storedMetrics_snoc,stored]
          exact ⟨_,rfl,aggregates_updated event (storedMetrics_aggregates stored),rfl⟩

theorem first_event_score :
    storedMetrics [served] = some served.initialMetrics ∧ served.initialMetrics.effectivenessScore = 1 ∧
      calculateEffectivenessScore served.initialMetrics = 282 / 1000 := by
  refine ⟨rfl,rfl,?_⟩
  norm_num [calculateEffectivenessScore,RateLimitEvent.initialMetrics,served]

end PhantomFlow.RateLimit.EventAnalytics
