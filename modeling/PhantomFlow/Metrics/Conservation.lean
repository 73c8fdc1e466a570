import Mathlib.Algebra.Order.Group.Multiset
import Mathlib.Data.Multiset.ZeroCons
import Mathlib.Tactic.Abel
import PhantomFlow.Metrics.MetricsIngestionService

namespace PhantomFlow.Metrics
open Library Library.Machine

section Points
variable (script : Script)

def Sanitized (point clean : TimeSeriesPoint) : Prop := ∃ now, validatePoint script now point = .ok clean

def recordIngested (ingested : List TimeSeriesPoint) : IngestionEvent → List TimeSeriesPoint
  | .batchIngest _ points => ingested ++ points
  | .ingest _ _ data => ingested ++ data
  | _ => ingested

def ingesting := withLedger (ingestionStep script) recordIngested

-- Each valid point once: taken by the database, in a write under way, or pending.
def Conserved (s : MetricsIngestionService × List TimeSeriesPoint) : Prop :=
  ∃ written underway : Multiset TimeSeriesPoint,
    Multiset.Rel (Sanitized script) written s.1.written ∧
    Multiset.Rel (Sanitized script) underway s.1.writes.flatten ∧
    (s.2.filter (isValid script) : Multiset TimeSeriesPoint) =
      written + underway + (s.1.pendingPoints.filter (isValid script) : List TimeSeriesPoint)

def Fails (s : MetricsIngestionService × List TimeSeriesPoint) : IngestionEvent → Prop
  | .writeDone index (.error _) => index < s.1.writes.length
  | _ => False

def Loaded (s : MetricsIngestionService × List TimeSeriesPoint) : Prop := ∀ batch ∈ s.1.writes, batch ≠ []

variable {script}

theorem validatePoints_sanitized (now : ℤ) (points : List TimeSeriesPoint) :
    Multiset.Rel (Sanitized script) (points.filter (isValid script) : List TimeSeriesPoint)
      ((validatePoints script now points).1 : List TimeSeriesPoint) := by
  induction points with
  | nil => exact .zero
  | cons point rest ih =>
      have valid := validatePoint_isValid script now point
      cases checked : validatePoint script now point with
      | error message =>
          rw [checked] at valid
          rw [List.filter_cons_of_neg (by simp [← valid,Except.toOption])]
          simpa [validatePoints,checked,Except.toOption] using ih
      | ok clean =>
          rw [checked] at valid
          rw [List.filter_cons_of_pos valid.symm]
          simpa [validatePoints,checked,Except.toOption] using Multiset.Rel.cons ⟨now,checked⟩ ih

theorem conserved_flush (conserved : Conserved script (service,ingested)) (now : ℤ) :
    Conserved script ((service.flushBatch script now).1,ingested) := by
  obtain ⟨written,underway,taken,flying,total⟩ := conserved
  obtain ⟨pending,kept,writes,_⟩ := flushBatch_points script service now
  refine ⟨written,underway + (service.pendingPoints.filter (isValid script) : List TimeSeriesPoint),?_,?_,?_⟩
  · rw [kept]
    exact taken
  · rw [writes,← Multiset.coe_add]
    exact flying.add (validatePoints_sanitized now service.pendingPoints)
  · rw [pending]
    simpa [add_assoc] using total

theorem conserved_batchIngest (conserved : Conserved script (service,ingested)) (now : ℤ) (points : List TimeSeriesPoint) :
    Conserved script ((service.batchIngest script now points).1,ingested ++ points) := by
  have pushed : Conserved script
      ({ service with pendingPoints := service.pendingPoints ++ points },ingested ++ points) := by
    obtain ⟨written,underway,taken,flying,total⟩ := conserved
    refine ⟨written,underway,taken,flying,?_⟩
    simp only [List.filter_append,← Multiset.coe_add] at total ⊢
    rw [total,add_assoc]
  unfold MetricsIngestionService.batchIngest
  dsimp only
  split
  · exact conserved_flush pushed now
  · obtain ⟨pending,written,writes⟩ := setBatchTimer_points
      ({ service with pendingPoints := service.pendingPoints ++ points })
    unfold Conserved at pushed ⊢
    rw [pending,written,writes]
    exact pushed

theorem conserved_count (conserved : Conserved script s) :
    (s.2.filter (isValid script)).length =
      s.1.written.length + s.1.writes.flatten.length + (s.1.pendingPoints.filter (isValid script)).length := by
  obtain ⟨written,underway,taken,flying,total⟩ := conserved
  have counted := congrArg Multiset.card total
  have one := Multiset.card_eq_card_of_rel taken
  have two := Multiset.card_eq_card_of_rel flying
  simp only [Multiset.coe_card,Multiset.card_add] at counted one two
  omega

theorem flatten_eraseIdx_perm {batches : List (List α)} (found : batches[index]? = some batch) :
    batches.flatten.Perm (batch ++ (batches.eraseIdx index).flatten) := by
  obtain ⟨inside,rfl⟩ := List.getElem?_eq_some_iff.mp found
  exact (List.getElem_cons_eraseIdx_perm inside).symm.flatten

theorem conserved_written (conserved : Conserved script (service,ingested)) (index : ℕ) :
    Conserved script ((service.writeDone index (.ok ())).1,ingested) := by
  unfold MetricsIngestionService.writeDone
  split
  · exact conserved
  · rename_i batch found
    obtain ⟨written,underway,taken,flying,total⟩ := conserved
    dsimp only at flying
    rw [Multiset.coe_eq_coe.mpr (flatten_eraseIdx_perm found),← Multiset.coe_add,Multiset.rel_add_right] at flying
    obtain ⟨done,remaining,first,second,rfl⟩ := flying
    refine ⟨written + done,remaining,?_,second,?_⟩
    · dsimp only
      rw [← Multiset.coe_add]
      exact taken.add first
    · rw [total]
      dsimp only
      abel

theorem lost_of_failed (loaded : Loaded (service,ingested)) (conserved : Conserved script (service,ingested))
    (inside : index < service.writes.length) :
    ¬ Conserved script ((service.writeDone index (.error message)).1,ingested) := by
  intro after
  have found := List.getElem?_eq_getElem inside
  have before := conserved_count conserved
  have late := conserved_count after
  have lengths := (flatten_eraseIdx_perm found).length_eq
  have full := List.length_pos_iff.mpr (loaded _ (List.getElem_mem inside))
  simp only [MetricsIngestionService.writeDone,found] at late
  rw [List.length_append] at lengths
  dsimp only at before
  omega

theorem loaded_batchIngest (loaded : Loaded (service,ingested)) (now : ℤ) (points : List TimeSeriesPoint) :
    ∀ batch ∈ (service.batchIngest script now points).1.writes, batch ≠ [] := by
  unfold MetricsIngestionService.batchIngest
  dsimp only
  split
  · intro batch member
    rcases (flushBatch_points script _ now).2.2.2 batch member with before | full
    · exact loaded batch before
    · exact full
  · rw [(setBatchTimer_points _).2.2]
    exact loaded

theorem loaded_step (s : MetricsIngestionService × List TimeSeriesPoint) (event : IngestionEvent) (loaded : Loaded s) :
    Loaded (ingesting script s event).1 := by
  cases event with
  | batchIngest now points => exact loaded_batchIngest loaded now points
  | ingest kind now data =>
      intro batch member
      simp only [ingesting,withLedger,ingest_service] at member
      exact loaded_batchIngest loaded now data batch member
  | flush now =>
      intro batch member
      rcases (flushBatch_points script s.1 now).2.2.2 batch member with before | full
      · exact loaded batch before
      · exact full
  | timeout now timer =>
      intro batch member
      simp only [ingesting,withLedger,ingestionStep,MetricsIngestionService.timeout] at member
      split at member
      · rcases (flushBatch_points script _ now).2.2.2 batch member with before | full
        · exact loaded batch before
        · exact full
      · exact loaded batch member
  | writeDone index outcome =>
      intro batch member
      simp only [ingesting,withLedger,ingestionStep,MetricsIngestionService.writeDone] at member
      split at member
      · exact loaded batch member
      · cases outcome <;> exact loaded batch (List.mem_of_mem_eraseIdx member)
  | setBatchSize size => exact loaded

theorem conserved_step_exact (s : MetricsIngestionService × List TimeSeriesPoint) (event : IngestionEvent)
    (loaded : Loaded s) (conserved : Conserved script s) :
    Conserved script (ingesting script s event).1 ↔ ¬ Fails s event := by
  cases event with
  | batchIngest now points => exact iff_of_true (conserved_batchIngest conserved now points) not_false
  | ingest kind now data =>
      refine iff_of_true ?_ not_false
      simp only [ingesting,withLedger,ingest_service]
      exact conserved_batchIngest conserved now data
  | flush now => exact iff_of_true (conserved_flush conserved now) not_false
  | timeout now timer =>
      refine iff_of_true ?_ not_false
      simp only [ingesting,withLedger,ingestionStep,MetricsIngestionService.timeout]
      split
      · have fired : Conserved script
            ({ s.1 with timers := s.1.timers.filter (· ≠ timer) },s.2) := conserved
        exact conserved_flush fired now
      · exact conserved
  | writeDone index outcome =>
      cases outcome with
      | ok _ => exact iff_of_true (conserved_written conserved index) not_false
      | error message =>
          by_cases inside : index < s.1.writes.length
          · exact iff_of_false (lost_of_failed loaded conserved inside) (not_not_intro inside)
          · refine iff_of_true ?_ inside
            simp only [ingesting,withLedger,ingestionStep,MetricsIngestionService.writeDone,
              List.getElem?_eq_none (Nat.not_lt.mp inside)]
            exact conserved
  | setBatchSize size => exact iff_of_true conserved not_false

-- Every run from a new service: the points are accounted for at every moment exactly
-- when no write of the run fails.
theorem points_conserved_exact (script : Script) (batchSize : ℚ) (events : List IngestionEvent) :
    Throughout (ingesting script) (Conserved script) (.create batchSize,[]) events ↔
      Along (ingesting script) (fun s event => ¬ Fails s event) (.create batchSize,[]) events :=
  throughout_exact loaded_step conserved_step_exact (fun _ member => nomatch member)
    ⟨0,0,.zero,.zero,rfl⟩

end Points

-- One point, flushed into a write that fails.
theorem points_lost_by_failed_write :
    ¬ Conserved plainScript (exec (ingesting plainScript) (.create 100,[])
      [.batchIngest 0 [load],.flush 0,.writeDone 0 (.error "timeout")]).1 := by
  intro conserved
  have counted := conserved_count conserved
  revert counted
  decide +kernel

end PhantomFlow.Metrics
