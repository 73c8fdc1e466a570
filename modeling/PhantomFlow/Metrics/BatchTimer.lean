import PhantomFlow.Metrics.MetricsIngestionService

namespace PhantomFlow.Metrics
open Library Library.Machine

-- Points wait, no write is under way, and yet a timer will come for them.
def Attended (service : MetricsIngestionService) : Prop :=
  service.pendingPoints ≠ [] → service.writes = [] → service.timers ≠ []

def Offered (script : Script) (service : MetricsIngestionService) : Prop :=
  service.pendingPoints ≠ [] → ∃ timer ∈ service.timers, ∀ now,
    let fired := (ingestionStep script service (.timeout now timer)).1
    fired.pendingPoints = [] ∧
      fired.writes.flatten = service.writes.flatten ++ (validatePoints script now service.pendingPoints).1

def FindsPoints (service : MetricsIngestionService) : IngestionEvent → Prop
  | .timeout _ timer => timer ∈ service.timers → service.pendingPoints ≠ []
  | _ => True

instance (service : MetricsIngestionService) : (event : IngestionEvent) → Decidable (FindsPoints service event)
  | .timeout _ timer => inferInstanceAs (Decidable (timer ∈ service.timers → service.pendingPoints ≠ []))
  | .batchIngest _ _ | .ingest _ _ _ | .flush _ | .writeDone _ _ | .setBatchSize _ => inferInstanceAs (Decidable True)

-- The stored handle is a live timer, and it is there whenever points wait.
structure Armed (service : MetricsIngestionService) : Prop where
  live : ∀ timer, service.batchTimer = some timer → timer ∈ service.timers
  waiting : service.pendingPoints ≠ [] → service.batchTimer ≠ none

def Single (service : MetricsIngestionService) : Prop := ∀ timer ∈ service.timers, service.batchTimer = some timer

section Steps
variable {script : Script} {service : MetricsIngestionService}

theorem flushBatch_disarms (script : Script) (service : MetricsIngestionService) (points : service.pendingPoints ≠ [])
    (now : ℤ) :
    (service.flushBatch script now).1.pendingPoints = [] ∧ (service.flushBatch script now).1.batchTimer = none := by
  have cleared : service.clearBatchTimer.batchTimer = none := by
    unfold MetricsIngestionService.clearBatchTimer
    split
    · rename_i unset
      exact unset
    · rfl
  unfold MetricsIngestionService.flushBatch
  rw [if_neg (fun empty => points (List.length_eq_zero_iff.mp empty))]
  dsimp only
  split <;> exact ⟨rfl,cleared⟩

theorem flushBatch_empty (empty : service.pendingPoints = []) (now : ℤ) :
    (service.flushBatch script now).1 = service := by
  unfold MetricsIngestionService.flushBatch
  rw [if_pos (by rw [empty]; rfl)]

theorem armed_of_disarmed (pending : service.pendingPoints = []) (timer : service.batchTimer = none) : Armed service := by
  refine ⟨fun _ set => ?_,fun points => absurd pending points⟩
  rw [timer] at set
  cases set

theorem armed_flush (armed : Armed service) (now : ℤ) : Armed (service.flushBatch script now).1 := by
  by_cases empty : service.pendingPoints = []
  · rw [flushBatch_empty empty]
    exact armed
  · obtain ⟨pending,timer⟩ := flushBatch_disarms script service empty now
    exact armed_of_disarmed pending timer

theorem armed_batchIngest (armed : Armed service) (now : ℤ) (points : List TimeSeriesPoint) :
    Armed (service.batchIngest script now points).1 := by
  unfold MetricsIngestionService.batchIngest
  dsimp only
  split
  · by_cases empty : service.pendingPoints ++ points = []
    · rw [flushBatch_empty empty]
      exact ⟨armed.live,fun some => absurd empty some⟩
    · obtain ⟨pending,timer⟩ := flushBatch_disarms script
        { service with pendingPoints := service.pendingPoints ++ points } empty now
      exact armed_of_disarmed pending timer
  · unfold MetricsIngestionService.setBatchTimer
    split
    · rename_i timer set
      refine ⟨armed.live,fun _ unset => ?_⟩
      rw [set] at unset
      cases unset
    · refine ⟨fun timer set => ?_,fun _ unset => nomatch unset⟩
      cases set
      exact List.mem_append_right _ (List.mem_singleton_self _)

theorem armed_step (service : MetricsIngestionService) (event : IngestionEvent) (armed : Armed service)
    (finds : FindsPoints service event) : Armed (ingestionStep script service event).1 := by
  cases event with
  | batchIngest now points => exact armed_batchIngest armed now points
  | ingest kind now data =>
      rw [ingest_service]
      exact armed_batchIngest armed now data
  | flush now => exact armed_flush armed now
  | timeout now timer =>
      simp only [ingestionStep,MetricsIngestionService.timeout]
      split
      · rename_i live
        obtain ⟨pending,handle⟩ := flushBatch_disarms script
          { service with timers := service.timers.filter (· ≠ timer) } (finds live) now
        exact armed_of_disarmed pending handle
      · exact armed
  | writeDone index outcome =>
      simp only [ingestionStep,MetricsIngestionService.writeDone]
      split
      · exact armed
      · cases outcome <;> exact ⟨armed.live,armed.waiting⟩
  | setBatchSize size => exact ⟨armed.live,armed.waiting⟩

theorem single_flush (single : Single service) (now : ℤ) : Single (service.flushBatch script now).1 := by
  have cleared : service.clearBatchTimer.timers = [] := by
    unfold MetricsIngestionService.clearBatchTimer
    split
    · rename_i unset
      refine List.eq_nil_iff_forall_not_mem.mpr (fun timer live => ?_)
      rw [single timer live] at unset
      cases unset
    · rename_i handle set
      refine List.filter_eq_nil_iff.mpr (fun timer live => ?_)
      have same := set.symm.trans (single timer live)
      cases same
      simp
  unfold MetricsIngestionService.flushBatch
  split
  · exact single
  · dsimp only
    split
    · intro timer live
      exact nomatch cleared ▸ live
    · intro timer live
      exact nomatch cleared ▸ live

theorem single_batchIngest (single : Single service) (now : ℤ) (points : List TimeSeriesPoint) :
    Single (service.batchIngest script now points).1 := by
  unfold MetricsIngestionService.batchIngest
  dsimp only
  split
  · have pushed : Single { service with pendingPoints := service.pendingPoints ++ points } := single
    exact single_flush pushed now
  · unfold MetricsIngestionService.setBatchTimer
    split
    · exact single
    · rename_i unset
      intro timer live
      rcases List.mem_append.mp live with before | new
      · have set := single timer before
        dsimp only at unset
        rw [unset] at set
        cases set
      · rw [List.mem_singleton.mp new]

theorem single_step (service : MetricsIngestionService) (event : IngestionEvent) (single : Single service) :
    Single (ingestionStep script service event).1 := by
  cases event with
  | batchIngest now points => exact single_batchIngest single now points
  | ingest kind now data =>
      rw [ingest_service]
      exact single_batchIngest single now data
  | flush now => exact single_flush single now
  | timeout now timer =>
      simp only [ingestionStep,MetricsIngestionService.timeout]
      split
      · have fired : Single { service with timers := service.timers.filter (· ≠ timer) } :=
          fun other live => single other (List.mem_of_mem_filter live)
        exact single_flush fired now
      · exact single
  | writeDone index outcome =>
      simp only [ingestionStep,MetricsIngestionService.writeDone]
      split
      · exact single
      · cases outcome <;> exact single
  | setBatchSize size => exact single

theorem stale_after_timeout (single : Single service) (live : timer ∈ service.timers)
    (empty : service.pendingPoints = []) : ¬ Armed (ingestionStep script service (.timeout now timer)).1 := by
  intro armed
  have fired : (ingestionStep script service (.timeout now timer)).1 =
      { service with timers := service.timers.filter (· ≠ timer) } := by
    simp only [ingestionStep,MetricsIngestionService.timeout,if_pos live]
    have still : ({ service with timers := service.timers.filter (· ≠ timer) } : MetricsIngestionService).pendingPoints =
        [] := empty
    exact flushBatch_empty still now
  rw [fired] at armed
  have still := armed.live timer (single timer live)
  simp at still

theorem armed_step_exact (service : MetricsIngestionService) (event : IngestionEvent) (single : Single service)
    (armed : Armed service) : Armed (ingestionStep script service event).1 ↔ FindsPoints service event := by
  refine ⟨fun after => ?_,armed_step service event armed⟩
  cases event with
  | timeout now timer => exact fun live empty => stale_after_timeout single live empty after
  | batchIngest now points => trivial
  | ingest kind now data => trivial
  | flush now => trivial
  | writeDone index outcome => trivial
  | setBatchSize size => trivial

theorem offered_of_armed (script : Script) (armed : Armed service) : Offered script service := by
  intro points
  obtain ⟨timer,set⟩ := Option.ne_none_iff_exists'.mp (armed.waiting points)
  have live := armed.live timer set
  refine ⟨timer,live,fun now => ?_⟩
  simp only [ingestionStep,MetricsIngestionService.timeout,if_pos live]
  obtain ⟨pending,_,writes,_⟩ := flushBatch_points script
    { service with timers := service.timers.filter (· ≠ timer) } now
  exact ⟨pending,writes⟩

end Steps

-- Every run from a new service in which no timer fires on an empty buffer: waiting
-- points have a live timer, and its firing offers them all. The stored handle stays
-- live in no other run.
theorem batch_timer_lives_exact (script : Script) (batchSize : ℚ) (events : List IngestionEvent) :
    (Along (ingestionStep script) FindsPoints (.create batchSize) events →
      Throughout (ingestionStep script) (fun service => Attended service ∧ Offered script service)
        (.create batchSize) events) ∧
    (Throughout (ingestionStep script) Armed (.create batchSize) events ↔
      Along (ingestionStep script) FindsPoints (.create batchSize) events) := by
  have start : Armed (.create batchSize) := armed_of_disarmed rfl rfl
  refine ⟨fun finds => ?_,throughout_exact single_step armed_step_exact (fun _ live => nomatch live) start⟩
  refine (throughout_of_along armed_step start finds).mono (fun service armed => ⟨?_,offered_of_armed script armed⟩)
  intro points _ none
  obtain ⟨timer,live,_⟩ := offered_of_armed script armed points
  rw [none] at live
  cases live

-- An empty batch arms the timer, the timer finds nothing, and the next point waits
-- for good.
theorem batch_timer_dies :
    ¬ Attended (exec (ingestionStep plainScript) (.create 100)
      [.batchIngest 0 [],.timeout 5000 0,.batchIngest 6000 [load]]).1 := by
  unfold Attended
  decide +kernel

end PhantomFlow.Metrics
