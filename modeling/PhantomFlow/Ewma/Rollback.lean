import PhantomFlow.Ewma.BaselineAdaptationService
import PhantomFlow.Library.Machine

namespace PhantomFlow.Ewma
open Library Library.Machine

-- For every metric the baselines that were adapted and not rolled back, the one in
-- force first; below them the one it started with, if it had one; and what of this was
-- stored.
structure InForce (K : Type) where
  current : String → List (Option K)
  saved : Option (String → List (Option K))

section Levels
variable {K : Type}

def pushed (levels : String → List (Option K)) (metric : String) (baseline : K) : String → List (Option K) :=
  Function.update levels metric (some baseline :: levels metric)

def undone : List (Option K) → List (Option K)
  | _ :: below :: rest => below :: rest
  | stack => stack

theorem undone_short {levels : List (Option K)} (short : levels.length ≤ 1) : undone levels = levels := by
  cases levels with
  | nil => rfl
  | cons top rest =>
      cases rest with
      | nil => rfl
      | cons below others => simp at short

def popped (levels : String → List (Option K)) (metric : String) : String → List (Option K) :=
  Function.update levels metric (undone (levels metric))

def returnable (levels : String → List (Option K)) (metric : String) : Bool := (levels metric)[1]?.join.isSome

def ownEntries (history : List (HistoryEntry K)) (metric : String) : List (HistoryEntry K) :=
  history.filter (fun entry => entry.metric = metric)

-- The metric's newest entry is an adaptation, and the only entry or later than all
-- the others, which are dates like itself.
def undoable (history : List (HistoryEntry K)) (metric : String) : Bool :=
  match (ownEntries history metric).getLast? with
  | none => false
  | some last => decide (last.reason ≠ rollbackReason) &&
    (ownEntries history metric).dropLast.all (fun entry => entry.timestamp.precedes last.timestamp)

structure Unwinds (baselines : OrderedMap String K) (history : List (HistoryEntry K))
    (levels : String → List (Option K)) : Prop where
  current : ∀ metric, (levels metric).head? = some (baselines.get metric)
  undo : ∀ metric last, (ownEntries history metric).getLast? = some last → last.reason ≠ rollbackReason →
    ∃ top below rest, levels metric = top :: below :: rest ∧ ∀ old, below = some old → last.oldBaseline = old
  filled : baselines.size ≠ 0

theorem filled_of_get {baselines : OrderedMap String K} (found : baselines.get metric = some baseline) :
    baselines.size ≠ 0 := by
  intro empty
  have member := (OrderedMap.get_exact _ _ _).mp found
  rw [List.length_eq_zero_iff.mp empty] at member
  cases member

theorem ownEntries_snoc (history : List (HistoryEntry K)) (entry : HistoryEntry K) (metric : String) :
    ownEntries (history ++ [entry]) metric =
      if entry.metric = metric then ownEntries history metric ++ [entry] else ownEntries history metric := by
  unfold ownEntries
  rw [List.filter_append]
  split
  · rename_i same
    simp [same]
  · rename_i other
    simp [other]

theorem getLast_lastEntries (count : ℕ) (history : List (HistoryEntry K)) (metric : String)
    (found : (ownEntries (lastEntries count history) metric).getLast? = some last) :
    (ownEntries history metric).getLast? = some last := by
  have split : ownEntries history metric =
      ownEntries (history.take (history.length - count)) metric ++ ownEntries (lastEntries count history) metric := by
    unfold ownEntries lastEntries
    rw [← List.filter_append,List.take_append_drop]
  have present : ownEntries (lastEntries count history) metric ≠ [] := by
    intro empty
    rw [empty] at found
    cases found
  rw [split,List.getLast?_append_of_ne_nil _ present]
  exact found

theorem getLast_recorded (count : ℕ) (history : List (HistoryEntry K)) (entry : HistoryEntry K) (metric : String)
    (found : (ownEntries (lastEntries count (history ++ [entry])) metric).getLast? = some last) :
    entry.metric = metric ∧ last = entry ∨
      entry.metric ≠ metric ∧ (ownEntries history metric).getLast? = some last := by
  have newest := getLast_lastEntries _ _ _ found
  rw [ownEntries_snoc] at newest
  by_cases same : entry.metric = metric
  · rw [if_pos same,List.getLast?_concat] at newest
    cases newest
    exact Or.inl ⟨same,rfl⟩
  · rw [if_neg same] at newest
    exact Or.inr ⟨same,newest⟩

variable {baselines : OrderedMap String K} {history : List (HistoryEntry K)} {levels : String → List (Option K)}

theorem current_set (current : ∀ metric, (levels metric).head? = some (baselines.get metric)) (metric : String)
    (replaced : replacement.head? = some (some baseline)) (other : String) :
    (Function.update levels metric replacement other).head? = some ((baselines.set metric baseline).get other) := by
  rw [OrderedMap.get_set]
  by_cases same : other = metric
  · subst other
    rw [if_pos rfl,Function.update_self,replaced]
  · rw [if_neg same,Function.update_of_ne same]
    exact current other

-- The metric may be a new one. Then there is no baseline to go back to.
theorem unwinds_adapt (unwinds : Unwinds baselines history levels)
    (replaced : ∀ baseline, baselines.get metric = some baseline → old = baseline)
    (stamp : Stamp) (new : K) (reason : String) (confidence : JsNumber K) :
    Unwinds (baselines.set metric new)
      (lastEntries 1000 (history ++ [⟨stamp,metric,old,new,reason,confidence⟩])) (pushed levels metric new) := by
  refine ⟨current_set unwinds.current metric rfl,fun other last found adaptation => ?_,
    filled_of_get (OrderedMap.get_set_self _ metric new)⟩
  rcases getLast_recorded _ _ _ _ found with ⟨rfl,rfl⟩ | ⟨different,newest⟩
  · obtain ⟨rest,stack⟩ := List.head?_eq_some_iff.mp (unwinds.current metric)
    exact ⟨some new,baselines.get metric,rest,by rw [pushed,Function.update_self,stack],replaced⟩
  · rw [pushed,Function.update_of_ne different.symm]
    exact unwinds.undo other last newest adaptation

theorem unwinds_rollback (unwinds : Unwinds baselines history levels) (possible : returnable levels metric = true)
    (newest : (ownEntries history metric).getLast? = some last) (adaptation : last.reason ≠ rollbackReason)
    (stamp : Stamp) (current : K) (confidence : JsNumber K) :
    Unwinds (baselines.set metric last.oldBaseline)
      (lastEntries 1000 (history ++ [⟨stamp,metric,current,last.oldBaseline,rollbackReason,confidence⟩]))
      (popped levels metric) := by
  obtain ⟨top,below,rest,stack,recorded⟩ := unwinds.undo metric last newest adaptation
  have under : (undone (levels metric)).head? = some (some last.oldBaseline) := by
    rw [returnable,stack] at possible
    obtain ⟨old,rfl⟩ := Option.isSome_iff_exists.mp possible
    rw [stack,recorded old rfl]
    rfl
  refine ⟨current_set unwinds.current metric under,fun other final found further => ?_,
    filled_of_get (OrderedMap.get_set_self _ metric _)⟩
  rcases getLast_recorded _ _ _ _ found with ⟨rfl,rfl⟩ | ⟨different,newest'⟩
  · exact absurd rfl further
  · rw [popped,Function.update_of_ne different.symm]
    exact unwinds.undo other final newest' further

theorem unwinds_set (unwinds : Unwinds baselines history levels) (metric : String) (baseline : K) :
    Unwinds (baselines.set metric baseline) history
      (Function.update levels metric (some baseline :: (levels metric).tail)) := by
  refine ⟨current_set unwinds.current metric rfl,fun other last found adaptation => ?_,
    filled_of_get (OrderedMap.get_set_self _ metric baseline)⟩
  obtain ⟨top,below,rest,stack,recorded⟩ := unwinds.undo other last found adaptation
  by_cases same : other = metric
  · subst other
    exact ⟨some baseline,below,rest,by rw [Function.update_self,stack]; rfl,recorded⟩
  · exact ⟨top,below,rest,by rw [Function.update_of_ne same,stack],recorded⟩

theorem unwinds_persisted (unwinds : Unwinds baselines history levels) (count : ℕ) :
    Unwinds baselines ((lastEntries count history).map (fun entry =>
      { entry with timestamp := entry.timestamp.throughJson })) levels := by
  refine ⟨unwinds.current,fun metric last found adaptation => ?_,unwinds.filled⟩
  have own : ownEntries ((lastEntries count history).map (fun entry =>
      { entry with timestamp := entry.timestamp.throughJson })) metric =
      (ownEntries (lastEntries count history) metric).map (fun entry =>
        { entry with timestamp := entry.timestamp.throughJson }) := by
    unfold ownEntries
    rw [List.filter_map]
    rfl
  rw [own,List.getLast?_map,Option.map_eq_some_iff] at found
  obtain ⟨before,newest,rfl⟩ := found
  exact unwinds.undo metric before (getLast_lastEntries _ _ _ newest) adaptation

end Levels

section Service
variable {K : Type} [Field K] {service : BaselineAdaptationService K}

-- The sort finds the newest adaptation.
omit [Field K] in
theorem recentAdaptations_undoable (possible : undoable service.adaptationHistory metric = true) :
    ∃ last rest, (ownEntries service.adaptationHistory metric).getLast? = some last ∧
      last.reason ≠ rollbackReason ∧ service.recentAdaptations metric = .ok (last :: rest) := by
  unfold undoable at possible
  cases newest : (ownEntries service.adaptationHistory metric).getLast? with
  | none => rw [newest] at possible; cases possible
  | some last =>
      rw [newest] at possible
      simp only [Bool.and_eq_true,decide_eq_true_iff,List.all_eq_true] at possible
      obtain ⟨adaptation,earlier⟩ := possible
      obtain ⟨before,own⟩ := List.getLast?_eq_some_iff.mp newest
      rw [own,List.dropLast_concat] at earlier
      have dates : ∀ entry ∈ before, entry.timestamp.isText = false ∧ last.timestamp.isText = false ∧
          entry.timestamp.time < last.timestamp.time :=
        fun entry member => Stamp.precedes_dates (earlier entry member)
      have comparable : ¬ (2 ≤ (before ++ [last]).length ∧
          (before ++ [last]).any (fun entry => entry.timestamp.isText) = true) := by
        intro incomparable
        rcases incomparable with ⟨several,text⟩
        obtain ⟨entry,member,isText⟩ := List.any_eq_true.mp text
        rcases List.mem_append.mp member with old | new
        · rw [(dates entry old).1] at isText
          cases isText
        · cases before with
          | nil => simp at several
          | cons first rest =>
              rw [List.mem_singleton.mp new,(dates first (by simp)).2.1] at isText
              cases isText
      have none : before.filter (fun entry => decide (last.timestamp.time ≤ entry.timestamp.time)) = [] := by
        rw [List.filter_eq_nil_iff]
        intro entry member
        have older := (dates entry member).2.2
        simp only [decide_eq_true_iff]
        omega
      have sorted : ∃ rest, service.recentAdaptations metric = .ok (last :: rest) := by
        unfold BaselineAdaptationService.recentAdaptations
        dsimp only
        unfold ownEntries at own
        rw [own,if_neg comparable,sortByScore_snoc,none]
        exact ⟨_,rfl⟩
      obtain ⟨rest,recent⟩ := sorted
      exact ⟨last,rest,rfl,adaptation,recent⟩

theorem rollbackAdaptation_undoable (possible : undoable service.adaptationHistory metric = true) (now : ℤ) (current : K) :
    ∃ last rolledBack result, (ownEntries service.adaptationHistory metric).getLast? = some last ∧
      last.reason ≠ rollbackReason ∧
      service.rollbackAdaptation now metric current = .ok (rolledBack,result) ∧
      rolledBack.config = service.config ∧
      rolledBack.baselines = service.baselines.set metric last.oldBaseline ∧
      rolledBack.adaptationHistory = lastEntries 1000 (service.adaptationHistory ++
        [⟨.date now,metric,current,last.oldBaseline,rollbackReason,.finite 1⟩]) := by
  obtain ⟨last,rest,newest,adaptation,recent⟩ := recentAdaptations_undoable possible
  unfold BaselineAdaptationService.rollbackAdaptation
  rw [recent]
  refine ⟨last,_,_,newest,adaptation,rfl,?_⟩
  simp only [BaselineAdaptationService.recordAdaptation,BaselineAdaptationService.setBaseline,and_self]

theorem rollbackAdaptation_none (none : ownEntries service.adaptationHistory metric = []) (now : ℤ) (current : K) :
    service.rollbackAdaptation now metric current = .error (.noHistory metric) := by
  unfold ownEntries at none
  unfold BaselineAdaptationService.rollbackAdaptation BaselineAdaptationService.recentAdaptations
  dsimp only
  rw [none]
  rfl

variable [LinearOrder K] [FloorRing K]

def undoableEntries (clock : String → ℤ) (service : BaselineAdaptationService K) (levels : String → List (Option K)) :
    List (String × Validation K) → Bool
  | [] => true
  | (metric,validation) :: rest =>
    if BaselineAdaptationService.failsValidation service.config (clock metric) validation then
      undoable service.adaptationHistory metric && returnable levels metric &&
        match service.rollbackAdaptation (clock metric) metric validation.adaptedBaseline with
        | .ok rolledBack => undoableEntries clock rolledBack.1 (popped levels metric) rest
        | .error _ => true
    else if validation.validationEnd < clock metric then
      undoableEntries clock (service.markValidated metric validation) levels rest
    else undoableEntries clock service levels rest

def poppedEntries (config : BaselineAdaptation K) (clock : String → ℤ) (levels : String → List (Option K))
    (entries : List (String × Validation K)) : String → List (Option K) :=
  entries.foldl (fun levels entry =>
    if BaselineAdaptationService.failsValidation config (clock entry.1) entry.2 = true then popped levels entry.1 else levels) levels

omit [FloorRing K] in
theorem validateEntries_unwinds (clock : String → ℤ) (entries : List (String × Validation K)) (service : BaselineAdaptationService K)
    (report : ValidationReport) {levels : String → List (Option K)}
    (unwinds : Unwinds service.baselines service.adaptationHistory levels)
    (possible : undoableEntries clock service levels entries = true) :
    let validated := (service.validateEntries clock report entries).1
    Unwinds validated.baselines validated.adaptationHistory (poppedEntries service.config clock levels entries) := by
  induction entries generalizing service report levels with
  | nil => exact unwinds
  | cons entry rest ih =>
      obtain ⟨metric,validation⟩ := entry
      unfold BaselineAdaptationService.validateEntries
      simp only [poppedEntries,List.foldl_cons]
      unfold undoableEntries at possible
      split
      · rename_i fails
        rw [if_pos fails,Bool.and_eq_true,Bool.and_eq_true] at possible
        obtain ⟨last,rolledBack,result,newest,adaptation,done,config,baselines,history⟩ :=
          rollbackAdaptation_undoable possible.1.1 (clock metric) validation.adaptedBaseline
        have next := possible.2
        rw [done] at next
        rw [done,← config]
        apply ih rolledBack _ _ next
        rw [baselines,history]
        exact unwinds_rollback unwinds possible.1.2 newest adaptation _ _ _
      · rename_i passes
        rw [if_neg passes] at possible
        split
        · rename_i ended
          rw [if_pos ended] at possible
          exact ih (service.markValidated metric validation) _ unwinds possible
        · rename_i running
          rw [if_neg running] at possible
          exact ih service _ unwinds possible

theorem unwinds_applyAdaptation (unwinds : Unwinds service.baselines service.adaptationHistory levels)
    (replaced : ∀ baseline, service.baselines.get metric = some baseline → old = baseline) (now : ℤ) (new : K)
    (reason : String) (confidence : JsNumber K) :
    let adapted := (service.applyAdaptation now metric old new reason confidence).1
    Unwinds adapted.baselines adapted.adaptationHistory (pushed levels metric new) := by
  simp only [BaselineAdaptationService.applyAdaptation,BaselineAdaptationService.startValidationPeriod,
    BaselineAdaptationService.recordAdaptation,BaselineAdaptationService.setBaseline]
  exact unwinds_adapt unwinds replaced (.date now) new reason confidence

omit [FloorRing K] in
theorem orElse_known (fallback : K) (known : value = some old) (nonzero : old ≠ 0 ∨ fallback = 0) :
    orElse value fallback = old := by
  subst known
  unfold orElse
  dsimp only
  split
  · rename_i zero
    rcases nonzero with other | same
    · exact absurd zero other
    · rw [same,zero]
  · rfl

def startingLevels (metric : String) : List (Option K) := [(defaultBaselines (K:=K)).get metric]

omit [LinearOrder K] [FloorRing K] in
theorem unwinds_defaults : Unwinds (defaultBaselines (K:=K)) [] startingLevels := by
  have listed : (defaultBaselines (K:=K)).get "request_rate" = some (lit 100) := rfl
  refine ⟨fun metric => rfl,?_,filled_of_get listed⟩
  intro _ _ found
  cases found

omit [LinearOrder K] [FloorRing K] in
theorem initializeDefaultBaselines_empty (service : BaselineAdaptationService K) (empty : service.baselines = .empty) :
    service.initializeDefaultBaselines.baselines = defaultBaselines := by
  unfold BaselineAdaptationService.initializeDefaultBaselines
  rw [empty]
  exact OrderedMap.ofList_entries _

def SavedUnwinds : Option (PersistedBaselines K) → Option (String → List (Option K)) → Prop
  | some image,some levels => Unwinds image.baselines image.history levels
  | none,none => True
  | _,_ => False

omit [LinearOrder K] [FloorRing K] in
theorem unwinds_startUp (config : BaselineAdaptation K) (saved : SavedUnwinds stored levels) :
    let started := (BaselineAdaptationService.create config).startUp stored
    Unwinds started.baselines started.adaptationHistory (levels.getD startingLevels) := by
  unfold BaselineAdaptationService.startUp BaselineAdaptationService.loadBaselinesFromPersistence
  cases stored with
  | none =>
      cases levels with
      | some _ => cases saved
      | none =>
          have defaults := initializeDefaultBaselines_empty (BaselineAdaptationService.create config) rfl
          have started : Unwinds (BaselineAdaptationService.create config).initializeDefaultBaselines.baselines []
              (startingLevels (K:=K)) := by
            rw [defaults]
            exact unwinds_defaults
          exact started
  | some image =>
      cases levels with
      | none => cases saved
      | some levels =>
          have unwinds : Unwinds image.baselines image.history levels := saved
          dsimp only
          rw [if_neg unwinds.filled]
          exact unwinds

end Service

section Runs
variable {K : Type} [Field K] [LinearOrder K] [FloorRing K]

def isActive (service : BaselineAdaptationService K) : Bool := service.isInitialized && service.config.enabled

def recommended (service : BaselineAdaptationService K) (metric : String) (dataPoint : DataPoint K)
    (ewma : Option (K × TrendDirection)) : Recommendation :=
  if isActive service then (service.recommendationFor metric dataPoint ewma).recommendation else .monitor

def recordForce (s : BaselineSystem K × InForce K) : BaselineEvent K → InForce K
  | .processDataPoint _ metric dataPoint ewma =>
    match recommended s.1.service metric dataPoint ewma with
    | .adapt =>
      let currentBaseline := orElse (s.1.service.baselines.get metric) dataPoint.value
      { s.2 with current := pushed s.2.current metric (s.1.service.adaptedTo currentBaseline dataPoint.value) }
    | .rollback => { s.2 with current := popped s.2.current metric }
    | .monitor => s.2
  | .forceAdaptation _ metric newBaseline _ => { s.2 with current := pushed s.2.current metric newBaseline }
  | .validateAdaptations clock =>
    { s.2 with current := poppedEntries s.1.service.config clock s.2.current s.1.service.validationData.entries }
  | .setBaseline metric baseline =>
    { s.2 with current := Function.update s.2.current metric (some baseline :: (s.2.current metric).tail) }
  | .reset => { s.2 with current := startingLevels }
  | .shutdown => { s.2 with saved := some s.2.current }
  | .restart => { s.2 with current := s.2.saved.getD startingLevels }
  | .expire => { s.2 with saved := none }

def adapting (s : BaselineSystem K × InForce K) (event : BaselineEvent K) :
    (BaselineSystem K × InForce K) × BaselineReply K :=
  (((baselineStep s.1 event).1,recordForce s event),(baselineStep s.1 event).2)

-- No data point adapts a baseline of zero, and a rollback finds the adaptation it undoes
-- and a baseline below it, or there is nothing to undo.
def Admits (s : BaselineSystem K × InForce K) : BaselineEvent K → Prop
  | .processDataPoint _ metric dataPoint ewma =>
    (recommended s.1.service metric dataPoint ewma = .adapt → s.1.service.baselines.get metric ≠ some 0) ∧
    (recommended s.1.service metric dataPoint ewma = .rollback →
      undoable s.1.service.adaptationHistory metric = true ∧ returnable s.2.current metric = true ∨
        (ownEntries s.1.service.adaptationHistory metric).length = 0 ∧ (s.2.current metric).length ≤ 1)
  | .validateAdaptations clock =>
    undoableEntries clock s.1.service s.2.current s.1.service.validationData.entries = true
  | _ => True

instance (s : BaselineSystem K × InForce K) : (event : BaselineEvent K) → Decidable (Admits s event)
  | .processDataPoint _ metric dataPoint ewma =>
    inferInstanceAs (Decidable ((recommended s.1.service metric dataPoint ewma = .adapt → _ ≠ _) ∧
      (recommended s.1.service metric dataPoint ewma = .rollback → _ = true ∧ _ = true ∨ _ = 0 ∧ _ ≤ 1)))
  | .validateAdaptations clock =>
    inferInstanceAs (Decidable (undoableEntries clock s.1.service s.2.current s.1.service.validationData.entries = true))
  | .forceAdaptation _ _ _ _ | .setBaseline _ _ | .reset | .shutdown | .restart | .expire =>
    inferInstanceAs (Decidable True)

def Restored (s : BaselineSystem K × InForce K) : Prop :=
  ∀ metric, (s.2.current metric).head? = some (s.1.service.getBaseline metric)

structure Unwinding (s : BaselineSystem K × InForce K) : Prop where
  live : Unwinds s.1.service.baselines s.1.service.adaptationHistory s.2.current
  saved : SavedUnwinds s.1.stored s.2.saved

theorem processDataPoint_unwinds (s : BaselineSystem K × InForce K) (now : ℤ) (metric : String) (dataPoint : DataPoint K)
    (ewma : Option (K × TrendDirection)) (live : Unwinds s.1.service.baselines s.1.service.adaptationHistory s.2.current)
    (admits : Admits s (.processDataPoint now metric dataPoint ewma)) :
    let processed := (s.1.service.processDataPoint now metric dataPoint ewma).1
    Unwinds processed.baselines processed.adaptationHistory
      (recordForce s (.processDataPoint now metric dataPoint ewma)).current := by
  have inactive : isActive s.1.service = false ↔
      s.1.service.isInitialized = false ∨ s.1.service.config.enabled = false := Bool.and_eq_false_iff
  obtain ⟨known,possible⟩ := admits
  simp only [recordForce]
  unfold BaselineAdaptationService.processDataPoint
  split
  · rename_i off
    have passive : recommended s.1.service metric dataPoint ewma = .monitor := by
      rw [recommended,inactive.mpr off]
      rfl
    rw [passive]
    exact live
  · rename_i on
    have active : recommended s.1.service metric dataPoint ewma =
        (s.1.service.recommendationFor metric dataPoint ewma).recommendation := by
      rw [← inactive,Bool.not_eq_false] at on
      rw [recommended,if_pos on]
    rw [active] at known possible ⊢
    dsimp only
    cases recommendation : (s.1.service.recommendationFor metric dataPoint ewma).recommendation with
    | adapt =>
        have replaced : ∀ baseline, s.1.service.baselines.get metric = some baseline →
            orElse (s.1.service.baselines.get metric) dataPoint.value = baseline := by
          intro baseline found
          refine orElse_known dataPoint.value found (Or.inl ?_)
          rintro rfl
          exact known recommendation found
        simp only [BaselineAdaptationService.adaptBaseline]
        exact unwinds_applyAdaptation live replaced now _ _ _
    | rollback =>
        dsimp only
        rcases possible recommendation with ⟨undo,below⟩ | ⟨nothing,short⟩
        · obtain ⟨last,rolledBack,result,newest,adaptation,done,_,baselines,history⟩ :=
            rollbackAdaptation_undoable undo now (orElse (s.1.service.baselines.get metric) dataPoint.value)
          rw [done]
          dsimp only
          rw [baselines,history]
          exact unwinds_rollback live below newest adaptation _ _ _
        · rw [rollbackAdaptation_none (List.length_eq_zero_iff.mp nothing)]
          have unchanged : popped s.2.current metric = s.2.current := by
            rw [popped,undone_short short,Function.update_eq_self]
          rw [unchanged]
          exact live
    | monitor =>
        dsimp only
        unfold BaselineAdaptationService.updateValidationData
        split
        · exact live
        · dsimp only
          split
          · exact live
          · exact live

theorem unwinding_step (s : BaselineSystem K × InForce K) (event : BaselineEvent K) (unwinding : Unwinding s)
    (admits : Admits s event) : Unwinding (adapting s event).1 := by
  obtain ⟨live,saved⟩ := unwinding
  cases event with
  | processDataPoint now metric dataPoint ewma =>
      refine ⟨processDataPoint_unwinds s now metric dataPoint ewma live admits,?_⟩
      simp only [adapting,baselineStep,recordForce]
      split <;> exact saved
  | forceAdaptation now metric newBaseline reason =>
      refine ⟨?_,saved⟩
      simp only [adapting,baselineStep,BaselineAdaptationService.forceAdaptation]
      exact unwinds_applyAdaptation live (fun baseline known => orElse_known 0 known (Or.inr rfl)) now _ _ _
  | validateAdaptations clock =>
      exact ⟨validateEntries_unwinds clock _ s.1.service ⟨[],[],[]⟩ live admits,saved⟩
  | setBaseline metric baseline => exact ⟨unwinds_set live metric baseline,saved⟩
  | reset =>
      refine ⟨?_,saved⟩
      have defaults := initializeDefaultBaselines_empty (
        { s.1.service with baselines := .empty, adaptationHistory := [], validationData := .empty }) rfl
      simp only [adapting,baselineStep,BaselineAdaptationService.reset,defaults]
      exact unwinds_defaults
  | shutdown => exact ⟨live,unwinds_persisted live 100⟩
  | restart => exact ⟨unwinds_startUp s.1.service.config saved,saved⟩
  | expire => exact ⟨live,trivial⟩

-- Every run in which rollbacks find their adaptation and a baseline below it: the
-- baselines are at every moment the ones in force.
theorem rollback_unwinds (config : BaselineAdaptation K) (events : List (BaselineEvent K))
    (admitted : Along adapting Admits (baselineSystem config,⟨startingLevels,none⟩) events) :
    Throughout adapting Restored (baselineSystem config,⟨startingLevels,none⟩) events := by
  have nothing : SavedUnwinds (none : Option (PersistedBaselines K)) none := trivial
  have start : Unwinding (baselineSystem config,⟨startingLevels,none⟩) := ⟨unwinds_startUp config nothing,nothing⟩
  exact (throughout_of_along unwinding_step start admitted).mono (fun _ unwinding => unwinding.live.current)

end Runs
def watchful : BaselineAdaptation ℚ := ⟨true,1/2,1,60,1/2⟩

def readingOf (value : ℚ) : DataPoint ℚ := ⟨value,0⟩

-- A metric without a default, adapted twice, rolled back by a reading half off the
-- baseline, adapted once more and rolled back again.
theorem rollback_unwinds_alternating :
    let events := [.forceAdaptation 1 "queue_length" 200 "load",.forceAdaptation 2 "queue_length" 300 "load",
      .processDataPoint 3 "queue_length" (readingOf 0) (some (480,.stable)),
      .forceAdaptation 4 "queue_length" 400 "load",
      .processDataPoint 5 "queue_length" (readingOf 0) (some (640,.stable))]
    (exec adapting (baselineSystem watchful,⟨startingLevels,none⟩) events).1.1.service.getBaseline "queue_length" =
      some 200 := by
  intro events
  have restored := (rollback_unwinds watchful events (by decide +kernel)).final
  have level : ((exec adapting (baselineSystem watchful,⟨startingLevels,none⟩) events).1.2.current "queue_length").head? =
      some (some 200) := by decide +kernel
  exact Option.some.inj ((restored "queue_length").symm.trans level)

-- Two rollbacks in a row: the second brings the adapted baseline back.
theorem rollback_restores_rolled_back :
    ¬ Restored (exec adapting (baselineSystem watchful,⟨startingLevels,none⟩)
      [.forceAdaptation 1 "request_rate" 200 "load",.forceAdaptation 2 "request_rate" 300 "load",
        .processDataPoint 3 "request_rate" (readingOf 0) (some (480,.stable)),
        .processDataPoint 4 "request_rate" (readingOf 0) (some (320,.stable))]).1 := by
  intro restored
  have rate := restored "request_rate"
  revert rate
  decide +kernel

end PhantomFlow.Ewma
