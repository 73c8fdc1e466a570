import PhantomFlow.Frequency.AnomalyDetector

namespace PhantomFlow.Frequency
open Library Library.Machine SketchAnomalyDetector

section Found
variable {config : AnomalyDetectionConfig} {analyzer : FrequencyAnalyzer} {sketchName : String}
  {result : FrequencyAnalysisResult} {history : List SketchAnomalyResult} {now : ℤ}

theorem mem_collected {found : List (Except String (Option SketchAnomalyResult))} (member : a ∈ (collected found).1) :
    .ok (some a) ∈ found := by
  induction found with
  | nil => exact absurd member List.not_mem_nil
  | cons first rest ih =>
      cases first with
      | error failure => exact absurd member List.not_mem_nil
      | ok one =>
          rcases List.mem_append.mp member with here | later
          · rw [Option.mem_toList.mp here]
            exact List.mem_cons_self
          · exact List.mem_cons_of_mem _ (ih later)

structure Of (result : FrequencyAnalysisResult) (kind : AnomalyType) (a : SketchAnomalyResult) : Prop where
  item : a.affectedItems = [result.item]
  kind : a.anomalyType = kind

theorem spike_of (found : detectFrequencySpike config analyzer sketchName result = .ok (some a)) :
    Of result .frequencySpike a := by
  unfold detectFrequencySpike at found
  dsimp only [pure,Except.pure,bind,Except.bind] at found
  split at found
  · cases found
  · split at found
    · cases found
    · split at found
      · cases found
      · cases found
        exact ⟨rfl,rfl⟩

theorem rare_of (found : detectRareItem config analyzer sketchName result = some a) : Of result .rareItem a := by
  unfold detectRareItem at found
  split at found
  · cases found
  · split at found
    · cases found
    · dsimp only at found
      split at found
      · cases found
      · split at found
        · cases found
          exact ⟨rfl,rfl⟩
        · cases found

theorem burst_of (found : detectBurstPattern config analyzer sketchName result = .ok (some a)) :
    Of result .burstPattern a := by
  unfold detectBurstPattern at found
  dsimp only [pure,Except.pure,bind,Except.bind] at found
  split at found
  · cases found
  · split at found
    · cases found
    · split at found
      · cases found
      · cases found
        exact ⟨rfl,rfl⟩

theorem sustained_of
    (found : detectSustainedHighActivity config analyzer sketchName result history now = .ok (some a)) :
    Of result .sustainedHigh a ∧ 3 ≤ (recentAnomalies config result history now).length := by
  unfold detectSustainedHighActivity at found
  dsimp only [pure,Except.pure,bind,Except.bind] at found
  split at found
  · cases found
  · split at found
    · cases found
    · split at found
      · cases found
      · split at found
        · cases found
        · rename_i enough
          cases found
          exact ⟨⟨rfl,rfl⟩,Nat.not_lt.mp enough⟩

theorem detect_of (member : a ∈ (detect config analyzer sketchName result history now).1) :
    a.affectedItems = [result.item] ∧
      (a.anomalyType = .sustainedHigh → 3 ≤ (recentAnomalies config result history now).length) := by
  have other (kind : AnomalyType) (different : kind ≠ .sustainedHigh) (of : Of result kind a) :
      a.affectedItems = [result.item] ∧
        (a.anomalyType = .sustainedHigh → 3 ≤ (recentAnomalies config result history now).length) :=
    ⟨of.item,fun same => absurd (of.kind.symm.trans same) different⟩
  have listed := mem_collected member
  unfold detectors at listed
  rcases List.mem_cons.mp listed with spike | listed
  · split at spike
    · exact other .frequencySpike (by decide) (spike_of spike.symm)
    · cases spike
  rcases List.mem_cons.mp listed with rare | listed
  · split at rare
    · exact other .rareItem (by decide) (rare_of (Except.ok.inj rare).symm)
    · cases rare
  rcases List.mem_cons.mp listed with burst | listed
  · split at burst
    · exact other .burstPattern (by decide) (burst_of burst.symm)
    · cases burst
  · have sustained := List.mem_singleton.mp listed
    split at sustained
    · obtain ⟨of,enough⟩ := sustained_of sustained.symm
      exact ⟨of.item,fun _ => enough⟩
    · cases sustained

theorem detect_congr {other : List SketchAnomalyResult}
    (same : recentAnomalies config result history now = recentAnomalies config result other now) :
    detect config analyzer sketchName result history now = detect config analyzer sketchName result other now := by
  unfold detect detectors detectSustainedHighActivity
  rw [same]

end Found

section Pruning

def Clocked : ℤ → List DetectorCall → Prop
  | _,[] => True
  | last,.analyzeFrequency _ _ _ now later :: rest => last ≤ now ∧ now ≤ later ∧ Clocked later rest
  | last,_ :: rest => Clocked last rest

def WithinDay : List DetectorCall → Prop
  | [] => True
  | .updateConfig merged :: rest => merged.sustainedDuration ≤ dayLength ∧ WithinDay rest
  | _ :: rest => WithinDay rest

-- The histories of the detector are prunings of those that keep everything.
structure Pruned (last : ℤ) (s t : SketchAnomalyDetector) : Prop where
  config : s.config = t.config
  day : t.config.sustainedDuration ≤ dayLength
  history : ∀ name, ∃ cut ≤ last - dayLength, s.getDetectionHistory name = newer endOf cut (t.getDetectionHistory name)

theorem Pruned.mono {s t : SketchAnomalyDetector} (pruned : Pruned last s t) (after : last ≤ now) : Pruned now s t := by
  refine ⟨pruned.config,pruned.day,fun name => ?_⟩
  obtain ⟨cut,early,same⟩ := pruned.history name
  exact ⟨cut,by omega,same⟩

theorem getDetectionHistory_setHistory (s : SketchAnomalyDetector) (sketchName name : String)
    (history : List SketchAnomalyResult) :
    (s.setHistory sketchName history).getDetectionHistory name =
      if name = sketchName then history else s.getDetectionHistory name := by
  unfold getDetectionHistory setHistory
  rw [OrderedMap.get_set]
  split <;> rfl

theorem Pruned.analyze {s t : SketchAnomalyDetector} (pruned : Pruned now s t) (ordered : now ≤ later)
    (analyzer : FrequencyAnalyzer) (sketchName : String) (result : FrequencyAnalysisResult) :
    (s.analyzeFrequency storeDetectionHistory analyzer sketchName result now later).2 =
        (t.analyzeFrequency keepDetectionHistory analyzer sketchName result now later).2 ∧
      Pruned later (s.analyzeFrequency storeDetectionHistory analyzer sketchName result now later).1
        (t.analyzeFrequency keepDetectionHistory analyzer sketchName result now later).1 := by
  obtain ⟨cut,early,same⟩ := pruned.history sketchName
  have found : detect s.config analyzer sketchName result (s.getDetectionHistory sketchName) now =
      detect t.config analyzer sketchName result (t.getDetectionHistory sketchName) now := by
    rw [pruned.config]
    apply detect_congr
    have day := pruned.day
    rw [recentAnomalies,recentAnomalies,same,newer_newer endOf (by omega)]
  unfold SketchAnomalyDetector.analyzeFrequency
  dsimp only
  rw [found]
  refine ⟨rfl,?_⟩
  split
  · refine ⟨pruned.config,pruned.day,fun name => ?_⟩
    unfold storeDetectionHistory keepDetectionHistory
    rw [getDetectionHistory_setHistory,getDetectionHistory_setHistory]
    split
    · exact ⟨later - dayLength,Int.le_refl _,by rw [same,newer_pruned endOf (by omega)]⟩
    · exact (pruned.mono ordered).history name
  · exact pruned.mono ordered

theorem Pruned.clear {s t : SketchAnomalyDetector} (pruned : Pruned last s t) (sketchName : Option String) :
    Pruned last (s.clearHistory sketchName) (t.clearHistory sketchName) := by
  have emptied : Pruned last { s with detectionHistory := .empty } { t with detectionHistory := .empty } :=
    ⟨pruned.config,pruned.day,fun _ => ⟨last - dayLength,Int.le_refl _,rfl⟩⟩
  unfold SketchAnomalyDetector.clearHistory
  cases sketchName with
  | none => exact emptied
  | some deleted =>
      dsimp only
      split
      · exact emptied
      · refine ⟨pruned.config,pruned.day,fun name => ?_⟩
        unfold getDetectionHistory
        rw [OrderedMap.get_delete,OrderedMap.get_delete]
        split
        · exact ⟨last - dayLength,Int.le_refl _,rfl⟩
        · exact pruned.history name

theorem pruned_answers {s t : SketchAnomalyDetector} (pruned : Pruned last s t) (clocked : Clocked last calls)
    (within : WithinDay calls) : (exec step s calls).2 = (exec stepKeeping t calls).2 := by
  induction calls generalizing last s t with
  | nil => rfl
  | cons call rest ih =>
      rw [exec_cons,exec_cons]
      cases call with
      | analyzeFrequency analyzer sketchName result now later =>
          obtain ⟨after,ordered,remaining⟩ := clocked
          obtain ⟨answer,next⟩ := (pruned.mono after).analyze ordered analyzer sketchName result
          exact List.cons_eq_cons.mpr ⟨answer,ih next remaining within⟩
      | updateConfig merged =>
          have next : Pruned last { s with config := merged } { t with config := merged } := ⟨rfl,within.1,pruned.history⟩
          exact List.cons_eq_cons.mpr ⟨rfl,ih next clocked within.2⟩
      | clearHistory sketchName =>
          exact List.cons_eq_cons.mpr ⟨rfl,ih (pruned.clear sketchName) clocked within⟩

-- With a clock that does not go back, nothing the detector ever says depends on what it
-- has forgotten.
theorem forgetting_unseen (config : AnomalyDetectionConfig) (day : config.sustainedDuration ≤ dayLength) (start : ℤ)
    (calls : List DetectorCall) (clocked : Clocked start calls) (within : WithinDay calls) :
    (exec step (.create config) calls).2 = (exec stepKeeping (.create config) calls).2 :=
  pruned_answers ⟨rfl,day,fun _ => ⟨start - dayLength,Int.le_refl _,rfl⟩⟩ clocked within

-- A suspicious path is met for the first time, and more than a day later another one.
def watchful : AnomalyDetectionConfig := { minSamples := 1, rarityThreshold := 1 }

def watched : FrequencyAnalyzer :=
  { FrequencyAnalyzer.create 0 with sketches := .ofList [("request_paths",.initial ⟨8,2,7,1/10,9/10⟩)] }

def firstTracked : FrequencyAnalyzer := (watched.trackItem "request_paths" "/admin" ⟨none,5,5⟩).1

def secondTracked : FrequencyAnalyzer := (firstTracked.trackItem "request_paths" "/.env" ⟨none,86400010,86400010⟩).1

def onceSeen (item : String) (lastSeen : ℤ) : FrequencyAnalysisResult :=
  ⟨item,1,.finite 1,.finite 1,.normal,.finite 0,1,300000,lastSeen⟩

def dayApart : List DetectorCall :=
  [.analyzeFrequency firstTracked "request_paths" (onceSeen "/admin" 5) 5 6,
    .analyzeFrequency secondTracked "request_paths" (onceSeen "/.env" 86400010) 86400010 86400011]

-- Both are told, and the first is forgotten by then.
theorem forgetting_unseen_day :
    (exec step (.create watchful) dayApart).2 = (exec stepKeeping (.create watchful) dayApart).2 ∧
      (exec step (.create watchful) dayApart).2.map List.length = [1,1] ∧
      ((exec step (.create watchful) dayApart).1.getDetectionHistory "request_paths").length = 1 ∧
      ((exec stepKeeping (.create watchful) dayApart).1.getDetectionHistory "request_paths").length = 2 :=
  ⟨forgetting_unseen watchful (by decide) 0 dayApart ⟨by decide,by decide,by decide,by decide,trivial⟩ trivial,
    by decide +kernel,by decide +kernel,by decide +kernel⟩

end Pruning

section Causes

-- Everything the detector has returned, under the sketch it was asked about.
abbrev DetectionLog := List (String × SketchAnomalyResult)

def told : DetectorCall → List SketchAnomalyResult → DetectionLog
  | .analyzeFrequency _ sketchName _ _ _,answer => answer.map (fun a => (sketchName,a))
  | _,_ => []

def logged (s : SketchAnomalyDetector × DetectionLog) (call : DetectorCall) :
    (SketchAnomalyDetector × DetectionLog) × List SketchAnomalyResult :=
  let answered := s.1.step call
  ((answered.1,s.2 ++ told call answered.2),answered.2)

def isOther (sketchName item : String) (entry : String × SketchAnomalyResult) : Bool :=
  decide (entry.1 = sketchName ∧ item ∈ entry.2.affectedItems ∧ entry.2.anomalyType ≠ .sustainedHigh)

def others (log : DetectionLog) (sketchName item : String) : ℕ := log.countP (isOther sketchName item)

structure Caused (s : SketchAnomalyDetector × DetectionLog) : Prop where
  remembered : ∀ name, ((s.1.getDetectionHistory name).map (fun a => (name,a))).Sublist s.2
  caused : ∀ entry ∈ s.2, entry.2.anomalyType = .sustainedHigh →
    ∀ item ∈ entry.2.affectedItems, 3 ≤ others s.2 entry.1 item

theorem create_caused (config : AnomalyDetectionConfig) : Caused (.create config,[]) where
  remembered := fun _ => List.Sublist.refl _
  caused := fun _ none => absurd none List.not_mem_nil

variable {s : SketchAnomalyDetector × DetectionLog}

-- Three recent detections, of whatever kind, come after three of another kind.
theorem Caused.three (caused : Caused s) {config : AnomalyDetectionConfig} {result : FrequencyAnalysisResult}
    (enough : 3 ≤ (recentAnomalies config result (s.1.getDetectionHistory sketchName) now).length) :
    3 ≤ others s.2 sketchName result.item := by
  let recent := recentAnomalies config result (s.1.getDetectionHistory sketchName) now
  have listed : (recent.map (fun a => (sketchName,a))).Sublist s.2 :=
    ((List.filter_sublist.trans List.filter_sublist).map _).trans (caused.remembered sketchName)
  have about : ∀ a ∈ recent, result.item ∈ a.affectedItems := fun a here =>
    of_decide_eq_true (List.mem_filter.mp here).2
  by_cases sustained : ∃ a ∈ recent, a.anomalyType = .sustainedHigh
  · obtain ⟨a,here,kind⟩ := sustained
    exact caused.caused (sketchName,a) (listed.subset (List.mem_map_of_mem here)) kind result.item (about a here)
  · have all : (recent.map (fun a => (sketchName,a))).countP (isOther sketchName result.item) = recent.length := by
      rw [List.countP_eq_length.mpr,List.length_map]
      intro entry member
      obtain ⟨a,here,rfl⟩ := List.mem_map.mp member
      exact decide_eq_true ⟨rfl,about a here,fun kind => sustained ⟨a,here,kind⟩⟩
    have fewer := listed.countP_le (p := isOther sketchName result.item)
    rw [all] at fewer
    exact Nat.le_trans enough fewer

theorem step_three (caused : Caused s) (call : DetectorCall) {entry : String × SketchAnomalyResult}
    (member : entry ∈ told call (s.1.step call).2) (kind : entry.2.anomalyType = .sustainedHigh) :
    ∀ item ∈ entry.2.affectedItems, 3 ≤ others s.2 entry.1 item := by
  cases call with
  | analyzeFrequency analyzer sketchName result now later =>
      obtain ⟨a,here,rfl⟩ := List.mem_map.mp member
      obtain ⟨item,recent⟩ := detect_of here
      intro affected listed
      rw [item] at listed
      rw [List.mem_singleton.mp listed]
      exact caused.three (recent kind)
  | updateConfig merged => exact absurd member List.not_mem_nil
  | clearHistory sketchName => exact absurd member List.not_mem_nil

theorem others_append (log added : DetectionLog) (sketchName item : String) :
    others log sketchName item ≤ others (log ++ added) sketchName item := by
  rw [others,others,List.countP_append]
  exact Nat.le_add_right _ _

theorem step_remembered (s : SketchAnomalyDetector) (call : DetectorCall) (name : String) :
    (((s.step call).1.getDetectionHistory name).map (fun a => (name,a))).Sublist
      ((s.getDetectionHistory name).map (fun a => (name,a)) ++ told call (s.step call).2) := by
  have kept (added : DetectionLog) : ((s.getDetectionHistory name).map (fun a => (name,a))).Sublist
      ((s.getDetectionHistory name).map (fun a => (name,a)) ++ added) := List.sublist_append_left _ _
  cases call with
  | analyzeFrequency analyzer sketchName result now later =>
      change ((s.analyzeFrequency storeDetectionHistory analyzer sketchName result now later).1.getDetectionHistory
        name |>.map (fun a => (name,a))).Sublist (_ ++ told _
          (s.analyzeFrequency storeDetectionHistory analyzer sketchName result now later).2)
      unfold SketchAnomalyDetector.analyzeFrequency
      dsimp only
      split
      · unfold storeDetectionHistory
        rw [getDetectionHistory_setHistory]
        split
        · rename_i same
          subst same
          rw [told,← List.map_append]
          exact List.filter_sublist.map _
        · exact kept _
      · exact kept _
  | updateConfig merged => exact kept _
  | clearHistory cleared =>
      have forgotten : ((s.clearHistory cleared).getDetectionHistory name).Sublist (s.getDetectionHistory name) := by
        unfold SketchAnomalyDetector.clearHistory
        cases cleared with
        | none => exact List.nil_sublist _
        | some deleted =>
            dsimp only
            split
            · exact List.nil_sublist _
            · unfold getDetectionHistory
              rw [OrderedMap.get_delete]
              split
              · exact List.nil_sublist _
              · exact List.Sublist.refl _
      exact (forgotten.map _).trans (kept _)

theorem logged_caused (caused : Caused s) (call : DetectorCall) : Caused (logged s call).1 where
  remembered := fun name =>
    (step_remembered s.1 call name).trans ((caused.remembered name).append_right _)
  caused := by
    intro entry member kind item listed
    refine Nat.le_trans ?_ (others_append ..)
    rcases List.mem_append.mp member with earlier | new
    · exact caused.caused entry earlier kind item listed
    · exact step_three caused call new kind item listed

-- Sustained activity keeps itself up, but never starts: at least three detections of
-- another kind came before it, about the same item and in the same sketch.
theorem sustained_follows_others (config : AnomalyDetectionConfig) (calls : List DetectorCall)
    (analyzer : FrequencyAnalyzer) (sketchName : String) (result : FrequencyAnalysisResult) (now later : ℤ) :
    let s := (exec logged (.create config,[]) calls).1
    ∀ a ∈ (s.1.step (.analyzeFrequency analyzer sketchName result now later)).2,
      a.affectedItems = [result.item] ∧
        (a.anomalyType = .sustainedHigh → 3 ≤ others s.2 sketchName result.item) := by
  intro s a member
  have preserved : ∀ (s : SketchAnomalyDetector × DetectionLog) call, Caused s → Caused (logged s call).1 :=
    fun _ call caused => logged_caused caused call
  have caused : Caused s := exec_invariant preserved (s := (.create config,[])) (create_caused config) calls
  obtain ⟨item,recent⟩ := detect_of member
  exact ⟨item,fun kind => caused.three (recent kind)⟩

end Causes
end PhantomFlow.Frequency
