import PhantomFlow.Cardinality.HyperLogLogRuns
import PhantomFlow.Cardinality.VisitorTracker
import PhantomFlow.Library.Fallible

namespace PhantomFlow.Cardinality
open Library Library.Machine

structure Visit where
  trackingType : TrackingType
  item : String
  called : ℤ
  timestamp : ℤ
  deriving DecidableEq

def visitsOf (text : TextFunctions) (config : VisitorTrackingConfig) (now : ℤ) (requestData : VisitorRequest) :
    List Visit :=
  (trackedItems text config requestData).map (fun entry => ⟨entry.1,entry.2,now,requestData.timestamp.getD now⟩)

def itemsWhere (visits : List Visit) (trackingType : TrackingType) (test : Visit → Bool) : List String :=
  (visits.filter (fun visit => decide (visit.trackingType = trackingType) && test visit)).map Visit.item

def admittedItems (visits : List Visit) (trackingType : TrackingType) (window : ℚ) : List String :=
  itemsWhere visits trackingType (fun visit => isWithinTimeWindow visit.called visit.timestamp window)

def currentItems (visits : List Visit) (trackingType : TrackingType) (window : ℚ) (query : ℤ) : List String :=
  itemsWhere visits trackingType (fun visit => isWithinTimeWindow query visit.timestamp window)

-- Every item taken in shares its bucket with a current one of at least its rank.
def Covered (config : HyperLogLogConfig) (admitted current : List String) : Prop :=
  ∀ item ∈ admitted, ∃ other ∈ current,
    bucketOf config.hashFunction config.precision other = bucketOf config.hashFunction config.precision item ∧
    rankOf config.hashFunction config.precision item ≤ rankOf config.hashFunction config.precision other

instance (config : HyperLogLogConfig) (admitted current : List String) : Decidable (Covered config admitted current) :=
  inferInstanceAs (Decidable (∀ item ∈ admitted, ∃ other ∈ current, _ ∧ _))

theorem mem_itemsWhere : item ∈ itemsWhere visits trackingType test ↔
    ∃ visit ∈ visits, visit.trackingType = trackingType ∧ test visit = true ∧ visit.item = item := by
  simp [itemsWhere,and_assoc]

theorem highest_covered (config : HyperLogLogConfig) {admitted current : List String} (fewer : current ⊆ admitted) :
    (∀ j < 2 ^ config.precision, highest config.hashFunction config.precision admitted.toFinset j =
      highest config.hashFunction config.precision current.toFinset j) ↔ Covered config admitted current := by
  constructor
  · intro same item member
    have bucket : bucketOf config.hashFunction config.precision item < 2 ^ config.precision := extractBucket_lt _ _
    have reached : rankOf config.hashFunction config.precision item ≤ highest config.hashFunction config.precision
        current.toFinset (bucketOf config.hashFunction config.precision item) := by
      rw [← same _ bucket]
      exact Finset.le_sup (by simp [member])
    obtain ⟨other,here,rank⟩ := (Finset.le_sup_iff (rankOf_pos _ _ item)).mp reached
    rw [Finset.mem_filter,List.mem_toFinset] at here
    exact ⟨other,here.1,here.2,rank⟩
  · intro covered j _
    apply Nat.le_antisymm
    · refine Finset.sup_le (fun item member => ?_)
      rw [Finset.mem_filter,List.mem_toFinset] at member
      obtain ⟨other,here,bucket,rank⟩ := covered item member.1
      exact Nat.le_trans rank (Finset.le_sup (by simp [here,bucket,member.2]))
    · refine Finset.sup_mono (fun item member => ?_)
      rw [Finset.mem_filter,List.mem_toFinset] at member ⊢
      exact ⟨fewer member.1,member.2⟩

section Windows
variable {K : Type}

def windowOf (tracker : VisitorTracker K) (trackingType : TrackingType) (window : ℚ) : Option (HyperLogLog K) :=
  (tracker.timeWindowData.get trackingType).bind (fun windowMap => windowMap.get window)

def recordVisits (text : TextFunctions) (tracker : VisitorTracker K) (visits : List Visit) : TrackerEvent → List Visit
  | .trackVisitor now requestData => visits ++ visitsOf text tracker.config now requestData
  | .clear => []
  | _ => visits

def Kept (config : HyperLogLogConfig) (s : VisitorTracker K × List Visit) : Prop :=
  ∀ trackingType window hll, windowOf s.1 trackingType window = some hll →
    Represents config hll (admittedItems s.2 trackingType window).toFinset

variable {tracker : VisitorTracker K} {visits : List Visit} {config : HyperLogLogConfig}

theorem windowOf_addToTracking (now timestamp : ℤ) (tracker : VisitorTracker K) (entry : TrackingType × String)
    (trackingType : TrackingType) (window : ℚ) :
    windowOf (tracker.addToTracking now timestamp entry) trackingType window =
      if trackingType = entry.1 ∧ isWithinTimeWindow now timestamp window = true
      then (windowOf tracker trackingType window).map (fun hll => hll.add entry.2)
      else windowOf tracker trackingType window := by
  unfold windowOf VisitorTracker.addToTracking
  dsimp only
  by_cases own : trackingType = entry.1
  · subst own
    cases found : tracker.timeWindowData.get entry.1 with
    | none => simp [found]
    | some windows =>
        simp only [OrderedMap.get_set_self,Option.bind_some,OrderedMap.get_map,true_and]
        split
        · rfl
        · exact Option.map_id'
  · rw [if_neg (fun both => own both.1)]
    cases tracker.timeWindowData.get entry.1 with
    | none => rfl
    | some windows => simp only [OrderedMap.get_set_other _ _ own]

theorem kept_addToTracking (kept : Kept config (tracker,visits)) (now timestamp : ℤ) (entry : TrackingType × String) :
    Kept config (tracker.addToTracking now timestamp entry,visits ++ [⟨entry.1,entry.2,now,timestamp⟩]) := by
  intro trackingType window hll found
  simp only [windowOf_addToTracking] at found
  split at found
  · rename_i within
    obtain ⟨before,here,rfl⟩ := Option.map_eq_some_iff.mp found
    have added := represents_add (kept trackingType window before here) entry.2
    have items : (admittedItems (visits ++ [⟨entry.1,entry.2,now,timestamp⟩]) trackingType window).toFinset =
        insert entry.2 (admittedItems visits trackingType window).toFinset := by
      ext item
      simp [admittedItems,itemsWhere,within]
    rw [items]
    exact added
  · rename_i outside
    have items : admittedItems (visits ++ [⟨entry.1,entry.2,now,timestamp⟩]) trackingType window =
        admittedItems visits trackingType window := by
      have dropped : (decide (entry.1 = trackingType) && isWithinTimeWindow now timestamp window) = false := by
        rw [Bool.and_eq_false_iff]
        by_cases own : trackingType = entry.1
        · right
          simpa [own] using outside
        · left
          exact decide_eq_false (fun same => own same.symm)
      simp [admittedItems,itemsWhere,dropped]
    rw [items]
    exact kept trackingType window hll found

theorem kept_trackVisitor (text : TextFunctions) (kept : Kept config (tracker,visits)) (now : ℤ)
    (requestData : VisitorRequest) :
    Kept config (tracker.trackVisitor text now requestData,visits ++ visitsOf text tracker.config now requestData) := by
  have items : ∀ (entries : List (TrackingType × String)) (tracker : VisitorTracker K) (visits : List Visit),
      Kept config (tracker,visits) →
      Kept config (entries.foldl (VisitorTracker.addToTracking now (requestData.timestamp.getD now)) tracker,
        visits ++ entries.map (fun entry => ⟨entry.1,entry.2,now,requestData.timestamp.getD now⟩)) := by
    intro entries
    induction entries with
    | nil => intro tracker visits kept; simpa using kept
    | cons entry rest ih =>
        intro tracker visits kept
        have next := ih _ _ (kept_addToTracking kept now (requestData.timestamp.getD now) entry)
        rwa [List.append_assoc,List.singleton_append] at next
  exact items _ tracker visits kept

variable [Field K]

theorem kept_clear (kept : Kept config (tracker,visits)) : Kept config (tracker.clear,[]) := by
  intro trackingType window hll found
  simp only [windowOf,VisitorTracker.clear,OrderedMap.get_map] at found
  cases here : tracker.timeWindowData.get trackingType with
  | none => rw [here] at found; cases found
  | some windows =>
      rw [here,Option.map_some,Option.bind_some,OrderedMap.get_map] at found
      obtain ⟨before,inside,rfl⟩ := Option.map_eq_some_iff.mp found
      have known : windowOf tracker trackingType window = some before := by rw [windowOf,here]; exact inside
      exact represents_clear (kept trackingType window before known)

section Queries
variable [LinearOrder K] [FloorRing K] (math : JsMath K)

theorem kept_getCardinality (kept : Kept config (tracker,visits)) (asked : TrackingType) (timeWindowMs : Option ℚ) :
    Kept config ((tracker.getCardinality math asked timeWindowMs).2,visits) := by
  unfold VisitorTracker.getCardinality
  split
  · rename_i window windowMap _ here
    split
    · rename_i windowHLL inside
      intro trackingType other hll found
      simp only [windowOf] at found
      by_cases own : trackingType = asked
      · subst own
        rw [OrderedMap.get_set_self,Option.bind_some] at found
        by_cases same : other = window
        · subst same
          rw [OrderedMap.get_set_self] at found
          cases found
          have before := kept trackingType other windowHLL (by rw [windowOf,here]; exact inside)
          exact ⟨before.settings,before.sized,before.registers⟩
        · rw [OrderedMap.get_set_other _ _ same] at found
          exact kept trackingType other hll (by rw [windowOf,here]; exact found)
      · rw [OrderedMap.get_set_other _ _ own] at found
        exact kept trackingType other hll found
    · exact kept
  · split
    · exact kept
    · exact kept

theorem kept_getVisitorMetrics (kept : Kept config (tracker,visits)) (now : ℤ) (timeWindowMs : Option ℚ) :
    Kept config ((tracker.getVisitorMetrics math now timeWindowMs).2,visits) := by
  have populated : ∀ (types : List TrackingType) (start : VisitorMetrics K × VisitorTracker K),
      Kept config (start.2,visits) →
      Kept config ((types.foldl (VisitorTracker.populateMetricsForType math timeWindowMs) start).2,visits) := by
    intro types
    induction types with
    | nil => exact fun _ start => start
    | cons trackingType rest ih => exact fun start held => ih _ (kept_getCardinality math held trackingType timeWindowMs)
  exact populated _ (_,tracker) kept

end Queries

theorem create_initial {config : HyperLogLogConfig} {hll : HyperLogLog K} (made : HyperLogLog.create config = .ok hll) :
    hll = .initial config := by
  obtain ⟨_,_,fresh⟩ := bind_ok made
  cases fresh
  rfl

section Fresh
variable (configs : UseCase → HyperLogLogConfig)

theorem initializeTimeWindows_fresh {timeWindows : List ℚ} {windowMap : WindowMap K}
    (made : VisitorTracker.initializeTimeWindows configs timeWindows = .ok windowMap) :
    ∀ window hll, windowMap.get window = some hll → hll = .initial (configs .general) := by
  refine foldlM_ok (fun windowMap : WindowMap K => ∀ window hll, windowMap.get window = some hll →
    hll = .initial (configs .general)) ?_ (fun _ _ nothing => by cases nothing) made
  intro before window after fresh set other hll found
  obtain ⟨created,new,stored⟩ := bind_ok set
  cases stored
  rw [OrderedMap.get_set] at found
  split at found
  · cases found
    exact create_initial new
  · exact fresh other hll found

theorem initializeType_fresh {before after : VisitorTracker K} {trackingType : TrackingType} {useCase : UseCase}
    (made : VisitorTracker.initializeType configs before trackingType useCase = .ok after)
    (fresh : ∀ trackingType window hll, windowOf before trackingType window = some hll → hll = .initial (configs .general)) :
    ∀ trackingType window hll, windowOf after trackingType window = some hll → hll = .initial (configs .general) := by
  intro asked window hll found
  obtain ⟨_,_,rest⟩ := bind_ok made
  obtain ⟨windowMap,windows,stored⟩ := bind_ok rest
  cases stored
  rw [windowOf,OrderedMap.get_set] at found
  split at found
  · exact initializeTimeWindows_fresh configs windows window hll found
  · exact fresh asked window hll found

theorem kept_create {config : VisitorTrackingConfig} {tracker : VisitorTracker K}
    (created : VisitorTracker.create configs config = .ok tracker) : Kept (configs .general) (tracker,[]) := by
  have fresh : ∀ trackingType window hll, windowOf tracker trackingType window = some hll →
      hll = .initial (configs .general) := by
    refine foldlM_ok (fun tracker : VisitorTracker K => ∀ trackingType window hll,
      windowOf tracker trackingType window = some hll → hll = .initial (configs .general)) ?_
      (fun _ _ _ nothing => by cases nothing) created
    intro before entry after held made
    exact initializeType_fresh configs made held
  intro trackingType window hll found
  rw [fresh trackingType window hll found]
  exact represents_initial _

end Fresh

section Runs
variable [LinearOrder K] [FloorRing K] (text : TextFunctions) (math : JsMath K)

def visiting (s : VisitorTracker K × List Visit) (event : TrackerEvent) : (VisitorTracker K × List Visit) × TrackerReply K :=
  (((trackerStep text math s.1 event).1,recordVisits text s.1 s.2 event),(trackerStep text math s.1 event).2)

theorem kept_step (s : VisitorTracker K × List Visit) (event : TrackerEvent) (kept : Kept config s) :
    Kept config (visiting text math s event).1 := by
  cases event with
  | trackVisitor now requestData => exact kept_trackVisitor text kept now requestData
  | getCardinality trackingType timeWindowMs => exact kept_getCardinality math kept trackingType timeWindowMs
  | getVisitorMetrics now timeWindowMs => exact kept_getVisitorMetrics math kept now timeWindowMs
  | clear => exact kept_clear kept
  | updateConfiguration config => exact kept

def callsBy (query : ℤ) : TrackerEvent → Prop
  | .trackVisitor now _ => now ≤ query
  | _ => True

theorem called_step (s : VisitorTracker K × List Visit) (event : TrackerEvent)
    (before : ∀ visit ∈ s.2, visit.called ≤ query) (timely : callsBy query event) :
    ∀ visit ∈ (visiting text math s event).1.2, visit.called ≤ query := by
  cases event with
  | trackVisitor now requestData =>
      intro visit member
      rcases List.mem_append.mp member with old | new
      · exact before visit old
      · obtain ⟨entry,_,rfl⟩ := List.mem_map.mp new
        exact timely
  | clear => exact fun _ member => nomatch member
  | getCardinality trackingType timeWindowMs => exact before
  | getVisitorMetrics now timeWindowMs => exact before
  | updateConfiguration config => exact before

theorem current_admitted (before : ∀ visit ∈ visits, visit.called ≤ query) :
    currentItems visits trackingType window query ⊆ admittedItems visits trackingType window := by
  intro item member
  obtain ⟨visit,here,type,within,same⟩ := mem_itemsWhere.mp member
  refine mem_itemsWhere.mpr ⟨visit,here,type,?_,same⟩
  have call : (visit.called : ℚ) ≤ query := Int.cast_le.mpr (before visit here)
  unfold isWithinTimeWindow at within ⊢
  rw [decide_eq_true_iff] at within ⊢
  exact le_trans (sub_le_sub_right call window) within

-- Every run of calls up to the query: a window reads like an instance fed the items
-- within it exactly when what it ever took in is covered by them.
theorem windows_slide_exact (configs : UseCase → HyperLogLogConfig) {config : VisitorTrackingConfig}
    {tracker : VisitorTracker K} (created : VisitorTracker.create configs config = .ok tracker)
    {query : ℤ} {events : List TrackerEvent} (earlier : ∀ event ∈ events, callsBy query event)
    (trackingType : TrackingType) (window : ℚ) (hll : HyperLogLog K)
    (found : windowOf (exec (visiting text math) (tracker,[]) events).1.1 trackingType window = some hll) :
    let visits := (exec (visiting text math) (tracker,[]) events).1.2
    SameRegisters (configs .general).precision hll
        ((currentItems visits trackingType window query).foldl HyperLogLog.add (.initial (configs .general))) ↔
      Covered (configs .general) (admittedItems visits trackingType window)
        (currentItems visits trackingType window query) := by
  intro visits
  have kept : Kept (configs .general) (exec (visiting text math) (tracker,[]) events).1 :=
    exec_invariant (kept_step text math) (kept_create configs created) events
  have calls : ∀ visit ∈ visits, visit.called ≤ query :=
    (throughout_of_along (called_step text math) (fun _ nothing => by cases nothing) (along_of_forall earlier)).final
  have holds := kept trackingType window hll found
  have fed := represents_adds (represents_initial (K:=K) (configs .general))
    (currentItems visits trackingType window query)
  rw [Finset.empty_union] at fed
  rw [← highest_covered (configs .general) (current_admitted calls)]
  constructor
  · intro same j bound
    rw [← holds.registers j bound,← fed.registers j bound]
    exact same j bound
  · intro same j bound
    rw [holds.registers j bound,fed.registers j bound]
    exact same j bound

end Runs
end Windows
def plainText : TextFunctions := ⟨id,some⟩

def configured (useCase : UseCase) : HyperLogLogConfig :=
  match useCase with
  | .ip_tracking => ⟨12,.murmur3,true,true,30⟩
  | .session_tracking => ⟨10,.murmur3,true,true,20⟩
  | .visitor_tracking => ⟨14,.murmur3,true,true,50⟩
  | .path_tracking => ⟨10,.murmur3,true,true,15⟩
  | .general => ⟨12,.murmur3,true,true,50⟩

def ipWindows : VisitorTrackingConfig := ⟨true,false,false,false,false,[60000,300000],true⟩

def ipTracker : VisitorTracker ℚ :=
  ⟨ipWindows,OrderedMap.empty.set .ips (.initial (configured .ip_tracking)),
    OrderedMap.empty.set .ips ((OrderedMap.empty.set 60000 (.initial (configured .general))).set 300000
      (.initial (configured .general)))⟩

def requestFrom (ipAddress : String) : VisitorRequest := ⟨some ipAddress,none,none,none,none,none,none,none⟩

def zeroMath : JsMath ℚ := ⟨fun _ => 1,fun _ => 0,fun _ => 0,fun _ => 1⟩

def minuteWindow (events : List TrackerEvent) : HyperLogLog ℚ :=
  (windowOf (exec (visiting plainText zeroMath) (ipTracker,[]) events).1.1 .ips 60000).getD (.initial (configured .general))

theorem windows_slide_within :
    let events := [TrackerEvent.trackVisitor 0 (requestFrom "10.0.0.1"),.trackVisitor 500 (requestFrom "10.0.0.2")]
    SameRegisters 12 (minuteWindow events) ((currentItems
      (exec (visiting plainText zeroMath) (ipTracker,[]) events).1.2 .ips 60000 60000).foldl HyperLogLog.add
        (.initial (configured .general))) := by
  intro events
  have created : VisitorTracker.create configured ipWindows = .ok ipTracker := rfl
  have earlier : ∀ event ∈ events, callsBy 60000 event := by
    intro event member
    simp only [events,List.mem_cons,List.not_mem_nil,or_false] at member
    rcases member with rfl | rfl
    · exact (by decide : (0 : ℤ) ≤ 60000)
    · exact (by decide : (500 : ℤ) ≤ 60000)
  have slides := windows_slide_exact plainText zeroMath configured created earlier .ips 60000 (minuteWindow events) rfl
  exact slides.mpr (by decide +kernel)

-- One visitor, queried a millisecond after the minute is over.
theorem window_never_slides :
    let events := [TrackerEvent.trackVisitor 0 (requestFrom "10.0.0.1")]
    ¬ SameRegisters 12 (minuteWindow events) ((currentItems
      (exec (visiting plainText zeroMath) (ipTracker,[]) events).1.2 .ips 60000 60001).foldl HyperLogLog.add
        (.initial (configured .general))) := by
  intro events same
  have bucket := same (bucketOf .murmur3 12 "10.0.0.1") (by decide +kernel)
  revert bucket
  decide +kernel

end PhantomFlow.Cardinality
