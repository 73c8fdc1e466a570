import Mathlib.Data.List.Induction
import PhantomFlow.Library.Machine
import PhantomFlow.Traffic.StatisticalAnalyzer

namespace PhantomFlow.Traffic
open Library Library.Machine

structure Update where
  now : ℤ
  windowMs : ℕ
  requestData : RequestData
  timestamp : ℤ

def Update.pattern (update : Update) : TrafficPattern := patternOf update.requestData update.timestamp

def Update.fresh (update : Update) : Bool := decide (update.now - update.windowMs < update.timestamp)

structure Stores where
  backed : StatisticalAnalyzer
  unbacked : StatisticalAnalyzer
  recorded : List Update

def Stores.initial : Stores := ⟨.create,.create,[]⟩

def storesStep (s : Stores) (update : Update) : Stores × Unit :=
  (⟨s.backed.updateTrafficWindow true update.now update.windowMs update.pattern,
    s.unbacked.updateTrafficWindow false update.now update.windowMs update.pattern,s.recorded ++ [update]⟩,())

theorem updateTrafficPatterns_run (s : Stores) (clock : ℕ → ℤ) (requestData : RequestData) (timestamp : ℤ) :
    let reached := (exec storesStep s (timeWindows.map (fun windowMs => ⟨clock windowMs,windowMs,requestData,timestamp⟩))).1
    reached.backed = s.backed.updateTrafficPatterns true clock requestData timestamp ∧
      reached.unbacked = s.unbacked.updateTrafficPatterns false clock requestData timestamp := by
  unfold StatisticalAnalyzer.updateTrafficPatterns
  induction timeWindows generalizing s with
  | nil => exact ⟨rfl,rfl⟩
  | cons windowMs rest ih => exact ih (storesStep s ⟨clock windowMs,windowMs,requestData,timestamp⟩).1

def patternsIn (analyzer : StatisticalAnalyzer) (windowMs : ℕ) : List TrafficPattern :=
  (analyzer.trafficCache.get windowMs).getD []

def updatesOf (recorded : List Update) (windowMs : ℕ) : List Update :=
  recorded.filter (fun update => update.windowMs = windowMs)

def currentPatterns (updates : List Update) (windowMs : ℕ) : List TrafficPattern :=
  match updates.getLast? with
  | none => []
  | some last => (updates.map Update.pattern).filter (fun pattern => last.now - windowMs < pattern.timestamp.time)

def Agree (s : Stores) (windowMs : ℕ) : Prop :=
  patternsIn s.backed windowMs = patternsIn s.unbacked windowMs ∧
  patternsIn s.unbacked windowMs = currentPatterns (updatesOf s.recorded windowMs) windowMs

instance (s : Stores) (windowMs : ℕ) : Decidable (Agree s windowMs) := inferInstanceAs (Decidable (_ ∧ _))

def keptBy (windowMs : ℕ) (updates : List Update) : List TrafficPattern :=
  updates.foldl (fun (kept : List TrafficPattern) (update : Update) =>
    kept.filter (fun pattern => update.now - windowMs < pattern.timestamp.time) ++ [update.pattern]) []

theorem keptBy_snoc (windowMs : ℕ) (updates : List Update) (update : Update) :
    keptBy windowMs (updates ++ [update]) =
      (keptBy windowMs updates).filter (fun pattern => update.now - windowMs < pattern.timestamp.time) ++
        [update.pattern] := by
  simp [keptBy]

theorem keptBy_dates (windowMs : ℕ) (updates : List Update) :
    ∀ pattern ∈ keptBy windowMs updates, pattern.timestamp.isText = false := by
  induction updates using List.reverseRecOn with
  | nil => exact fun _ member => nomatch member
  | append_singleton updates update ih =>
      intro pattern member
      rw [keptBy_snoc] at member
      rcases List.mem_append.mp member with kept | new
      · exact ih pattern (List.mem_filter.mp kept).1
      · rw [List.mem_singleton.mp new]
        rfl

-- What the two paths hold after any updates: without Redis the filtered list, with it
-- the first pattern, whose stored text stops every later update.
structure Held (s : Stores) : Prop where
  unbacked : ∀ windowMs, patternsIn s.unbacked windowMs = keptBy windowMs (updatesOf s.recorded windowMs)
  backed : ∀ windowMs, patternsIn s.backed windowMs = ((updatesOf s.recorded windowMs).head?.map Update.pattern).toList
  stored : ∀ windowMs, s.backed.stored.get windowMs =
    (updatesOf s.recorded windowMs).head?.map (fun update => [update.pattern.throughJson])

theorem updatesOf_snoc (recorded : List Update) (update : Update) (windowMs : ℕ) :
    updatesOf (recorded ++ [update]) windowMs =
      if windowMs = update.windowMs then updatesOf recorded windowMs ++ [update] else updatesOf recorded windowMs := by
  unfold updatesOf
  rw [List.filter_append]
  split
  · rename_i same
    simp [same]
  · rename_i other
    have different : update.windowMs ≠ windowMs := fun equal => other equal.symm
    simp [different]

theorem updated_cache (s : Stores) (update : Update) (held : Held s) :
    (s.unbacked.updateTrafficWindow false update.now update.windowMs update.pattern).trafficCache =
      s.unbacked.trafficCache.set update.windowMs ((patternsIn s.unbacked update.windowMs).filter
        (fun pattern => update.now - update.windowMs < pattern.timestamp.time) ++ [update.pattern]) := by
  have dates : (patternsIn s.unbacked update.windowMs).any (fun pattern => pattern.timestamp.isText) = false := by
    rw [held.unbacked,List.any_eq_false]
    intro pattern member
    rw [keptBy_dates _ _ pattern member]
    simp
  unfold patternsIn at dates ⊢
  simp [StatisticalAnalyzer.updateTrafficWindow,StatisticalAnalyzer.redisGet,StatisticalAnalyzer.redisSet,
    patternsAfter,dates]

theorem unbacked_step (s : Stores) (update : Update) (held : Held s) (windowMs : ℕ) :
    patternsIn (storesStep s update).1.unbacked windowMs =
      keptBy windowMs (updatesOf (s.recorded ++ [update]) windowMs) := by
  rw [updatesOf_snoc]
  unfold storesStep
  dsimp only
  rw [patternsIn,updated_cache s update held,OrderedMap.get_set]
  by_cases own : windowMs = update.windowMs
  · subst own
    rw [if_pos rfl,if_pos rfl,keptBy_snoc,← held.unbacked]
    rfl
  · rw [if_neg own,if_neg own]
    exact held.unbacked windowMs

theorem backed_step (s : Stores) (update : Update) (held : Held s) (windowMs : ℕ) :
    patternsIn (storesStep s update).1.backed windowMs =
      ((updatesOf (s.recorded ++ [update]) windowMs).head?.map Update.pattern).toList ∧
    (storesStep s update).1.backed.stored.get windowMs =
      (updatesOf (s.recorded ++ [update]) windowMs).head?.map (fun update => [update.pattern.throughJson]) := by
  rw [updatesOf_snoc]
  unfold storesStep StatisticalAnalyzer.updateTrafficWindow StatisticalAnalyzer.redisGet
  dsimp only
  have before := held.stored update.windowMs
  have list := held.backed update.windowMs
  cases first : (updatesOf s.recorded update.windowMs).head? with
  | some earliest =>
      rw [first] at before
      rw [if_pos rfl,before]
      simp only [Option.map_some,Option.getD_some,patternsAfter,TrafficPattern.throughJson,Stamp.throughJson,Stamp.isText,
        List.any_cons,Bool.true_or,if_true]
      by_cases own : windowMs = update.windowMs
      · subst own
        have later : (updatesOf s.recorded update.windowMs ++ [update]).head? = some earliest := by
          rw [List.head?_append,first]
          rfl
        rw [if_pos rfl,later,← first]
        exact ⟨held.backed _,held.stored _⟩
      · rw [if_neg own]
        exact ⟨held.backed windowMs,held.stored windowMs⟩
  | none =>
      have empty : updatesOf s.recorded update.windowMs = [] := List.head?_eq_none_iff.mp first
      rw [first] at before list
      have nothing : (s.backed.trafficCache.get update.windowMs).getD [] = [] := list
      simp only [if_true,before,Option.map_none,Option.getD_none,nothing,patternsAfter,List.any_nil,Bool.false_eq_true,
        if_false,List.filter_nil,List.nil_append,StatisticalAnalyzer.redisSet,patternsIn]
      rw [OrderedMap.get_set,OrderedMap.get_set]
      by_cases own : windowMs = update.windowMs
      · subst own
        rw [if_pos rfl,if_pos rfl,if_pos rfl,empty]
        exact ⟨rfl,rfl⟩
      · rw [if_neg own,if_neg own,if_neg own]
        exact ⟨held.backed windowMs,held.stored windowMs⟩

theorem held_step (s : Stores) (update : Update) (held : Held s) : Held (storesStep s update).1 :=
  ⟨unbacked_step s update held,fun windowMs => (backed_step s update held windowMs).1,
    fun windowMs => (backed_step s update held windowMs).2⟩

theorem storesStep_recorded (events : List Update) (s : Stores) :
    (exec storesStep s events).1.recorded = s.recorded ++ events := by
  induction events generalizing s with
  | nil => simp
  | cons update rest ih =>
      rw [exec_cons,ih]
      simp [storesStep]

theorem newest_kept (windowMs : ℕ) (updates : List Update) (newest : updates.getLast? = some last) :
    last.pattern ∈ keptBy windowMs updates := by
  obtain ⟨earlier,rfl⟩ := List.getLast?_eq_some_iff.mp newest
  rw [keptBy_snoc]
  exact List.mem_append_right _ (List.mem_singleton_self _)

theorem mem_currentPatterns (newest : updates.getLast? = some last) :
    pattern ∈ currentPatterns updates windowMs ↔
      pattern ∈ updates.map Update.pattern ∧ last.now - windowMs < pattern.timestamp.time := by
  simp only [currentPatterns,newest,List.mem_filter,decide_eq_true_iff]

theorem keptBy_exact (windowMs : ℕ) (updates : List Update)
    (own : ∀ update ∈ updates, update.windowMs = windowMs) :
    ((updates.head?.map Update.pattern).toList = keptBy windowMs updates ∧
      keptBy windowMs updates = currentPatterns updates windowMs) ↔
      updates.length ≤ 1 ∧ ∀ update ∈ updates, update.fresh = true := by
  match updates with
  | [] => simp [keptBy,currentPatterns]
  | [update] =>
      have current : currentPatterns [update] windowMs = if update.fresh then [update.pattern] else [] := by
        rw [← own update (List.mem_singleton_self _)]
        simp only [currentPatterns,List.getLast?_singleton,List.map_cons,List.map_nil,List.filter_cons,List.filter_nil]
        rfl
      have kept : keptBy windowMs [update] = [update.pattern] := rfl
      rw [kept,current]
      by_cases fresh : update.fresh = true <;> simp [fresh]
  | first :: second :: rest =>
      refine iff_of_false ?_ (by simp)
      intro right
      rcases right with ⟨backed,unbacked⟩
      obtain ⟨last,newest⟩ : ∃ last, (first :: second :: rest).getLast? = some last :=
        ⟨_,List.getLast?_eq_some_getLast (by simp)⟩
      have kept := newest_kept windowMs _ newest
      rw [← backed] at kept
      have equal : last.pattern = first.pattern := by simpa using kept
      have current := newest_kept windowMs _ newest
      rw [unbacked,mem_currentPatterns newest,equal] at current
      -- The first pattern would stand in the list twice.
      have once : (currentPatterns (first :: second :: rest) windowMs).count first.pattern = 1 := by
        rw [← unbacked,← backed]
        simp
      have tail : first.pattern ∈ (second :: rest).map Update.pattern := by
        rw [List.getLast?_cons_cons] at newest
        rw [← equal]
        exact List.mem_map_of_mem (List.mem_of_getLast? newest)
      have twice := List.count_pos_iff.mpr tail
      simp only [currentPatterns,newest] at once
      rw [List.count_filter (by simpa using current.2),List.map_cons,List.count_cons_self] at once
      omega

theorem keptBy_ordered (windowMs : ℕ) (updates : List Update) (ordered : (updates.map Update.now).Pairwise (· ≤ ·))
    (newest : updates.getLast? = some last) :
    keptBy windowMs updates = (updates.dropLast.map Update.pattern).filter
      (fun pattern => last.now - windowMs < pattern.timestamp.time) ++ [last.pattern] := by
  induction updates using List.reverseRecOn generalizing last with
  | nil => cases newest
  | append_singleton earlier update ih =>
      rw [List.getLast?_concat] at newest
      cases newest
      rw [keptBy_snoc,List.dropLast_concat]
      congr 1
      rw [List.map_append,List.pairwise_append] at ordered
      cases before : earlier.getLast? with
      | none => rw [List.getLast?_eq_none_iff.mp before]; rfl
      | some previous =>
          obtain ⟨rest,rfl⟩ := List.getLast?_eq_some_iff.mp before
          have later : previous.now ≤ update.now := ordered.2.2 previous.now (by simp) update.now (by simp)
          rw [ih ordered.1 before,List.dropLast_concat,List.map_append,List.filter_append,List.filter_append,
            List.filter_filter]
          congr 1
          apply List.filter_congr
          intro pattern _
          simp only [Bool.and_eq_left_iff_imp,decide_eq_true_iff]
          omega

theorem keptBy_current (windowMs : ℕ) (updates : List Update) (own : ∀ update ∈ updates, update.windowMs = windowMs)
    (ordered : (updates.map Update.now).Pairwise (· ≤ ·)) :
    keptBy windowMs updates = currentPatterns updates windowMs ↔ updates.getLast?.all Update.fresh = true := by
  cases newest : updates.getLast? with
  | none =>
      rw [List.getLast?_eq_none_iff.mp newest]
      simp [keptBy,currentPatterns]
  | some last =>
      obtain ⟨earlier,rfl⟩ := List.getLast?_eq_some_iff.mp newest
      have same := own last (by simp)
      have current : currentPatterns (earlier ++ [last]) windowMs = (earlier.map Update.pattern).filter
          (fun pattern => last.now - windowMs < pattern.timestamp.time) ++ if last.fresh then [last.pattern] else [] := by
        rw [← same]
        simp only [currentPatterns,newest,List.map_append,List.map_cons,List.map_nil,List.filter_append,List.filter_cons,
          List.filter_nil]
        rfl
      rw [keptBy_ordered windowMs _ ordered newest,List.dropLast_concat,current,List.append_cancel_left_eq,Option.all_some]
      by_cases fresh : last.fresh = true <;> simp [fresh]

-- Every run of updates: the two paths agree on a key and hold what lies in its window
-- exactly when the key was updated at most once, with a pattern of the window. At
-- non-decreasing times the local path alone needs no more than that of its newest pattern.
theorem traffic_stores_exact (events : List Update) (windowMs : ℕ) :
    let reached := (exec storesStep .initial events).1
    (Agree reached windowMs ↔
      (updatesOf events windowMs).length ≤ 1 ∧ ∀ update ∈ updatesOf events windowMs, update.fresh = true) ∧
    ((events.map Update.now).Pairwise (· ≤ ·) →
      (patternsIn reached.unbacked windowMs = currentPatterns (updatesOf events windowMs) windowMs ↔
        (updatesOf events windowMs).getLast?.all Update.fresh = true)) := by
  intro reached
  have held : Held reached :=
    exec_invariant held_step ⟨fun _ => rfl,fun _ => rfl,fun _ => rfl⟩ events
  have recorded : reached.recorded = events := storesStep_recorded events .initial
  have own : ∀ update ∈ updatesOf events windowMs, update.windowMs = windowMs := by
    intro update member
    simpa using (List.mem_filter.mp member).2
  unfold Agree
  rw [held.backed,held.unbacked,recorded]
  refine ⟨keptBy_exact windowMs _ own,fun ordered => keptBy_current windowMs _ own ?_⟩
  exact ordered.sublist (List.filter_sublist.map Update.now)

def requestAt (now : ℤ) : Update := ⟨now,60000,⟨some 20,false,none⟩,now⟩

theorem traffic_stores_part : ¬ Agree (exec storesStep .initial [requestAt 0,requestAt 1000]).1 60000 := by
  decide +kernel

end PhantomFlow.Traffic
