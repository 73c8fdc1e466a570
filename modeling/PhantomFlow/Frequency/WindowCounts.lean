import PhantomFlow.Frequency.FrequencyAnalyzer
import PhantomFlow.Sketch.SketchRuns

namespace PhantomFlow.Frequency
open Library Library.Machine Sketch

structure Tracked where
  sketchName : String
  item : String
  time : ℤ

def tracked (text : Cardinality.TextFunctions) (call : TrackCall) : Tracked :=
  ⟨call.sketchName,call.item text,call.moment.time⟩

abbrev Recorded := FrequencyAnalyzer × List Tracked

def trackStep (text : Cardinality.TextFunctions) :
    Recorded → TrackCall → Recorded × Except String FrequencyAnalysisResult :=
  withLedger (fun analyzer call => analyzer.track text call) (fun history call => history ++ [tracked text call])

section Counts
variable (history : List Tracked) (name item : String)

def callsOf : List Tracked := history.filter (fun call => decide (call.sketchName = name ∧ call.item = item))

def callsIn (start : ℤ) : ℕ := (callsOf history name item).countP (fun call => decide (windowStart call.time = start))

def streamOf : Stream := (history.filter (fun call => decide (call.sketchName = name))).map (fun call => (call.item,1))

end Counts

def sharing (config : CountMinSketchConfig) (stream : Stream) (item : String) (i : ℕ) : ℚ≥0 :=
  tally (fun other => hashFunction config i other == hashFunction config i item && !(other == item)) stream

-- Every entry holds the calls of its minute, and no more on top of them than the
-- items that share counters with its own put there.
def CountedPerMinute (s : Recorded) : Prop :=
  ∀ name sketch windows, s.1.sketches.get name = some sketch → s.1.timeWindows.get name = some windows →
    ∀ entry ∈ windows,
      (callsIn s.2 name entry.item entry.start : ℚ) ≤ entry.frequency ∧
      ∀ i < sketch.config.depth,
        entry.frequency ≤ callsIn s.2 name entry.item entry.start +
          sharing sketch.config (streamOf s.2 name) entry.item i

def Falling (s : Recorded) (name item : String) : Prop :=
  ∃ windows, s.1.timeWindows.get name = some windows ∧
    2 ≤ (FrequencyAnalyzer.itemWindows windows item).length ∧
    (FrequencyAnalyzer.itemWindows windows item).Pairwise (fun earlier later =>
      callsIn s.2 name item later.start < callsIn s.2 name item earlier.start)

def FallsReported (s : Recorded) : Prop :=
  ∀ name item, Falling s name item →
    ∃ pattern, s.1.analyzePattern name item = .ok pattern ∧ pattern.type = .decreasing

def SingleMinute (history : List Tracked) : Prop :=
  ∀ call ∈ history, ∀ other ∈ history, call.sketchName = other.sketchName → call.item = other.item →
    windowStart call.time = windowStart other.time

section Counting
variable {history : List Tracked} {name item : String}

theorem SingleMinute.snoc (single : SingleMinute history) {call : Tracked}
    (minute : ∀ past ∈ history ++ [call], past.sketchName = call.sketchName → past.item = call.item →
      windowStart past.time = windowStart call.time) : SingleMinute (history ++ [call]) := by
  intro first here second there name item
  rcases List.mem_append.mp here with earlier | last
  · rcases List.mem_append.mp there with earlier' | last'
    · exact single first earlier second earlier' name item
    · cases List.mem_singleton.mp last'
      exact minute first here name item
  · cases List.mem_singleton.mp last
    exact (minute second there name.symm item.symm).symm

theorem SingleMinute.initial (single : SingleMinute (history ++ later)) : SingleMinute history :=
  fun first here second there => single first (List.mem_append_left _ here) second (List.mem_append_left _ there)

theorem mem_callsOf : call ∈ callsOf history name item ↔
    call ∈ history ∧ call.sketchName = name ∧ call.item = item := by
  simp [callsOf]

theorem callsOf_snoc (call : Tracked) : callsOf (history ++ [call]) name item =
    callsOf history name item ++ if call.sketchName = name ∧ call.item = item then [call] else [] := by
  unfold callsOf
  rw [List.filter_append]
  by_cases here : call.sketchName = name ∧ call.item = item <;> simp [here]

theorem streamOf_snoc (call : Tracked) : streamOf (history ++ [call]) name =
    streamOf history name ++ if call.sketchName = name then [(call.item,1)] else [] := by
  unfold streamOf
  rw [List.filter_append,List.map_append]
  by_cases here : call.sketchName = name <;> simp [here]

theorem tally_streamOf : tally (fun other => other == item) (streamOf history name) =
    ((callsOf history name item).length : ℚ≥0) := by
  induction history using List.reverseRecOn with
  | nil => rfl
  | append_singleton history call ih =>
      rw [streamOf_snoc,callsOf_snoc,tally_append,ih,List.length_append,Nat.cast_add]
      congr 1
      by_cases here : call.sketchName = name
      · by_cases same : call.item = item <;> simp [here,same]
      · simp [here]

theorem callsIn_snoc_other (call : Tracked) (start : ℤ)
    (other : ¬ (call.sketchName = name ∧ call.item = item ∧ windowStart call.time = start)) :
    callsIn (history ++ [call]) name item start = callsIn history name item start := by
  unfold callsIn
  rw [callsOf_snoc,List.countP_append]
  by_cases here : call.sketchName = name ∧ call.item = item
  · have elsewhere : windowStart call.time ≠ start := fun same => other ⟨here.1,here.2,same⟩
    simp [here,elsewhere]
  · simp [here]

theorem callsIn_le (start : ℤ) : callsIn history name item start ≤ (callsOf history name item).length :=
  List.countP_le_length

theorem callsIn_eq_length (start : ℤ) : callsIn history name item start = (callsOf history name item).length ↔
    ∀ call ∈ history, call.sketchName = name → call.item = item → windowStart call.time = start := by
  unfold callsIn
  rw [List.countP_eq_length]
  constructor
  · intro all call member here same
    exact of_decide_eq_true (all call (mem_callsOf.mpr ⟨member,here,same⟩))
  · intro all call member
    obtain ⟨present,here,same⟩ := mem_callsOf.mp member
    exact decide_eq_true (all call present here same)

theorem colliding_split (config : CountMinSketchConfig) (i : ℕ) :
    colliding config (streamOf history name) i (hashFunction config i item) =
      (callsOf history name item).length + sharing config (streamOf history name) item i := by
  have own : (fun other => (hashFunction config i other == hashFunction config i item) && (other == item)) =
      fun other => other == item := by
    funext other
    by_cases same : other = item <;> simp [same]
  rw [← tally_streamOf,colliding,tally_split _ (fun other => other == item),own,sharing]

end Counting

section Entries
variable {item : String} {frequency : ℚ} {start : ℤ} {windows : List TimeWindowFrequency}

def entryKey (entry : TimeWindowFrequency) : String × ℤ := (entry.item,entry.start)

theorem recordFrequency_mem (member : entry ∈ recordFrequency item frequency start windows) :
    entry = ⟨item,frequency,start⟩ ∨ entry ∈ windows := by
  induction windows with
  | nil => exact .inl (List.mem_singleton.mp member)
  | cons first rest ih =>
      unfold recordFrequency at member
      split at member
      · rename_i here
        rcases List.mem_cons.mp member with equal | later
        · refine .inl ?_
          rw [equal,← here.1,← here.2]
        · exact .inr (List.mem_cons_of_mem first later)
      · rcases List.mem_cons.mp member with equal | later
        · exact .inr (equal ▸ List.mem_cons_self)
        · exact (ih later).imp id (List.mem_cons_of_mem first)

theorem mem_recordFrequency_self (windows : List TimeWindowFrequency) :
    ⟨item,frequency,start⟩ ∈ recordFrequency item frequency start windows := by
  induction windows with
  | nil => exact List.mem_singleton_self _
  | cons first rest ih =>
      unfold recordFrequency
      split
      · rename_i here
        rw [← here.1,← here.2]
        exact List.mem_cons_self
      · exact List.mem_cons_of_mem first ih

theorem recordFrequency_keys (windows : List TimeWindowFrequency) :
    (recordFrequency item frequency start windows).map entryKey =
      if (item,start) ∈ windows.map entryKey then windows.map entryKey else windows.map entryKey ++ [(item,start)] := by
  induction windows with
  | nil => rfl
  | cons first rest ih =>
      by_cases here : first.item = item ∧ first.start = start
      · simp [recordFrequency,here,entryKey]
      · have other : (item,start) ≠ entryKey first := by
          intro same
          cases same
          exact here ⟨rfl,rfl⟩
        simp only [recordFrequency,here,if_false,List.map_cons,ih,List.mem_cons,other,false_or]
        split <;> rfl

theorem recordFrequency_distinct (distinct : (windows.map entryKey).Nodup) :
    ((recordFrequency item frequency start windows).map entryKey).Nodup := by
  rw [recordFrequency_keys]
  split
  · exact distinct
  · rename_i absent
    exact List.nodup_append.mpr ⟨distinct,by simp,by
      intro key here other there equal
      rw [List.mem_singleton.mp there] at equal
      exact absent (equal ▸ here)⟩

-- With one entry for each item and minute, the others are not the recorded one's.
theorem recordFrequency_cases (distinct : (windows.map entryKey).Nodup)
    (member : entry ∈ recordFrequency item frequency start windows) :
    entry = ⟨item,frequency,start⟩ ∨ entry ∈ windows ∧ ¬ (entry.item = item ∧ entry.start = start) := by
  by_cases here : entry.item = item ∧ entry.start = start
  · refine .inl ?_
    apply List.inj_on_of_nodup_map (recordFrequency_distinct distinct) member (mem_recordFrequency_self windows)
    exact Prod.ext here.1 here.2
  · rcases recordFrequency_mem member with equal | earlier
    · exact .inl equal
    · exact .inr ⟨earlier,here⟩

end Entries

structure Sound (history : List Tracked) (name : String) (sketch : CountMinSketch)
    (windows : List TimeWindowFrequency) : Prop where
  positive : 0 < sketch.config.width ∧ 0 < sketch.config.depth
  represents : Represents sketch.config sketch (streamOf history name)
  distinct : (windows.map entryKey).Nodup
  caused : ∀ entry ∈ windows, ∃ call ∈ history, call.sketchName = name ∧ call.item = entry.item ∧
    windowStart call.time = entry.start
  atLeast : ∀ entry ∈ windows, (callsIn history name entry.item entry.start : ℚ) ≤ entry.frequency
  atMost : ∀ entry ∈ windows, ∀ i < sketch.config.depth,
    entry.frequency ≤ colliding sketch.config (streamOf history name) i (hashFunction sketch.config i entry.item)

structure Valid (s : Recorded) : Prop where
  sound : ∀ name windows, s.1.timeWindows.get name = some windows →
    ∃ sketch, s.1.sketches.get name = some sketch ∧ Sound s.2 name sketch windows
  complete : ∀ call : TrackCall, ∃ windows thresholds,
    s.1.timeWindows.get call.sketchName = some windows ∧ s.1.thresholds.get call.sketchName = some thresholds

section Steps
variable {history : List Tracked} {name : String} {sketch : CountMinSketch} {windows : List TimeWindowFrequency}

theorem Sound.other (sound : Sound history name sketch windows) {call : Tracked} (elsewhere : call.sketchName ≠ name) :
    Sound (history ++ [call]) name sketch windows := by
  have stream : streamOf (history ++ [call]) name = streamOf history name := by
    rw [streamOf_snoc,if_neg elsewhere,List.append_nil]
  refine ⟨sound.positive,?_,sound.distinct,?_,?_,?_⟩
  · rw [stream]
    exact sound.represents
  · intro entry member
    obtain ⟨cause,present,rest⟩ := sound.caused entry member
    exact ⟨cause,List.mem_append_left _ present,rest⟩
  · intro entry member
    rw [callsIn_snoc_other call _ (fun here => elsewhere here.1)]
    exact sound.atLeast entry member
  · rw [stream]
    exact sound.atMost

variable (sketch) in
def estimate (item : String) : ℚ := ((sketch.insert item 1).query item).1.frequency

theorem Sound.inserted (sound : Sound history name sketch windows) {call : Tracked} (here : call.sketchName = name) :
    Represents sketch.config (sketch.insert call.item 1) (streamOf (history ++ [call]) name) := by
  rw [streamOf_snoc,if_pos here]
  exact represents_insert sound.positive.1 sound.represents call.item 1

theorem Sound.estimate_least (sound : Sound history name sketch windows) (call : Tracked)
    (here : call.sketchName = name) :
    IsLeast {total | ∃ i < sketch.config.depth,
      total = (colliding sketch.config (streamOf (history ++ [call]) name) i
        (hashFunction sketch.config i call.item) : ℚ)} (estimate sketch call.item) :=
  query_exact sound.positive (sound.inserted here) call.item

theorem Sound.estimate_counts (sound : Sound history name sketch windows) {call : Tracked}
    (here : call.sketchName = name) :
    ((callsOf (history ++ [call]) name call.item).length : ℚ) ≤ estimate sketch call.item := by
  have counted := query_overestimates sound.positive (sound.inserted here) call.item
  rw [tally_streamOf] at counted
  exact_mod_cast counted

theorem colliding_snoc_le (config : CountMinSketchConfig) (call : Tracked) (i j : ℕ) :
    (colliding config (streamOf history name) i j : ℚ) ≤ colliding config (streamOf (history ++ [call]) name) i j := by
  rw [streamOf_snoc,colliding,colliding,tally_append]
  exact_mod_cast le_self_add

theorem Sound.tracked (sound : Sound history name sketch windows) {call : Tracked} (here : call.sketchName = name) :
    Sound (history ++ [call]) name ((sketch.insert call.item 1).query call.item).2
      ((recordFrequency call.item (estimate sketch call.item) (windowStart call.time) windows).filter
        (fun entry => decide (call.time - 3600000 < entry.start))) := by
  have least := sound.estimate_least call here
  have entries : ∀ entry ∈ (recordFrequency call.item (estimate sketch call.item) (windowStart call.time) windows).filter
      (fun entry => decide (call.time - 3600000 < entry.start)),
      entry = ⟨call.item,estimate sketch call.item,windowStart call.time⟩ ∨
        entry ∈ windows ∧ ¬ (entry.item = call.item ∧ entry.start = windowStart call.time) :=
    fun entry member => recordFrequency_cases sound.distinct (List.mem_filter.mp member).1
  refine ⟨sound.positive,represents_query (sound.inserted here) call.item,?_,?_,?_,?_⟩
  · exact (recordFrequency_distinct sound.distinct).sublist (List.filter_sublist.map _)
  · intro entry member
    rcases entries entry member with rfl | earlier
    · exact ⟨call,List.mem_append_right _ (List.mem_singleton_self call),here,rfl,rfl⟩
    · obtain ⟨cause,present,rest⟩ := sound.caused entry earlier.1
      exact ⟨cause,List.mem_append_left _ present,rest⟩
  · intro entry member
    rcases entries entry member with rfl | earlier
    · refine le_trans ?_ (sound.estimate_counts here)
      exact_mod_cast callsIn_le _
    · rw [callsIn_snoc_other call _ (fun same => earlier.2 ⟨same.2.1.symm,same.2.2.symm⟩)]
      exact sound.atLeast entry earlier.1
  · intro entry member i row
    rcases entries entry member with rfl | earlier
    · exact least.2 ⟨i,row,rfl⟩
    · exact le_trans (sound.atMost entry earlier.1 i row) (colliding_snoc_le _ _ _ _)

end Steps

section Runs
variable (text : Cardinality.TextFunctions) {s : Recorded}

def trackedWindows (sketch : CountMinSketch) (windows : List TimeWindowFrequency) (call : Tracked) :
    List TimeWindowFrequency :=
  (recordFrequency call.item (estimate sketch call.item) (windowStart call.time) windows).filter
    (fun entry => decide (call.time - 3600000 < entry.start))

theorem trackStep_exact (valid : Valid s) (call : TrackCall) :
    ∃ sketch windows, s.1.sketches.get call.sketchName = some sketch ∧
      s.1.timeWindows.get call.sketchName = some windows ∧ Sound s.2 call.sketchName sketch windows ∧
      (trackStep text s call).1 =
        ({ s.1 with
            sketches := s.1.sketches.set call.sketchName ((sketch.insert (call.item text) 1).query (call.item text)).2
            timeWindows := s.1.timeWindows.set call.sketchName (trackedWindows sketch windows (tracked text call)) },
         s.2 ++ [tracked text call]) := by
  obtain ⟨windows,thresholds,listed,limits⟩ := valid.complete call
  obtain ⟨sketch,found,sound⟩ := valid.sound _ windows listed
  refine ⟨sketch,windows,found,listed,sound,?_⟩
  simp only [trackStep,withLedger,FrequencyAnalyzer.track,FrequencyAnalyzer.trackItem,found,limits,
    FrequencyAnalyzer.updateTimeWindow,listed]
  rfl

theorem trackStep_valid (valid : Valid s) (call : TrackCall) : Valid (trackStep text s call).1 := by
  obtain ⟨sketch,windows,found,listed,sound,effect⟩ := trackStep_exact text valid call
  rw [effect]
  constructor
  · intro name listed' there
    simp only [OrderedMap.get_set] at there ⊢
    by_cases here : name = call.sketchName
    · subst name
      rw [if_pos rfl] at there ⊢
      cases there
      exact ⟨_,rfl,sound.tracked rfl⟩
    · rw [if_neg here] at there ⊢
      obtain ⟨sketch',found',sound'⟩ := valid.sound name listed' there
      exact ⟨sketch',found',sound'.other (fun same => here same.symm)⟩
  · intro other
    obtain ⟨listed',thresholds,there,limits⟩ := valid.complete other
    simp only [OrderedMap.get_set]
    by_cases here : other.sketchName = call.sketchName
    · rw [if_pos here]
      exact ⟨_,thresholds,rfl,limits⟩
    · rw [if_neg here]
      exact ⟨listed',thresholds,there,limits⟩

theorem create_sketches (random : ℚ) (found : (FrequencyAnalyzer.create random).sketches.get name = some sketch) :
    ∃ config, sketch = .initial config ∧ 0 < config.width ∧ 0 < config.depth := by
  have listed : (FrequencyAnalyzer.create random).sketches.entries =
      (defaultSketches ⌊random * 1000000⌋).map (fun entry => (entry.1,.initial entry.2)) := rfl
  have positive : ∀ entry ∈ defaultSketches ⌊random * 1000000⌋, 0 < entry.2.width ∧ 0 < entry.2.depth := by
    simp [defaultSketches,defaultConfig]
  rw [OrderedMap.get_exact,listed] at found
  obtain ⟨entry,member,equal⟩ := List.mem_map.mp found
  cases equal
  exact ⟨entry.2,rfl,positive entry member⟩

theorem create_windows (random : ℚ) : (FrequencyAnalyzer.create random).timeWindows =
    (FrequencyAnalyzer.create random).sketches.map (fun _ _ => []) := rfl

theorem create_valid (random : ℚ) : Valid (.create random,[]) := by
  constructor
  · intro name windows listed
    rw [create_windows,OrderedMap.get_map] at listed
    obtain ⟨sketch,found,empty⟩ := Option.map_eq_some_iff.mp listed
    obtain ⟨config,rfl,positive⟩ := create_sketches random found
    subst windows
    exact ⟨_,found,positive,represents_initial config,by simp,by simp,by simp,by simp⟩
  · intro call
    cases call <;> exact ⟨_,_,rfl,rfl⟩

theorem windowStart_recent (time : ℤ) : time - 3600000 < windowStart time := by
  unfold windowStart windowDuration
  omega

theorem windowStart_mono {earlier later : ℤ} (ordered : earlier ≤ later) : windowStart earlier ≤ windowStart later := by
  unfold windowStart windowDuration
  omega

-- Once an item has been tracked in two minutes, the entry of the call that did so
-- holds more than its minute.
theorem counted_single (valid : Valid s) (call : TrackCall) (single : SingleMinute s.2)
    (counted : CountedPerMinute (trackStep text s call).1) : SingleMinute (s.2 ++ [tracked text call]) := by
  obtain ⟨sketch,windows,_,_,sound,effect⟩ := trackStep_exact text valid call
  obtain ⟨⟨i,row,attained⟩,_⟩ := sound.estimate_least (tracked text call) rfl
  have kept : ⟨call.item text,estimate sketch (call.item text),windowStart call.moment.time⟩ ∈
      trackedWindows sketch windows (tracked text call) :=
    List.mem_filter.mpr ⟨mem_recordFrequency_self windows,decide_eq_true (windowStart_recent _)⟩
  rw [effect] at counted
  have bound := (counted call.sketchName _ _ (OrderedMap.get_set_self _ _ _) (OrderedMap.get_set_self _ _ _) _ kept).2
    i row
  -- The least counter holds all calls of the item, whatever their minute.
  have total : estimate sketch (call.item text) =
      ((callsOf (s.2 ++ [tracked text call]) call.sketchName (call.item text)).length : ℚ) +
        sharing sketch.config (streamOf (s.2 ++ [tracked text call]) call.sketchName) (call.item text) i := by
    refine attained.trans ?_
    rw [show (tracked text call).item = call.item text from rfl,colliding_split]
    push_cast
    rfl
  rw [total] at bound
  have enough := le_of_add_le_add_right bound
  have whole := le_antisymm (callsIn_le _) (Nat.cast_le.mp enough)
  exact single.snoc ((callsIn_eq_length _).mp whole)

theorem single_counted (valid : Valid s) (single : SingleMinute s.2) : CountedPerMinute s := by
  intro name sketch windows found listed entry member
  obtain ⟨sketch',found',sound⟩ := valid.sound name windows listed
  cases found.symm.trans found'
  refine ⟨sound.atLeast entry member,?_⟩
  intro i row
  obtain ⟨cause,present,here,same,minute⟩ := sound.caused entry member
  have whole : callsIn s.2 name entry.item entry.start = (callsOf s.2 name entry.item).length := by
    refine (callsIn_eq_length _).mpr ?_
    intro call member' here' same'
    rw [← minute]
    exact single call member' cause present (here'.trans here.symm) (same'.trans same.symm)
  have bound := sound.atMost entry member i row
  rw [colliding_split] at bound
  rw [whole]
  exact_mod_cast bound

theorem single_falls (valid : Valid s) (single : SingleMinute s.2) : FallsReported s := by
  intro name item falling
  exfalso
  obtain ⟨windows,listed,several,falls⟩ := falling
  obtain ⟨_,_,sound⟩ := valid.sound name windows listed
  have minutes : ∀ entry ∈ FrequencyAnalyzer.itemWindows windows item,
      ∃ call ∈ s.2, call.sketchName = name ∧ call.item = item ∧ windowStart call.time = entry.start := by
    intro entry member
    obtain ⟨present,same⟩ := List.mem_filter.mp ((sortByScore_perm _ _).mem_iff.mp member)
    obtain ⟨cause,rest⟩ := sound.caused entry present
    rw [of_decide_eq_true same] at rest
    exact ⟨cause,rest⟩
  match entries : FrequencyAnalyzer.itemWindows windows item with
  | [] => simp [entries] at several
  | [_] => simp [entries] at several
  | first :: second :: rest =>
      rw [entries] at falls minutes
      obtain ⟨cause,present,here,same,minute⟩ := minutes first (by simp)
      obtain ⟨cause',present',here',same',minute'⟩ := minutes second (by simp)
      have together := single cause present cause' present' (here.trans here'.symm) (same.trans same'.symm)
      have lower := (List.pairwise_cons.mp falls).1 second (by simp)
      rw [← minute,← minute',together] at lower
      exact Nat.lt_irrefl _ lower

theorem counted_throughout (calls : List TrackCall) (valid : Valid s) (single : SingleMinute s.2) :
    Throughout (trackStep text) (fun s => CountedPerMinute s ∧ FallsReported s) s calls ↔
      SingleMinute (s.2 ++ calls.map (tracked text)) := by
  induction calls generalizing s with
  | nil =>
      rw [List.map_nil,List.append_nil]
      exact iff_of_true ⟨single_counted valid single,single_falls valid single⟩ single
  | cons call rest ih =>
      have next := trackStep_valid text valid call
      have history : (trackStep text s call).1.2 = s.2 ++ [tracked text call] := rfl
      rw [List.map_cons,List.append_cons,← history]
      constructor
      · intro all
        have single' := counted_single text valid call single all.2.initial.1
        exact (ih next single').mp all.2
      · intro whole
        have single' : SingleMinute (trackStep text s call).1.2 := whole.initial
        exact ⟨⟨single_counted valid single,single_falls valid single⟩,(ih next single').mpr whole⟩

end Runs

def Rising (windows : List TimeWindowFrequency) : Prop :=
  windows.Pairwise (fun a b => a.item = b.item → a.start < b.start ∧ a.frequency ≤ b.frequency)

def NeverDecreasing (s : Recorded) : Prop :=
  ∀ name item pattern, s.1.analyzePattern name item = .ok pattern → pattern.type ≠ .decreasing

section Trends
variable {windows : List TimeWindowFrequency}

theorem recordFrequency_rising (rising : Rising windows)
    (below : ∀ entry ∈ windows, entry.item = item → entry.start ≤ start ∧ entry.frequency ≤ frequency) :
    Rising (recordFrequency item frequency start windows) := by
  induction windows with
  | nil => exact List.pairwise_singleton _ _
  | cons first rest ih =>
      obtain ⟨ahead,tail⟩ := List.pairwise_cons.mp rising
      unfold recordFrequency
      split
      · rename_i here
        refine List.pairwise_cons.mpr ⟨?_,tail⟩
        intro entry member same
        have later := (ahead entry member same).1
        have latest := (below entry (List.mem_cons_of_mem first member) (same.symm.trans here.1)).1
        rw [← here.2] at latest
        exact absurd later (not_lt.mpr latest)
      · rename_i other
        refine List.pairwise_cons.mpr ⟨?_,ih tail (fun entry member => below entry (List.mem_cons_of_mem first member))⟩
        intro entry member same
        rcases recordFrequency_mem member with rfl | earlier
        · obtain ⟨before,less⟩ := below first List.mem_cons_self same
          exact ⟨lt_of_le_of_ne before (fun equal => other ⟨same,equal⟩),less⟩
        · exact ahead entry earlier same

theorem itemWindows_rising (rising : Rising windows) (item : String) :
    FrequencyAnalyzer.itemWindows windows item = windows.filter (fun entry => decide (entry.item = item)) ∧
      (FrequencyAnalyzer.itemWindows windows item).Pairwise (fun a b => a.frequency ≤ b.frequency) := by
  have chosen : (windows.filter (fun entry => decide (entry.item = item))).Pairwise (fun a b =>
      a.start < b.start ∧ a.frequency ≤ b.frequency) := by
    refine (List.Pairwise.filter _ rising).imp_of_mem ?_
    intro a b here there rises
    have same := of_decide_eq_true (List.mem_filter.mp here).2
    have same' := of_decide_eq_true (List.mem_filter.mp there).2
    exact rises (same.trans same'.symm)
  have sorted : FrequencyAnalyzer.itemWindows windows item = windows.filter (fun entry => decide (entry.item = item)) :=
    (sortByScore_eq_self _ _).mpr (chosen.imp (fun rises => neg_le_neg (le_of_lt rises.1)))
  refine ⟨sorted,?_⟩
  rw [sorted]
  exact chosen.imp And.right

theorem calculateTrend_nonneg {frequencies : List ℚ} (positive : ∀ f ∈ frequencies, 0 ≤ f)
    (rising : frequencies.Pairwise (· ≤ ·)) : 0 ≤ calculateTrend frequencies := by
  unfold calculateTrend
  split
  · exact le_refl 0
  · rename_i several
    cases frequencies with
    | nil => simp at several
    | cons first rest =>
        have last : (first :: rest).getLastD 0 ∈ first :: rest := by
          rw [List.getLastD_eq_getLast?,List.getLast?_eq_some_getLast (by simp)]
          exact List.getLast_mem _
        have start : 0 ≤ first := positive first List.mem_cons_self
        have above : first ≤ (first :: rest).getLastD 0 := by
          rcases List.mem_cons.mp last with equal | later
          · rw [equal]
          · exact (List.pairwise_cons.mp rising).1 _ later
        dsimp only
        split
        · split
          · exact zero_le_one
          · exact le_refl 0
        · exact div_nonneg (sub_nonneg.mpr above) start

theorem patternOf_rising {frequencies : List ℚ} (positive : ∀ f ∈ frequencies, 0 ≤ f)
    (rising : frequencies.Pairwise (· ≤ ·)) : (FrequencyAnalyzer.patternOf frequencies).type ≠ .decreasing := by
  have trend := calculateTrend_nonneg positive rising
  unfold FrequencyAnalyzer.patternOf
  dsimp only
  split
  · simp
  · split
    · rename_i large
      rw [abs_of_nonneg trend] at large
      have upward : 0 < calculateTrend frequencies := lt_trans (by norm_num) large
      simp [upward]
    · simp

end Trends

section Ordered
variable (text : Cardinality.TextFunctions) {s : Recorded}

def AllRising (s : Recorded) : Prop := ∀ name windows, s.1.timeWindows.get name = some windows → Rising windows

theorem rising_neverDecreasing (valid : Valid s) (rising : AllRising s) : NeverDecreasing s := by
  intro name item pattern answered
  unfold FrequencyAnalyzer.analyzePattern at answered
  split at answered
  · cases answered
  · rename_i windows listed
    obtain ⟨_,_,sound⟩ := valid.sound name windows listed
    dsimp only at answered
    split at answered
    · cases answered
      simp
    · cases answered
      apply patternOf_rising
      · intro f member
        obtain ⟨entry,here,rfl⟩ := List.mem_map.mp member
        have present := (List.mem_filter.mp ((sortByScore_perm _ _).mem_iff.mp here)).1
        exact le_trans (Nat.cast_nonneg _) (sound.atLeast entry present)
      · exact List.pairwise_map.mpr (itemWindows_rising (rising name windows listed) item).2

def Latest (s : Recorded) (call : TrackCall) : Prop := ∀ past ∈ s.2, past.time ≤ call.moment.time

theorem trackStep_rising (valid : Valid s) (rising : AllRising s) (call : TrackCall) (latest : Latest s call) :
    AllRising (trackStep text s call).1 := by
  obtain ⟨sketch,windows,_,listed,sound,effect⟩ := trackStep_exact text valid call
  obtain ⟨⟨i,row,attained⟩,_⟩ := sound.estimate_least (tracked text call) rfl
  rw [effect]
  intro name windows' listed'
  simp only [OrderedMap.get_set] at listed'
  split at listed'
  · cases listed'
    refine List.Pairwise.filter _ (recordFrequency_rising (rising _ windows listed) ?_)
    intro entry member same
    obtain ⟨cause,present,_,_,minute⟩ := sound.caused entry member
    refine ⟨?_,?_⟩
    · rw [← minute]
      exact windowStart_mono (latest cause present)
    · have bound := sound.atMost entry member i row
      rw [same] at bound
      rw [attained]
      exact le_trans bound (colliding_snoc_le _ _ _ _)
  · exact rising name windows' listed'

theorem ordered_latest (calls : List TrackCall)
    (ordered : (s.2.map Tracked.time ++ calls.map (fun call => call.moment.time)).Pairwise (· ≤ ·)) :
    Along (trackStep text) Latest s calls := by
  induction calls generalizing s with
  | nil => trivial
  | cons call rest ih =>
      refine ⟨?_,ih ?_⟩
      · intro past member
        exact (List.pairwise_append.mp ordered).2.2 _ (List.mem_map_of_mem member) _ List.mem_cons_self
      · have history : (trackStep text s call).1.2 = s.2 ++ [tracked text call] := rfl
        rw [history,List.map_append,List.append_assoc]
        exact ordered

theorem never_decreasing (calls : List TrackCall)
    (ordered : (s.2.map Tracked.time ++ calls.map (fun call => call.moment.time)).Pairwise (· ≤ ·))
    (valid : Valid s) (rising : AllRising s) : Throughout (trackStep text) NeverDecreasing s calls := by
  have preserved : ∀ s call, Valid s ∧ AllRising s → Latest s call →
      Valid (trackStep text s call).1 ∧ AllRising (trackStep text s call).1 :=
    fun s call both latest => ⟨trackStep_valid text both.1 call,trackStep_rising text both.1 both.2 call latest⟩
  have all := throughout_of_along preserved ⟨valid,rising⟩ (ordered_latest text calls ordered)
  exact all.mono (fun s both => rising_neverDecreasing both.1 both.2)

end Ordered

-- Entries hold the calls of their own minute exactly as long as no item of a sketch
-- is tracked in two different minutes; and a decrease is never reported.
theorem window_counts_iff (text : Cardinality.TextFunctions) (random : ℚ) (calls : List TrackCall)
    (ordered : (calls.map (fun call => call.moment.time)).Pairwise (· ≤ ·)) :
    (Throughout (trackStep text) (fun s => CountedPerMinute s ∧ FallsReported s) (.create random,[]) calls ↔
      SingleMinute (calls.map (tracked text))) ∧
    Throughout (trackStep text) NeverDecreasing (.create random,[]) calls := by
  have empty : SingleMinute [] := by simp [SingleMinute]
  have rising : AllRising (.create random,[]) := by
    intro name windows listed
    rw [create_windows,OrderedMap.get_map] at listed
    obtain ⟨_,_,rfl⟩ := Option.map_eq_some_iff.mp listed
    exact List.Pairwise.nil
  exact ⟨counted_throughout text calls (create_valid random) empty,
    never_decreasing text calls ordered (create_valid random) rising⟩

-- Three calls from one address in the first minute and one in the second.
def slowingCalls : List TrackCall :=
  [0,1,2,60000].map (fun time => .trackIPAddress "10.0.0.1" ⟨some time,time,time⟩)

def plainText : Cardinality.TextFunctions := ⟨id,fun _ => none⟩

theorem window_counts_iff_slowing :
    (slowingCalls.map (fun call => call.moment.time)).Pairwise (· ≤ ·) ∧
      Throughout (trackStep plainText) NeverDecreasing (.create 0,[]) slowingCalls :=
  ⟨by decide,(window_counts_iff plainText 0 slowingCalls (by decide)).2⟩

-- The second minute's entry starts from the three calls of the first.
theorem slowing_calls_miscounted :
    ¬ ∀ (text : Cardinality.TextFunctions) (random : ℚ) (calls : List TrackCall),
      (calls.map (fun call => call.moment.time)).Pairwise (· ≤ ·) →
        Throughout (trackStep text) (fun s => CountedPerMinute s ∧ FallsReported s) (.create random,[]) calls := by
  intro all
  have run := all plainText 0 slowingCalls (by decide)
  have single := (counted_throughout plainText slowingCalls (create_valid 0) (by simp [SingleMinute])).mp run
  have listed : slowingCalls.map (tracked plainText) =
      [0,1,2,60000].map (fun time => ⟨"ip_addresses","10.0.0.1",time⟩) := rfl
  rw [List.nil_append,listed] at single
  have apart := single ⟨"ip_addresses","10.0.0.1",0⟩ (by simp) ⟨"ip_addresses","10.0.0.1",60000⟩ (by simp) rfl rfl
  cases apart

end PhantomFlow.Frequency
