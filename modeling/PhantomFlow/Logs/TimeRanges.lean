import Mathlib.Data.Int.Order.Basic
import Mathlib.Data.List.Count
import Mathlib.Data.List.Induction
import Mathlib.Order.Bounds.Basic
import PhantomFlow.Logs.LogAnalyzer

namespace PhantomFlow.Logs
open Library
variable {stamps : List ℤ}

theorem isLeast_min_cons (least : IsLeast {t | t ∈ min a b :: stamps} m) : IsLeast {t | t ∈ a :: b :: stamps} m := by
  obtain ⟨member,lowest⟩ := least
  refine ⟨?_,?_⟩
  · cases List.mem_cons.mp member with
    | inl first =>
        cases min_choice a b with
        | inl left => exact List.mem_cons.mpr (Or.inl (first.trans left))
        | inr right => exact List.mem_cons_of_mem a (List.mem_cons.mpr (Or.inl (first.trans right)))
    | inr others => exact List.mem_cons_of_mem a (List.mem_cons_of_mem b others)
  · intro t seen
    have low := lowest List.mem_cons_self
    cases List.mem_cons.mp seen with
    | inl first =>
        rw [first]
        exact low.trans (min_le_left a b)
    | inr others =>
        cases List.mem_cons.mp others with
        | inl first =>
            rw [first]
            exact low.trans (min_le_right a b)
        | inr others => exact lowest (List.mem_cons_of_mem (min a b) others)

theorem earlier_eq_min (set : start ≠ 0) (stamp : ℤ) : earlier start stamp = min start stamp := by
  unfold earlier
  split
  · rename_i moved
    exact (min_eq_right (moved.resolve_left set).le).symm
  · rename_i kept
    exact (min_eq_left (not_lt.mp (fun below => kept (Or.inr below)))).symm

theorem earlier_least (set : start ≠ 0) (kept : start < 0 ∨ 0 ∉ stamps) :
    IsLeast {t | t ∈ start :: stamps} (stamps.foldl earlier start) := by
  induction stamps generalizing start with
  | nil => exact ⟨List.mem_singleton.mpr rfl,fun t member => (List.mem_singleton.mp member).ge⟩
  | cons stamp rest ih =>
      rw [List.foldl_cons,earlier_eq_min set]
      apply isLeast_min_cons
      apply ih
      · cases kept with
        | inl negative => exact ((min_le_left start stamp).trans_lt negative).ne
        | inr absent =>
            cases min_choice start stamp with
            | inl left => rwa [left]
            | inr right =>
                rw [right]
                exact fun zero => absent (List.mem_cons.mpr (Or.inl zero.symm))
      · cases kept with
        | inl negative => exact Or.inl ((min_le_left start stamp).trans_lt negative)
        | inr absent => exact Or.inr (fun member => absent (List.mem_cons_of_mem stamp member))

theorem earlier_least_negative (unset : 0 ≤ start) (negative : ∃ t ∈ stamps, t < 0) :
    IsLeast {t | t ∈ stamps} (stamps.foldl earlier start) := by
  induction stamps generalizing start with
  | nil =>
      obtain ⟨t,member,_⟩ := negative
      cases member
  | cons stamp rest ih =>
      by_cases below : stamp < 0
      · have next : earlier start stamp = stamp := if_pos (Or.inr (below.trans_le unset))
        rw [List.foldl_cons,next]
        exact earlier_least below.ne (Or.inl below)
      · obtain ⟨t,member,under⟩ := negative
        have later : t ∈ rest := by
          cases List.mem_cons.mp member with
          | inl first => exact absurd (first ▸ under) below
          | inr others => exact others
        have next : 0 ≤ earlier start stamp := by
          unfold earlier
          split
          · exact not_lt.mp below
          · exact unset
        obtain ⟨inside,least⟩ := ih next ⟨t,later,under⟩
        rw [List.foldl_cons]
        refine ⟨List.mem_cons_of_mem stamp inside,?_⟩
        intro u seen
        cases List.mem_cons.mp seen with
        | inl first =>
            rw [first]
            exact ((least later).trans under.le).trans (not_lt.mp below)
        | inr others => exact least others

theorem earlier_zeros (zeros : ∀ t ∈ stamps, t = 0) : stamps.foldl earlier 0 = 0 := by
  induction stamps with
  | nil => rfl
  | cons stamp rest ih =>
      rw [List.forall_mem_cons] at zeros
      rw [List.foldl_cons,zeros.1]
      exact ih zeros.2

theorem earlier_nonneg (unset : 0 ≤ start) (none : ∀ t ∈ stamps, 0 ≤ t) : 0 ≤ stamps.foldl earlier start := by
  induction stamps generalizing start with
  | nil => exact unset
  | cons stamp rest ih =>
      rw [List.forall_mem_cons] at none
      apply ih _ none.2
      unfold earlier
      split
      · exact none.1
      · exact unset

theorem earlier_last_zero (none : ∀ t ∈ stamps, 0 ≤ t) : (stamps ++ [0]).foldl earlier 0 = 0 := by
  have before := earlier_nonneg le_rfl none
  rw [List.foldl_concat]
  unfold earlier
  split
  · rfl
  · rename_i kept
    exact absurd (not_or.mp kept) (fun both => both.1 (le_antisymm (not_lt.mp both.2) before))

theorem earlier_last_positive (none : ∀ t ∈ stamps, 0 ≤ t) (positive : 0 < stamp) :
    0 < (stamps ++ [stamp]).foldl earlier 0 := by
  have before := earlier_nonneg le_rfl none
  rw [List.foldl_concat]
  unfold earlier
  split
  · exact positive
  · rename_i kept
    exact lt_of_le_of_ne before (fun zero => kept (Or.inl zero.symm))

theorem later_eq (finish stamp : ℤ) : later finish stamp = -earlier (-finish) (-stamp) := by
  have opposite : (-finish = 0 ∨ -stamp < -finish) ↔ (finish = 0 ∨ finish < stamp) := by
    rw [neg_eq_zero,neg_lt_neg_iff]
  unfold later earlier
  by_cases moved : finish = 0 ∨ finish < stamp
  · rw [if_pos moved,if_pos (opposite.mpr moved),neg_neg]
  · rw [if_neg moved,if_neg (fun also => moved (opposite.mp also)),neg_neg]

theorem foldl_later (stamps : List ℤ) (finish : ℤ) :
    stamps.foldl later finish = -(stamps.map (fun t => -t)).foldl earlier (-finish) := by
  induction stamps generalizing finish with
  | nil => exact (neg_neg _).symm
  | cons stamp rest ih =>
      rw [List.foldl_cons,ih,later_eq,neg_neg,List.map_cons,List.foldl_cons]

def stampsOf (lines : List String) : List ℤ := (entriesOf lines).map LogEntry.timestamp

def parsedTime (line : String) : Option ℤ := (parseLogEntry line).bind (fun _ => (fields line).head?.bind parseTime)

def parsedTimes (lines : List String) : List ℤ := lines.filterMap parsedTime

theorem parseLogEntry_timestamp (parsed : parseLogEntry line = some entry) : entry.timestamp = (parsedTime line).getD 0 := by
  unfold parsedTime
  rw [parsed,Option.bind_some]
  unfold parseLogEntry at parsed
  split at parsed
  · rename_i time level source first rest split
    rw [split]
    cases parsed
    rfl
  · cases parsed

-- An hour of one digit and a fraction of a second, of which the layout has neither.
example : (parseLogEntry "2024-01-02T3:04:05.5 ERROR auth login failed").map LogEntry.timestamp = some 63839761445500000000 ∧
    parsedTime "2024-01-02T3:04:05.5 ERROR auth login failed" = some 63839761445500000000 := by decide

theorem parsedTime_entry (parsed : parsedTime line = some t) : ∃ entry, parseLogEntry line = some entry ∧ entry.timestamp = t := by
  cases entered : parseLogEntry line with
  | none =>
      unfold parsedTime at parsed
      rw [entered] at parsed
      cases parsed
  | some entry =>
      refine ⟨entry,rfl,?_⟩
      rw [parseLogEntry_timestamp entered,parsed]
      rfl

theorem mem_stampsOf_of_parsed (parsed : t ∈ parsedTimes lines) : t ∈ stampsOf lines := by
  obtain ⟨line,member,read⟩ := List.mem_filterMap.mp parsed
  obtain ⟨entry,entered,stamped⟩ := parsedTime_entry read
  exact List.mem_map.mpr ⟨entry,List.mem_filterMap.mpr ⟨line,member,entered⟩,stamped⟩

theorem mem_parsed_of_stampsOf (stamped : t ∈ stampsOf lines) (nonzero : t ≠ 0) : t ∈ parsedTimes lines := by
  obtain ⟨entry,member,rfl⟩ := List.mem_map.mp stamped
  obtain ⟨line,inside,entered⟩ := List.mem_filterMap.mp member
  have time := parseLogEntry_timestamp entered
  cases read : parsedTime line with
  | none =>
      rw [read] at time
      exact absurd time nonzero
  | some u =>
      rw [read] at time
      rw [time]
      exact List.mem_filterMap.mpr ⟨line,inside,read⟩

theorem stampsOf_append (first second : List String) : stampsOf (first ++ second) = stampsOf first ++ stampsOf second := by
  unfold stampsOf entriesOf
  rw [List.filterMap_append,List.map_append]

theorem stampsOf_perm (same : lines.Perm lines') : (stampsOf lines).Perm (stampsOf lines') := (same.filterMap _).map _

theorem exists_last (stamped : t ∈ stampsOf lines) : ∃ rest line, lines.Perm (rest ++ [line]) ∧ stampsOf [line] = [t] := by
  obtain ⟨entry,member,rfl⟩ := List.mem_map.mp stamped
  obtain ⟨line,inside,entered⟩ := List.mem_filterMap.mp member
  refine ⟨lines.erase line,line,?_,?_⟩
  · exact (List.perm_cons_erase inside).trans (List.perm_append_singleton _ _).symm
  · simp [stampsOf,entriesOf,entered]

structure Summarised (entries : List LogEntry) (result : AnalysisResult) : Prop where
  threats : result.threatCount = entries.countP (fun entry => decide (1/2 < entry.threatScore))
  errors : result.errorCount = entries.countP (fun entry => decide (entry.level = "ERROR"))
  warnings : result.warningCount = entries.countP (fun entry => decide (entry.level = "WARN"))
  start : result.timeRange.start = (entries.map LogEntry.timestamp).foldl earlier 0
  finish : result.timeRange.finish = (entries.map LogEntry.timestamp).foldl later 0
  sources : ∀ source, (result.sourceStats.get source).getD 0 = entries.countP (fun entry => decide (entry.source = source))
  present : ∀ source, (result.sourceStats.get source).isSome ↔ ∃ entry ∈ entries, entry.source = source

theorem Summarised.countEntry (summarised : Summarised entries result) (entry : LogEntry) :
    Summarised (entries ++ [entry]) (countEntry result entry) where
  threats := by
    change (if 1/2 < entry.threatScore then result.threatCount + 1 else result.threatCount) = _
    rw [summarised.threats,List.countP_append,List.countP_singleton]
    split <;> simp_all
  errors := by
    change (if entry.level = "ERROR" then result.errorCount + 1 else result.errorCount) = _
    rw [summarised.errors,List.countP_append,List.countP_singleton]
    split <;> simp_all
  warnings := by
    change (if entry.level = "ERROR" then result.warningCount
      else if entry.level = "WARN" then result.warningCount + 1 else result.warningCount) = _
    rw [summarised.warnings,List.countP_append,List.countP_singleton]
    by_cases error : entry.level = "ERROR"
    · simp [error]
    · by_cases warn : entry.level = "WARN" <;> simp [warn]
  start := by
    rw [List.map_append,List.map_singleton,List.foldl_concat,← summarised.start]
    rfl
  finish := by
    rw [List.map_append,List.map_singleton,List.foldl_concat,← summarised.finish]
    rfl
  sources := by
    intro source
    change ((result.sourceStats.set entry.source _).get source).getD 0 = _
    rw [OrderedMap.get_set,List.countP_append,List.countP_singleton,← summarised.sources source]
    by_cases same : source = entry.source
    · subst same
      simp
    · simp [same,Ne.symm same]
  present := by
    intro source
    change ((result.sourceStats.set entry.source _).get source).isSome ↔ _
    rw [OrderedMap.get_set]
    by_cases same : source = entry.source
    · subst same
      simp
    · rw [if_neg same,summarised.present source]
      simp [Ne.symm same]

theorem generateReport_summarised (entries : List LogEntry) : Summarised entries (generateReport entries) := by
  unfold generateReport
  generalize entries.length = total
  induction entries using List.reverseRecOn with
  | nil => exact ⟨rfl,rfl,rfl,rfl,rfl,fun _ => rfl,fun source => by simp [OrderedMap.get_empty]⟩
  | append_singleton entries entry ih =>
      rw [List.foldl_concat]
      exact ih.countEntry entry

def reportOf (lines : List String) : AnalysisResult := generateReport (entriesOf lines)

theorem reportOf_start (lines : List String) : (reportOf lines).timeRange.start = (stampsOf lines).foldl earlier 0 :=
  (generateReport_summarised (entriesOf lines)).start

theorem reportOf_finish (lines : List String) :
    (reportOf lines).timeRange.finish = -((stampsOf lines).map (fun t => -t)).foldl earlier 0 := by
  have finish := (generateReport_summarised (entriesOf lines)).finish
  rw [foldl_later,neg_zero] at finish
  exact finish

theorem generateReport_fixed (entries : List LogEntry) :
    (generateReport entries).totalEntries = entries.length ∧ (generateReport entries).topThreats = [] := by
  unfold generateReport
  generalize entries.length = total
  induction entries using List.reverseRecOn with
  | nil => exact ⟨rfl,rfl⟩
  | append_singleton entries entry ih =>
      rw [List.foldl_concat]
      exact ih

-- Two reports say the same; the counts by source are a map.
structure SameReport (result result' : AnalysisResult) : Prop where
  total : result.totalEntries = result'.totalEntries
  threats : result.threatCount = result'.threatCount
  errors : result.errorCount = result'.errorCount
  warnings : result.warningCount = result'.warningCount
  top : result.topThreats = result'.topThreats
  range : result.timeRange = result'.timeRange
  sources : ∀ source, result.sourceStats.get source = result'.sourceStats.get source

theorem sameReport_perm (same : lines.Perm lines') (range : (reportOf lines).timeRange = (reportOf lines').timeRange) :
    SameReport (reportOf lines) (reportOf lines') := by
  have entries : (entriesOf lines).Perm (entriesOf lines') := same.filterMap _
  have one := generateReport_summarised (entriesOf lines)
  have other := generateReport_summarised (entriesOf lines')
  have fixed := generateReport_fixed (entriesOf lines)
  have fixed' := generateReport_fixed (entriesOf lines')
  refine ⟨?_,?_,?_,?_,?_,range,?_⟩
  · exact (fixed.1.trans entries.length_eq).trans fixed'.1.symm
  · exact (one.threats.trans (entries.countP_eq _)).trans other.threats.symm
  · exact (one.errors.trans (entries.countP_eq _)).trans other.errors.symm
  · exact (one.warnings.trans (entries.countP_eq _)).trans other.warnings.symm
  · exact fixed.2.trans fixed'.2.symm
  · intro source
    have count := ((one.sources source).trans (entries.countP_eq _)).trans (other.sources source).symm
    have present : ((reportOf lines).sourceStats.get source).isSome ↔ ((reportOf lines').sourceStats.get source).isSome := by
      refine ((one.present source).trans ?_).trans (other.present source).symm
      exact ⟨fun found => found.imp (fun _ both => ⟨entries.mem_iff.mp both.1,both.2⟩),
        fun found => found.imp (fun _ both => ⟨entries.mem_iff.mpr both.1,both.2⟩)⟩
    change ((reportOf lines).sourceStats.get source).getD 0 = ((reportOf lines').sourceStats.get source).getD 0 at count
    cases here : (reportOf lines).sourceStats.get source with
    | none =>
        cases there : (reportOf lines').sourceStats.get source with
        | none => rfl
        | some n => simp [here,there] at present
    | some n =>
        cases there : (reportOf lines').sourceStats.get source with
        | none => simp [here,there] at present
        | some m =>
            rw [here,there] at count
            rw [show n = m from count]

-- Where the accumulated range is the range of the times: no time is zero, or all are, or
-- there are times on both sides.
def RangeClear (stamps : List ℤ) : Prop :=
  0 ∉ stamps ∨ (∀ t ∈ stamps, t = 0) ∨ ((∃ t ∈ stamps, t < 0) ∧ ∃ t ∈ stamps, 0 < t)

theorem RangeClear.perm (clear : RangeClear stamps) (same : stamps.Perm stamps') : RangeClear stamps' := by
  unfold RangeClear at clear ⊢
  simpa only [same.mem_iff] using clear

theorem RangeClear.neg (clear : RangeClear stamps) : RangeClear (stamps.map (fun t => -t)) := by
  refine clear.imp ?_ (Or.imp ?_ ?_)
  · intro absent member
    obtain ⟨t,inside,zero⟩ := List.mem_map.mp member
    rw [neg_eq_zero.mp zero] at inside
    exact absent inside
  · intro zeros t member
    obtain ⟨u,inside,rfl⟩ := List.mem_map.mp member
    exact neg_eq_zero.mpr (zeros u inside)
  · intro both
    obtain ⟨⟨t,before,negative⟩,u,after,positive⟩ := both
    exact ⟨⟨-u,List.mem_map_of_mem after,neg_lt_zero.mpr positive⟩,-t,List.mem_map_of_mem before,neg_pos.mpr negative⟩

theorem RangeClear.least (clear : RangeClear stamps) (some : stamps ≠ []) :
    IsLeast {t | t ∈ stamps} (stamps.foldl earlier 0) := by
  obtain absent | zeros | ⟨negative,_⟩ := clear
  · cases stamps with
    | nil => exact absurd rfl some
    | cons stamp rest =>
        rw [List.mem_cons,not_or] at absent
        have first : earlier 0 stamp = stamp := if_pos (Or.inl rfl)
        rw [List.foldl_cons,first]
        exact earlier_least (fun zero => absent.1 zero.symm) (Or.inr absent.2)
  · rw [earlier_zeros zeros]
    obtain ⟨stamp,member⟩ := List.exists_mem_of_ne_nil stamps some
    refine ⟨?_,fun t inside => (zeros t inside).ge⟩
    have zero := zeros stamp member
    rw [zero] at member
    exact member
  · exact earlier_least_negative le_rfl negative

theorem RangeClear.greatest (clear : RangeClear stamps) (some : stamps ≠ []) :
    IsGreatest {t | t ∈ stamps} (-(stamps.map (fun t => -t)).foldl earlier 0) := by
  obtain ⟨member,least⟩ := clear.neg.least (fun none => some (List.map_eq_nil_iff.mp none))
  constructor
  · obtain ⟨t,inside,same⟩ := List.mem_map.mp member
    rw [← same,neg_neg]
    exact inside
  · intro t inside
    exact le_neg.mpr (least (List.mem_map_of_mem (f:=fun t => -t) inside))

theorem RangeClear.range (clear : RangeClear (stampsOf lines)) (same : lines.Perm lines') :
    (reportOf lines).timeRange = (reportOf lines').timeRange := by
  have stamps := stampsOf_perm same
  have clear' := clear.perm stamps
  have sets : {t | t ∈ stampsOf lines} = {t | t ∈ stampsOf lines'} := Set.ext (fun t => stamps.mem_iff)
  have bounds : (reportOf lines).timeRange.start = (reportOf lines').timeRange.start ∧
      (reportOf lines).timeRange.finish = (reportOf lines').timeRange.finish := by
    rw [reportOf_start,reportOf_start,reportOf_finish,reportOf_finish]
    by_cases none : stampsOf lines = []
    · have none' : stampsOf lines' = [] := by
        rw [none] at stamps
        exact stamps.symm.eq_nil
      rw [none,none']
      exact ⟨rfl,rfl⟩
    · have some' : stampsOf lines' ≠ [] := by
        intro none'
        rw [none'] at stamps
        exact none stamps.eq_nil
      have least := clear.least none
      have greatest := clear.greatest none
      rw [sets] at least greatest
      exact ⟨least.unique (clear'.least some'),greatest.unique (clear'.greatest some')⟩
  cases one : (reportOf lines).timeRange
  cases other : (reportOf lines').timeRange
  rw [one,other] at bounds
  cases bounds.1
  cases bounds.2
  rfl

theorem RangeClear.parsed (clear : RangeClear (stampsOf lines)) (some : parsedTimes lines ≠ [])
    (bound : t ∈ stampsOf lines) (extreme : (∀ u ∈ stampsOf lines, t ≤ u) ∨ ∀ u ∈ stampsOf lines, u ≤ t) :
    t ∈ parsedTimes lines := by
  by_cases zero : t = 0
  · subst zero
    obtain ⟨u,member⟩ := List.exists_mem_of_ne_nil _ some
    have inside := mem_stampsOf_of_parsed member
    obtain absent | zeros | ⟨⟨before,within,negative⟩,after,within',positive⟩ := clear
    · exact absurd bound absent
    · rw [zeros u inside] at member
      exact member
    · cases extreme with
      | inl least => exact absurd (least before within) (not_le.mpr negative)
      | inr greatest => exact absurd (greatest after within') (not_le.mpr positive)
  · exact mem_parsed_of_stampsOf bound zero

-- A zero time moves the bound on the side on which there are other times, where there are
-- none on the other; `turn` says which side it is.
theorem bound_moves (turn : ℤ → ℤ) (origin : turn 0 = 0) (zero : 0 ∈ stampsOf lines) (other : t ∈ stampsOf lines)
    (positive : 0 < turn t) (none : ∀ u ∈ stampsOf lines, 0 ≤ turn u) :
    ∃ lines', lines.Perm lines' ∧
      ((stampsOf lines).map turn).foldl earlier 0 ≠ ((stampsOf lines').map turn).foldl earlier 0 := by
  obtain ⟨rest,line,last,stamp⟩ := exists_last zero
  obtain ⟨rest',line',last',stamp'⟩ := exists_last other
  have before : ∀ rest line, lines.Perm (rest ++ [line]) → ∀ u ∈ (stampsOf rest).map turn, 0 ≤ u := by
    intro rest line same u member
    obtain ⟨v,inside,rfl⟩ := List.mem_map.mp member
    apply none v
    rw [(stampsOf_perm same).mem_iff,stampsOf_append]
    exact List.mem_append_left _ inside
  have ends : ((stampsOf (rest ++ [line])).map turn).foldl earlier 0 = 0 := by
    rw [stampsOf_append,stamp,List.map_append,List.map_singleton,origin]
    exact earlier_last_zero (before rest line last)
  have ends' : 0 < ((stampsOf (rest' ++ [line'])).map turn).foldl earlier 0 := by
    rw [stampsOf_append,stamp',List.map_append,List.map_singleton]
    exact earlier_last_positive (before rest' line' last') positive
  by_cases here : ((stampsOf lines).map turn).foldl earlier 0 = 0
  · refine ⟨rest' ++ [line'],last',?_⟩
    rw [here]
    exact ends'.ne
  · refine ⟨rest ++ [line],last,?_⟩
    rw [ends]
    exact here

structure OrderFree (lines : List String) : Prop where
  same : ∀ lines', lines.Perm lines' → SameReport (reportOf lines) (reportOf lines')
  start : parsedTimes lines ≠ [] → IsLeast {t | t ∈ parsedTimes lines} (reportOf lines).timeRange.start
  finish : parsedTimes lines ≠ [] → IsGreatest {t | t ∈ parsedTimes lines} (reportOf lines).timeRange.finish

theorem OrderFree.clear (free : OrderFree lines) : RangeClear (stampsOf lines) := by
  by_cases zero : 0 ∈ stampsOf lines
  · right
    by_cases zeros : ∀ t ∈ stampsOf lines, t = 0
    · exact Or.inl zeros
    · right
      by_contra oneSided
      obtain ⟨t,member,nonzero⟩ : ∃ t ∈ stampsOf lines, t ≠ 0 := by
        by_contra none
        exact zeros (fun t member => by_contra (fun nonzero => none ⟨t,member,nonzero⟩))
      by_cases negative : ∃ u ∈ stampsOf lines, u < 0
      · have none : ∀ u ∈ stampsOf lines, 0 ≤ -u := fun u inside =>
          neg_nonneg.mpr (not_lt.mp (fun positive => oneSided ⟨negative,u,inside,positive⟩))
        obtain ⟨u,inside,below⟩ := negative
        obtain ⟨lines',perm,moved⟩ := bound_moves (fun t => -t) neg_zero zero inside (neg_pos.mpr below) none
        have finish := congrArg TimeRange.finish (free.same lines' perm).range
        rw [reportOf_finish,reportOf_finish,neg_inj] at finish
        exact moved finish
      · have none : ∀ u ∈ stampsOf lines, 0 ≤ u := fun u inside => not_lt.mp (fun below => negative ⟨u,inside,below⟩)
        have positive : 0 < t := lt_of_le_of_ne (none t member) (Ne.symm nonzero)
        obtain ⟨lines',perm,moved⟩ := bound_moves id rfl zero member positive none
        rw [List.map_id,List.map_id] at moved
        have start := congrArg TimeRange.start (free.same lines' perm).range
        rw [reportOf_start,reportOf_start] at start
        exact moved start
  · exact Or.inl zero

theorem order_free_exact (lines : List String) : OrderFree lines ↔
    0 ∉ stampsOf lines ∨ (∀ t ∈ stampsOf lines, t = 0) ∨
      ((∃ t ∈ stampsOf lines, t < 0) ∧ ∃ t ∈ stampsOf lines, 0 < t) := by
  constructor
  · intro free
    exact free.clear
  · intro condition
    have clear : RangeClear (stampsOf lines) := condition
    have nonempty : parsedTimes lines ≠ [] → stampsOf lines ≠ [] := by
      intro parsed none
      obtain ⟨t,member⟩ := List.exists_mem_of_ne_nil _ parsed
      have inside := mem_stampsOf_of_parsed member
      rw [none] at inside
      cases inside
    refine ⟨fun lines' same => sameReport_perm same (clear.range same),?_,?_⟩
    · intro parsed
      obtain ⟨member,least⟩ := clear.least (nonempty parsed)
      rw [reportOf_start]
      refine ⟨clear.parsed parsed member (Or.inl (fun u inside => least inside)),?_⟩
      exact fun u inside => least (mem_stampsOf_of_parsed inside)
    · intro parsed
      obtain ⟨member,greatest⟩ := clear.greatest (nonempty parsed)
      rw [reportOf_finish]
      refine ⟨clear.parsed parsed member (Or.inr (fun u inside => greatest inside)),?_⟩
      exact fun u inside => greatest (mem_stampsOf_of_parsed inside)

-- A line whose time cannot be parsed loses the start that was set before it.
theorem bad_line_resets_start : ¬ OrderFree ["2024-01-02T03:04:05 INFO api started","-- INFO api restarted"] := by
  intro free
  have clear := free.clear
  unfold RangeClear at clear
  exact absurd clear (by decide)

end PhantomFlow.Logs
