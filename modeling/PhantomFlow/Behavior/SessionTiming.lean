import PhantomFlow.Behavior.BehavioralAnalyzer
import PhantomFlow.Library.Machine

namespace PhantomFlow.Behavior
open Library Library.Machine

def timesOf (sessionId : String) (calls : List AnalysisCall) : List ℤ :=
  (calls.filter (fun call => decide (call.requestData.sessionId = sessionId))).map AnalysisCall.now

def gaps : List ℤ → List ℤ
  | first :: second :: rest => (second - first) :: gaps (second :: rest)
  | _ => []

structure Measured (timing : TimingPattern) (times : List ℤ) : Prop where
  bursts : timing.burstRequests = (gaps times).countP (fun gap => decide (gap < 1000))
  idle : timing.idlePeriods = (gaps times).countP (fun gap => decide (300000 < gap))
  duration : ∀ first ∈ times.head?, ∀ last ∈ times.getLast?, timing.sessionDuration = last - first

-- What the analyzer has instead: every request is one of a burst, as it is measured
-- from itself.
structure SelfMeasured (timing : TimingPattern) (times : List ℤ) : Prop where
  bursts : timing.burstRequests = times.length
  idle : timing.idlePeriods = 0
  duration : timing.sessionDuration = 0

section Step
variable {analyzer : BehavioralAnalyzer} {call : AnalysisCall} {pattern : BehaviorPattern}

theorem updated_timing (pattern : BehaviorPattern) (call : AnalysisCall) :
    (pattern.updateBehaviorPattern call).timingPatterns.burstRequests = pattern.timingPatterns.burstRequests + 1 ∧
      (pattern.updateBehaviorPattern call).timingPatterns.idlePeriods = pattern.timingPatterns.idlePeriods ∧
      (pattern.updateBehaviorPattern call).timingPatterns.sessionDuration = 0 := by
  have stamped : ∀ informed : BehaviorPattern, (informed.updateRequestPatterns call).timestamp = informed.timestamp ∧
      (informed.updateRequestPatterns call).timingPatterns = informed.timingPatterns := by
    intro informed
    unfold BehaviorPattern.updateRequestPatterns
    dsimp only
    split <;> exact ⟨rfl,rfl⟩
  have timed : ∀ requested : BehaviorPattern, requested.timestamp = .date call.now →
      (requested.updateTimingPatterns call).timingPatterns.burstRequests = requested.timingPatterns.burstRequests + 1 ∧
        (requested.updateTimingPatterns call).timingPatterns.idlePeriods = requested.timingPatterns.idlePeriods ∧
        (requested.updateTimingPatterns call).timingPatterns.sessionDuration = 0 := by
    intro requested now
    simp [BehaviorPattern.updateTimingPatterns,now,Stamp.time]
  obtain ⟨time,timing⟩ := stamped
    { pattern with
      ipAddress := call.requestData.ipAddress
      userAgent := call.requestData.userAgent
      userId := call.requestData.userId
      timestamp := .date call.now }
  have result := timed _ time
  rw [timing] at result
  exact result

theorem analyze_cache (analyzer : BehavioralAnalyzer) (call : AnalysisCall) (sessionId : String) :
    (analyzer.analyze call).1.behaviorCache.get sessionId =
      if sessionId = call.requestData.sessionId
      then some ((analyzer.getBehaviorPattern call).updateBehaviorPattern call)
      else analyzer.behaviorCache.get sessionId := by
  have kept : (analyzer.storeBehaviorPattern call ((analyzer.getBehaviorPattern call).updateBehaviorPattern call)).behaviorCache =
      analyzer.behaviorCache := by
    unfold BehavioralAnalyzer.storeBehaviorPattern
    split <;> rfl
  rw [BehavioralAnalyzer.analyze,OrderedMap.get_set,kept]

theorem analyze_redis (analyzer : BehavioralAnalyzer) (call : AnalysisCall) (other : sessionId ≠ call.requestData.sessionId) :
    (analyzer.analyze call).1.redis.get sessionId = analyzer.redis.get sessionId := by
  unfold BehavioralAnalyzer.analyze BehavioralAnalyzer.storeBehaviorPattern
  dsimp only
  split
  · exact OrderedMap.get_set_other _ _ other
  · rfl

end Step

structure Follows (analyzer : BehavioralAnalyzer) (sessionId : String) (times : List ℤ) : Prop where
  unseen : times = [] → analyzer.behaviorCache.get sessionId = none ∧ analyzer.redis.get sessionId = none
  cached : times ≠ [] → ∃ pattern, analyzer.behaviorCache.get sessionId = some pattern ∧
    SelfMeasured pattern.timingPatterns times

section Runs
variable {analyzer : BehavioralAnalyzer} {call : AnalysisCall} {sessionId : String} {times : List ℤ}

theorem follows_create (sessionId : String) : Follows .create sessionId [] :=
  ⟨fun _ => ⟨rfl,rfl⟩,fun some' => absurd rfl some'⟩

theorem follows_other (follows : Follows analyzer sessionId times) (other : sessionId ≠ call.requestData.sessionId) :
    Follows (analyzer.analyze call).1 sessionId times := by
  constructor
  · intro none
    rw [analyze_cache,if_neg other,analyze_redis analyzer call other]
    exact follows.unseen none
  · intro some'
    rw [analyze_cache,if_neg other]
    exact follows.cached some'

theorem follows_own (follows : Follows analyzer call.requestData.sessionId times) :
    Follows (analyzer.analyze call).1 call.requestData.sessionId (times ++ [call.now]) := by
  constructor
  · intro none
    exact absurd none (by simp)
  · intro _
    refine ⟨_,by rw [analyze_cache,if_pos rfl],?_⟩
    obtain ⟨bursts,idle,duration⟩ := updated_timing (analyzer.getBehaviorPattern call) call
    have before : (analyzer.getBehaviorPattern call).timingPatterns.burstRequests = times.length ∧
        (analyzer.getBehaviorPattern call).timingPatterns.idlePeriods = 0 := by
      unfold BehavioralAnalyzer.getBehaviorPattern
      by_cases first : times = []
      · obtain ⟨uncached,unstored⟩ := follows.unseen first
        have absent : analyzer.redisGet call = none := by
          unfold BehavioralAnalyzer.redisGet
          rw [unstored]
          split <;> rfl
        rw [uncached,absent,first]
        exact ⟨rfl,rfl⟩
      · obtain ⟨pattern,cached,measured⟩ := follows.cached first
        rw [cached]
        exact ⟨measured.bursts,measured.idle⟩
    refine ⟨?_,?_,duration⟩
    · rw [bursts,before.1,List.length_append,List.length_singleton]
    · rw [idle,before.2]

theorem timesOf_snoc (sessionId : String) (calls : List AnalysisCall) (call : AnalysisCall) :
    timesOf sessionId (calls ++ [call]) =
      if call.requestData.sessionId = sessionId then timesOf sessionId calls ++ [call.now] else timesOf sessionId calls := by
  unfold timesOf
  rw [List.filter_append,List.map_append]
  by_cases own : call.requestData.sessionId = sessionId
  · simp [own]
  · simp [own]

theorem follows_run (calls : List AnalysisCall) (sessionId : String) :
    Follows (exec BehavioralAnalyzer.analyze .create calls).1 sessionId (timesOf sessionId calls) := by
  induction calls using List.reverseRecOn with
  | nil => exact follows_create sessionId
  | append_singleton calls call ih =>
      rw [exec_snoc,timesOf_snoc]
      by_cases own : call.requestData.sessionId = sessionId
      · rw [if_pos own]
        subst sessionId
        exact follows_own ih
      · rw [if_neg own]
        exact follows_other ih (fun same => own same.symm)

end Runs

section Law
variable {times : List ℤ}

theorem length_gaps (times : List ℤ) : (gaps times).length = times.length - 1 := by
  induction times with
  | nil => rfl
  | cons first rest ih =>
      cases rest with
      | nil => rfl
      | cons second rest =>
          rw [gaps,List.length_cons,ih]
          simp

theorem bursts_wrong (measured : SelfMeasured timing times) (some' : times ≠ []) :
    timing.burstRequests ≠ (gaps times).countP (fun gap => decide (gap < 1000)) := by
  have few := List.countP_le_length (p:=fun gap => decide (gap < 1000)) (l:=gaps times)
  have positive := List.length_pos_iff.mpr some'
  rw [length_gaps] at few
  rw [measured.bursts]
  omega

theorem idle_right (measured : SelfMeasured timing times) :
    timing.idlePeriods = (gaps times).countP (fun gap => decide (300000 < gap)) ↔ ∀ gap ∈ gaps times, gap ≤ 300000 := by
  rw [measured.idle,eq_comm,List.countP_eq_zero]
  simp only [decide_eq_true_eq,Int.not_lt]

theorem session_timing_exact (calls : List AnalysisCall) (sessionId : String) (requested : timesOf sessionId calls ≠ []) :
    ∃ pattern, (exec BehavioralAnalyzer.analyze .create calls).1.behaviorCache.get sessionId = some pattern ∧
      ¬ Measured pattern.timingPatterns (timesOf sessionId calls) ∧
      pattern.timingPatterns.burstRequests ≠
        (gaps (timesOf sessionId calls)).countP (fun gap => decide (gap < 1000)) ∧
      (pattern.timingPatterns.idlePeriods = (gaps (timesOf sessionId calls)).countP (fun gap => decide (300000 < gap)) ↔
        ∀ gap ∈ gaps (timesOf sessionId calls), gap ≤ 300000) ∧
      (∀ first ∈ (timesOf sessionId calls).head?, ∀ last ∈ (timesOf sessionId calls).getLast?,
        pattern.timingPatterns.sessionDuration = last - first ↔ first = last) := by
  obtain ⟨pattern,cached,measured⟩ := (follows_run calls sessionId).cached requested
  refine ⟨pattern,cached,?_,bursts_wrong measured requested,idle_right measured,?_⟩
  · intro law
    exact bursts_wrong measured requested law.bursts
  · intro first _ last _
    rw [measured.duration]
    omega

def visit (now : ℤ) : AnalysisCall := ⟨⟨"s1",none,"203.0.113.7","Mozilla/5.0","/","GET",none,false⟩,now,12,1,3,2,true⟩

-- Half a second and then a pause: one burst, one idle period, and neither is told.
theorem session_timing_exact_pause :
    ∃ pattern, (exec BehavioralAnalyzer.analyze .create [visit 0,visit 500,visit 400500]).1.behaviorCache.get "s1" =
        some pattern ∧
      pattern.timingPatterns.burstRequests ≠ 1 ∧ pattern.timingPatterns.idlePeriods ≠ 1 ∧
      pattern.timingPatterns.sessionDuration ≠ 400500 := by
  obtain ⟨pattern,cached,_,bursts,idle,duration⟩ :=
    session_timing_exact [visit 0,visit 500,visit 400500] "s1" (by decide)
  refine ⟨pattern,cached,bursts,?_,?_⟩
  · exact fun one => absurd (idle.mp one) (by decide)
  · exact fun whole => absurd ((duration 0 rfl 400500 rfl).mp whole) (by decide)

-- Two requests ten minutes apart: two bursts, no idle period, no duration.
theorem pause_missed : ¬ ∀ (calls : List AnalysisCall) (sessionId : String),
    calls.Pairwise (fun one two => one.now ≤ two.now) → timesOf sessionId calls ≠ [] → ∃ pattern,
      (exec BehavioralAnalyzer.analyze .create calls).1.behaviorCache.get sessionId = some pattern ∧
        Measured pattern.timingPatterns (timesOf sessionId calls) := by
  intro all
  obtain ⟨pattern,cached,law⟩ := all [visit 0,visit 600000] "s1" (by decide) (by decide)
  obtain ⟨pattern',cached',measured⟩ := (follows_run [visit 0,visit 600000] "s1").cached (by decide)
  rw [cached] at cached'
  cases cached'
  exact bursts_wrong measured (by decide) law.bursts

end Law
end PhantomFlow.Behavior
