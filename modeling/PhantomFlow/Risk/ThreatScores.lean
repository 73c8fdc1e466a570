import PhantomFlow.Behavior.BehavioralAnalyzer
import PhantomFlow.Risk.RiskScoringEngine
import PhantomFlow.Traffic.TrafficBaselines

namespace PhantomFlow.Risk
open Library Library.Machine

-- A request as `extractRequestData` gives it, with the draws that its behavioral
-- analysis makes. It has no user, no response time and no content length yet.
structure Visit where
  sessionId : String
  ipAddress : String
  userAgent : String
  requestPath : String
  requestMethod : String
  referer : Option String
  body : Bool
  mouseDraw : ℕ
  scrollDraw : ℕ

namespace Visit
variable (visit : Visit)

def forBehavior : Behavior.RequestData :=
  ⟨visit.sessionId,none,visit.ipAddress,visit.userAgent,visit.requestPath,visit.requestMethod,visit.referer,visit.body⟩

def forTraffic (_visit : Visit) : Traffic.RequestData := ⟨none,false,none⟩

def forRisk : RequestData := { sessionId := visit.sessionId, ipAddress := visit.ipAddress }

end Visit

structure CallScores where
  behavioral : Option ℚ
  statistical : Option ℚ
  relationship : Option ℚ

structure ThreatDetectionEngine where
  behavioralAnalyzer : Behavior.BehavioralAnalyzer
  statisticalAnalyzer : Traffic.BaselineAnalyzer
  relationshipAnalyzer : Analysis.RelationshipAnalyzer
  scores : ℕ → CallScores

def ThreatDetectionEngine.create : ThreatDetectionEngine :=
  ⟨.create,.create,.create,fun _ => ⟨none,none,none⟩⟩

-- The parts of the calls between their awaits, each under the number of its call.
inductive DetectionEvent where
  | initializeBaselineMetrics (found connected : Bool)
  | behavioral (call : ℕ) (now : ℤ) (hours day : ℕ) (connected : Bool)
  | updateTrafficWindow (call : ℕ) (connected : Bool) (now : ℤ) (windowMs : ℕ) (timestamp : ℤ)
  | statistical (call : ℕ) (connected : Bool) (now : ℤ)
  | cluster (call : ℕ)
  | relationship (call : ℕ) (attackId : String) (timestamp : ℤ)
  | contextualRisk (call : ℕ) (moment : Moment)

def scoreOf : Traffic.BaselineAnswer → Option ℚ
  | .assessed _ _ (.finite riskScore) => some riskScore
  | .failed riskScore => some riskScore
  | _ => none

namespace ThreatDetectionEngine
variable (lookup : String → Option Analysis.GeoLocation) (visits : ℕ → Visit) (s : ThreatDetectionEngine)

def analysisCall (visit : Visit) (now : ℤ) (hours day : ℕ) (connected : Bool) : Behavior.AnalysisCall :=
  ⟨visit.forBehavior,now,hours,day,visit.mouseDraw,visit.scrollDraw,connected⟩

-- A call analyzes its request once: what it already has a score of is not done again.
def step : DetectionEvent → ThreatDetectionEngine × Option ContextualRiskScore
  | .initializeBaselineMetrics found connected =>
    ({ s with statisticalAnalyzer := (s.statisticalAnalyzer.step (.initializeBaselineMetrics found connected)).1 },none)
  | .behavioral call now hours day connected =>
    if (s.scores call).behavioral.isSome then (s,none)
    else
      let analyzed := s.behavioralAnalyzer.analyze (analysisCall (visits call) now hours day connected)
      ({ s with
        behavioralAnalyzer := analyzed.1
        scores := Function.update s.scores call { s.scores call with behavioral := some analyzed.2 } },none)
  | .updateTrafficWindow call connected now windowMs timestamp =>
    ({ s with
      statisticalAnalyzer := (s.statisticalAnalyzer.step
        (.updateTrafficWindow connected now windowMs (visits call).forTraffic timestamp)).1 },none)
  | .statistical call connected now =>
    if (s.scores call).statistical.isSome then (s,none)
    else
      let assessed := s.statisticalAnalyzer.step (.assess connected now)
      ({ s with
        statisticalAnalyzer := assessed.1
        scores := Function.update s.scores call { s.scores call with statistical := scoreOf assessed.2 } },none)
  | .cluster call =>
    ({ s with
      relationshipAnalyzer := (s.relationshipAnalyzer.step lookup (.cluster (visits call).ipAddress)).1 },none)
  | .relationship call attackId timestamp =>
    if (s.scores call).relationship.isSome then (s,none)
    else
      let scored := s.relationshipAnalyzer.step lookup (.score (visits call).ipAddress attackId timestamp)
      ({ s with
        relationshipAnalyzer := scored.1
        scores := Function.update s.scores call { s.scores call with relationship := scored.2 } },none)
  | .contextualRisk call moment =>
    match s.scores call with
    | ⟨some behavioral,some statistical,some relationship⟩ =>
      (s,some (calculateContextualRisk getDefaultRiskScoringConfig lookup moment
        ⟨behavioral,statistical,relationship⟩ (visits call).forRisk))
    | _ => (s,none)

end ThreatDetectionEngine

section FreshSession
open Behavior

-- The first analysis of a session: nothing is suspicious about one request but too few
-- mouse movements, and how many there are is drawn.
def freshRisk (visit : Visit) : ℚ :=
  if visit.mouseDraw < 2 then
    if BehaviorPattern.isSuspiciousUserAgent visit.userAgent || BehaviorPattern.isSuspiciousIP visit.ipAddress
    then 1 else 972/1000
  else 1/10

theorem fresh_indicators (visit : Visit) (now : ℤ) (hours day : ℕ) (connected : Bool) :
    ((createNewBehaviorPattern visit.sessionId now).updateBehaviorPattern
      (ThreatDetectionEngine.analysisCall visit now hours day connected)).riskIndicators =
      if visit.mouseDraw < 2 then [⟨.interaction_robotic,9/10,"Robotic interaction pattern detected"⟩] else [] := by
  simp only [BehaviorPattern.updateBehaviorPattern,createNewBehaviorPattern,ThreatDetectionEngine.analysisCall,
    BehaviorPattern.updateRequestPatterns,List.findIdx?_nil,BehaviorPattern.updateTimingPatterns,
    BehaviorPattern.updateNavigationPatterns,BehaviorPattern.updateInteractionPatterns,
    BehaviorPattern.calculateRiskIndicators,BehaviorPattern.requestsPerMinute,BehaviorPattern.totalRequests,
    BehaviorPattern.averageMouseMovements,Stamp.time,Visit.forBehavior]
  norm_num
  split <;> norm_num

theorem freshRisk_eq (visit : Visit) (now : ℤ) (hours day : ℕ) (connected : Bool) :
    ((createNewBehaviorPattern visit.sessionId now).updateBehaviorPattern
      (ThreatDetectionEngine.analysisCall visit now hours day connected)).calculateBehavioralRisk = freshRisk visit := by
  unfold BehaviorPattern.calculateBehavioralRisk freshRisk
  rw [fresh_indicators]
  by_cases few : visit.mouseDraw < 2
  · rw [if_pos few,if_pos few,if_neg (List.cons_ne_nil _ _)]
    have agent : ((createNewBehaviorPattern visit.sessionId now).updateBehaviorPattern
        (ThreatDetectionEngine.analysisCall visit now hours day connected)).userAgent = visit.userAgent := rfl
    have address : ((createNewBehaviorPattern visit.sessionId now).updateBehaviorPattern
        (ThreatDetectionEngine.analysisCall visit now hours day connected)).ipAddress = visit.ipAddress := rfl
    have one : ((createNewBehaviorPattern visit.sessionId now).updateBehaviorPattern
        (ThreatDetectionEngine.analysisCall visit now hours day connected)).requestPatterns.length = 1 := rfl
    rw [agent,address,one]
    cases BehaviorPattern.isSuspiciousUserAgent visit.userAgent <;>
      cases BehaviorPattern.isSuspiciousIP visit.ipAddress <;> norm_num [riskThresholds]
  · rw [if_neg few,if_neg few,if_pos rfl]

end FreshSession

namespace ThreatDetectionEngine
variable {lookup : String → Option Analysis.GeoLocation} {visits : ℕ → Visit} {s : ThreatDetectionEngine}

structure Scored (visit : Visit) (scores : CallScores) : Prop where
  behavioral : ∀ score, scores.behavioral = some score → score = freshRisk visit
  statistical : ∀ score, scores.statistical = some score → 0 ≤ score ∧ (score ≤ 5/10 ∨ 6/10 ≤ score ∧ score ≤ 1)
  relationship : ∀ score, scores.relationship = some score → 0 ≤ score ∧ score ≤ 2/10

structure Sound (lookup : String → Option Analysis.GeoLocation) (visits : ℕ → Visit) (s : ThreatDetectionEngine) :
    Prop where
  cached : ∀ session pattern, s.behavioralAnalyzer.behaviorCache.get session = some pattern →
    ∃ call, (visits call).sessionId = session ∧ (s.scores call).behavioral.isSome = true
  stored : ∀ session pattern, s.behavioralAnalyzer.redis.get session = some pattern →
    ∃ call, (visits call).sessionId = session ∧ (s.scores call).behavioral.isSome = true
  statistical : ∃ recent, s.statisticalAnalyzer.Tracks recent
  relationship : ∃ events, Analysis.RelationshipAnalyzer.Follows lookup s.relationshipAnalyzer events
  scored : ∀ call, Scored (visits call) (s.scores call)

theorem sound_create : Sound lookup visits create := by
  refine ⟨?_,?_,⟨[],Traffic.BaselineAnalyzer.tracks_run [] (by simp)⟩,⟨[],Analysis.RelationshipAnalyzer.follows_create⟩,
    fun call => ⟨?_,?_,?_⟩⟩
  · intro session pattern found
    cases found
  · intro session pattern found
    cases found
  all_goals intro score found; cases found

theorem analyze_fresh (call : Behavior.AnalysisCall) (analyzer : Behavior.BehavioralAnalyzer)
    (uncached : analyzer.behaviorCache.get call.requestData.sessionId = none)
    (unstored : analyzer.redis.get call.requestData.sessionId = none) :
    analyzer.getBehaviorPattern call = Behavior.createNewBehaviorPattern call.requestData.sessionId call.now := by
  have nothing : analyzer.redisGet call = none := by
    rw [Behavior.BehavioralAnalyzer.redisGet,unstored]
    split <;> rfl
  rw [Behavior.BehavioralAnalyzer.getBehaviorPattern,uncached,nothing]

theorem analyze_cache_other (call : Behavior.AnalysisCall) (analyzer : Behavior.BehavioralAnalyzer)
    (other : session ≠ call.requestData.sessionId) :
    (analyzer.analyze call).1.behaviorCache.get session = analyzer.behaviorCache.get session := by
  unfold Behavior.BehavioralAnalyzer.analyze Behavior.BehavioralAnalyzer.storeBehaviorPattern
  dsimp only
  rw [OrderedMap.get_set_other _ _ other]
  split <;> rfl

theorem analyze_redis_other (call : Behavior.AnalysisCall) (analyzer : Behavior.BehavioralAnalyzer)
    (other : session ≠ call.requestData.sessionId) :
    (analyzer.analyze call).1.redis.get session = analyzer.redis.get session := by
  unfold Behavior.BehavioralAnalyzer.analyze Behavior.BehavioralAnalyzer.storeBehaviorPattern
  dsimp only
  split
  · exact OrderedMap.get_set_other _ _ other
  · rfl

theorem scored_update {scores : ℕ → CallScores} (scored : ∀ call, Scored (visits call) (scores call))
    (new : Scored (visits call) updated) : ∀ other, Scored (visits other) (Function.update scores call updated other) := by
  intro other
  by_cases same : other = call
  · subst same
    rwa [Function.update_self]
  · rw [Function.update_of_ne same]
    exact scored other

theorem Sound.behavioral (sound : Sound lookup visits s) (distinct : Function.Injective fun call => (visits call).sessionId)
    (call : ℕ) (now : ℤ) (hours day : ℕ) (connected : Bool) :
    Sound lookup visits (step lookup visits s (.behavioral call now hours day connected)).1 := by
  unfold step
  dsimp only
  split
  · exact sound
  · rename_i missing
    have unknown {other} (same : (visits other).sessionId = (visits call).sessionId) :
        ¬ (s.scores other).behavioral.isSome = true := by
      rw [distinct same]
      exact missing
    have uncached : s.behavioralAnalyzer.behaviorCache.get (visits call).sessionId = none := by
      cases found : s.behavioralAnalyzer.behaviorCache.get (visits call).sessionId with
      | none => rfl
      | some pattern =>
          obtain ⟨other,same,known⟩ := sound.cached _ _ found
          exact absurd known (unknown same)
    have unstored : s.behavioralAnalyzer.redis.get (visits call).sessionId = none := by
      cases found : s.behavioralAnalyzer.redis.get (visits call).sessionId with
      | none => rfl
      | some pattern =>
          obtain ⟨other,same,known⟩ := sound.stored _ _ found
          exact absurd known (unknown same)
    have fresh := analyze_fresh (analysisCall (visits call) now hours day connected) _ uncached unstored
    have later {other score} (either : (s.scores other).behavioral.isSome = true ∨ other = call) :
        (Function.update s.scores call { s.scores call with behavioral := some score } other).behavioral.isSome = true := by
      by_cases same : other = call
      · subst same
        rw [Function.update_self]
        rfl
      · rw [Function.update_of_ne same]
        exact either.resolve_right same
    refine { sound with cached := ?_, stored := ?_, scored := scored_update sound.scored ⟨?_,?_,?_⟩ }
    · intro session pattern found
      by_cases same : session = (visits call).sessionId
      · exact ⟨call,same.symm,later (.inr rfl)⟩
      · obtain ⟨other,named,known⟩ := sound.cached session pattern ((analyze_cache_other _ _ same).symm.trans found)
        exact ⟨other,named,later (.inl known)⟩
    · intro session pattern found
      by_cases same : session = (visits call).sessionId
      · exact ⟨call,same.symm,later (.inr rfl)⟩
      · obtain ⟨other,named,known⟩ := sound.stored session pattern ((analyze_redis_other _ _ same).symm.trans found)
        exact ⟨other,named,later (.inl known)⟩
    · intro score found
      rw [← Option.some.inj found]
      change ((s.behavioralAnalyzer.getBehaviorPattern _).updateBehaviorPattern _).calculateBehavioralRisk = _
      rw [fresh]
      exact freshRisk_eq (visits call) now hours day connected
    · exact (sound.scored call).statistical
    · exact (sound.scored call).relationship

theorem Sound.rescored {traffic : Traffic.BaselineAnalyzer} {places : Analysis.RelationshipAnalyzer}
    (sound : Sound lookup visits s) (updated : CallScores)
    (kept : updated.behavioral = (s.scores call).behavioral) (new : Scored (visits call) updated)
    (tracked : ∃ recent, traffic.Tracks recent)
    (followed : ∃ events, Analysis.RelationshipAnalyzer.Follows lookup places events) :
    Sound lookup visits ⟨s.behavioralAnalyzer,traffic,places,Function.update s.scores call updated⟩ := by
  have same : ∀ other, (Function.update s.scores call updated other).behavioral = (s.scores other).behavioral := by
    intro other
    by_cases here : other = call
    · subst here
      rw [Function.update_self,kept]
    · rw [Function.update_of_ne here]
  refine ⟨fun session pattern found => ?_,fun session pattern found => ?_,tracked,followed,
    scored_update sound.scored new⟩
  · obtain ⟨other,named,known⟩ := sound.cached session pattern found
    exact ⟨other,named,by rwa [same]⟩
  · obtain ⟨other,named,known⟩ := sound.stored session pattern found
    exact ⟨other,named,by rwa [same]⟩

theorem scoreOf_assess (tracks : Traffic.BaselineAnalyzer.Tracks t recent)
    (answered : scoreOf (t.step (.assess connected now)).2 = some score) :
    0 ≤ score ∧ (score ≤ 5/10 ∨ 6/10 ≤ score ∧ score ≤ 1) := by
  cases answer : (t.step (.assess connected now)).2 with
  | restarted => rw [answer] at answered; cases answered
  | silent => rw [answer] at answered; cases answered
  | failed riskScore =>
      have low : riskScore = 1/10 := by
        unfold Traffic.BaselineAnalyzer.step Traffic.BaselineAnalyzer.assess at answer
        dsimp only at answer
        split at answer
        · cases answer
          rfl
        · cases answer
      rw [answer] at answered
      rw [← Option.some.inj answered,low]
      norm_num
  | assessed stats anomaly riskScore =>
      obtain ⟨value,same,nonneg,most,flagged,quiet⟩ := tracks.separates answer
      subst same
      rw [answer] at answered
      obtain rfl := Option.some.inj answered
      refine ⟨nonneg,?_⟩
      cases set : anomaly.isAnomaly with
      | true => exact .inr ⟨flagged set,most⟩
      | false => exact .inl (quiet set)

theorem sound_step (distinct : Function.Injective fun call => (visits call).sessionId) (sound : Sound lookup visits s)
    (event : DetectionEvent) : Sound lookup visits (step lookup visits s event).1 := by
  obtain ⟨recent,tracks⟩ := sound.statistical
  obtain ⟨events,follows⟩ := sound.relationship
  cases event with
  | initializeBaselineMetrics found connected =>
      exact { sound with statistical := ⟨_,Traffic.BaselineAnalyzer.tracks_step _ trivial tracks⟩ }
  | behavioral call now hours day connected => exact sound.behavioral distinct call now hours day connected
  | updateTrafficWindow call connected now windowMs timestamp =>
      have measured : (Traffic.BaselineEvent.updateTrafficWindow connected now windowMs (visits call).forTraffic
          timestamp).Measured := ⟨le_rfl,le_rfl⟩
      exact { sound with statistical := ⟨_,Traffic.BaselineAnalyzer.tracks_step _ measured tracks⟩ }
  | statistical call connected now =>
      unfold step
      dsimp only
      split
      · exact sound
      · have next := Traffic.BaselineAnalyzer.tracks_step (.assess connected now) trivial tracks
        exact sound.rescored _ rfl ⟨(sound.scored call).behavioral,fun score found => scoreOf_assess tracks found,
          (sound.scored call).relationship⟩ ⟨_,next⟩ ⟨events,follows⟩
  | cluster call =>
      exact { sound with relationship := ⟨_,Analysis.RelationshipAnalyzer.follows_step follows _⟩ }
  | relationship call attackId timestamp =>
      unfold step
      dsimp only
      split
      · exact sound
      · refine sound.rescored _ rfl ⟨(sound.scored call).behavioral,(sound.scored call).statistical,fun score found => ?_⟩
          ⟨recent,tracks⟩ ⟨_,Analysis.RelationshipAnalyzer.follows_step follows _⟩
        have answer := Analysis.RelationshipAnalyzer.follows_score follows (visits call).ipAddress attackId timestamp
        rw [← Option.some.inj (answer.symm.trans found)]
        exact Analysis.RelationshipAnalyzer.geographicRisk_bounds lookup _ _
  | contextualRisk call moment =>
      unfold step
      dsimp only
      split <;> exact sound

end ThreatDetectionEngine
section Levels
variable {lookup : String → Option Analysis.GeoLocation} {visit : Visit} {moment : Moment}

def highRiskPlace (lookup : String → Option Analysis.GeoLocation) (ipAddress : String) : Bool :=
  match lookup ipAddress with
  | none => false
  | some geo => decide (geo.country ∈ ["CN","RU","KP","IR"])

def visitMultiplier (lookup : String → Option Analysis.GeoLocation) (moment : Moment) (visit : Visit) : ℚ :=
  sensitizedMultiplier getDefaultRiskScoringConfig (extractRiskContext lookup moment visit.forRisk)

theorem highRiskPlace_eq (lookup : String → Option Analysis.GeoLocation) (visit : Visit) :
    decide (7/10 < (extractGeographicContext lookup visit.forRisk).riskScore) = highRiskPlace lookup visit.ipAddress := by
  unfold extractGeographicContext highRiskPlace calculateGeographicRisk
  change decide (7/10 < (match lookup visit.ipAddress with | none => _ | some geo => _ : GeographicContext).riskScore) = _
  cases lookup visit.ipAddress with
  | none => norm_num
  | some geo =>
      dsimp only
      split <;> simp_all <;> norm_num

theorem geographic_plain (lookup : String → Option Analysis.GeoLocation) (visit : Visit) :
    (extractGeographicContext lookup visit.forRisk).isVpn = false ∧
      (extractGeographicContext lookup visit.forRisk).isProxy = false ∧
      (extractGeographicContext lookup visit.forRisk).isTor = false := by
  unfold extractGeographicContext
  split <;> exact ⟨rfl,rfl,rfl⟩

-- A request comes without a user and without a session's length, so the factors of new
-- and unauthenticated users and of short sessions are always in.
theorem visitMultiplier_eq (lookup : String → Option Analysis.GeoLocation) (moment : Moment) (visit : Visit) :
    visitMultiplier lookup moment visit = 1 + ((if (extractTemporalContext moment visit.forRisk).isBusinessHours then 1
      else 12/10) * (if (extractTemporalContext moment visit.forRisk).isWeekend then 11/10 else 1) *
      (if moment.hours ≤ 6 then 13/10 else 1) * (if highRiskPlace lookup visit.ipAddress then 14/10 else 1) *
      (1452/1000) - 1) * (7/10) := by
  have user : extractBehavioralContext moment visit.forRisk =
      ⟨.new,moment.now - moment.now,.medium,true⟩ := rfl
  have session : (extractSessionContext visit.forRisk).isAuthenticated = false ∧
      (extractSessionContext visit.forRisk).sessionDuration = 0 := ⟨rfl,rfl⟩
  have network : extractNetworkContext visit.forRisk = ⟨1/10,false⟩ := by
    norm_num [extractNetworkContext,getIpReputation]
  have hour : (extractTemporalContext moment visit.forRisk).timeOfDay = moment.hours := rfl
  have frequency : (extractTemporalContext moment visit.forRisk).requestFrequency = 0 := rfl
  have human : ¬ InteractionLevel.medium = .botLike := by decide
  have unsuspected : ¬ UserType.new = .suspicious := by decide
  have opposite (business : Bool) (factor : ℚ) :
      (if (!business) = true then factor else 1) = if business = true then 1 else factor := by
    cases business <;> rfl
  unfold visitMultiplier sensitizedMultiplier extractRiskContext contextFactors
  simp only [raised_cons,highRiskPlace_eq,geographic_plain,user,session,network,hour,frequency]
  rw [opposite]
  norm_num [raised,getDefaultRiskScoringConfig,human,unsuspected]

theorem visitMultiplier_bounds (lookup : String → Option Analysis.GeoLocation) (moment : Moment) (visit : Visit) :
    13164/10000 ≤ visitMultiplier lookup moment visit ∧ visitMultiplier lookup moment visit ≤ 27418/10000 := by
  rw [visitMultiplier_eq]
  split_ifs <;> norm_num

theorem visitMultiplier_night (night : moment.hours ≤ 6) : 18855/10000 ≤ visitMultiplier lookup moment visit := by
  have closed : (extractTemporalContext moment visit.forRisk).isBusinessHours = false :=
    decide_eq_false fun working => by omega
  rw [visitMultiplier_eq,closed,if_neg Bool.false_ne_true,if_pos night]
  split_ifs <;> norm_num

theorem visitMultiplier_weekday (weekday : 1 ≤ moment.day ∧ moment.day ≤ 5)
    (ordinary : highRiskPlace lookup visit.ipAddress = false) :
    visitMultiplier lookup moment visit ≤ 18856/10000 := by
  have working : (extractTemporalContext moment visit.forRisk).isWeekend = false :=
    decide_eq_false fun weekend => by omega
  rw [visitMultiplier_eq,working,ordinary,if_neg Bool.false_ne_true,if_neg Bool.false_ne_true]
  split_ifs <;> norm_num

theorem level_lower (score : ℚ) :
    (5/10 ≤ score → 1 ≤ (determineRiskLevel getDefaultRiskScoringConfig score).rank) ∧
      (7/10 ≤ score → 2 ≤ (determineRiskLevel getDefaultRiskScoringConfig score).rank) := by
  unfold determineRiskLevel getDefaultRiskScoringConfig
  dsimp only
  constructor <;> intro high <;> split_ifs <;> simp [RiskLevel.rank]

theorem level_upper (score : ℚ) :
    (score < 7/10 → (determineRiskLevel getDefaultRiskScoringConfig score).rank ≤ 1) ∧
      (score < 5/10 → determineRiskLevel getDefaultRiskScoringConfig score = .low) := by
  unfold determineRiskLevel getDefaultRiskScoringConfig
  dsimp only
  constructor <;> intro less <;> split_ifs <;> first | rfl | (exfalso; linarith) | simp [RiskLevel.rank]

end Levels

namespace ThreatDetectionEngine
variable {lookup : String → Option Analysis.GeoLocation} {visits : ℕ → Visit} {s : ThreatDetectionEngine}

theorem answered_scores (answered : (step lookup visits s (.contextualRisk call moment)).2 = some result) :
    ∃ behavioral statistical relationship, s.scores call = ⟨some behavioral,some statistical,some relationship⟩ ∧
      result = calculateContextualRisk getDefaultRiskScoringConfig lookup moment
        ⟨behavioral,statistical,relationship⟩ (visits call).forRisk := by
  unfold step at answered
  dsimp only at answered
  split at answered
  · rename_i behavioral statistical relationship known
    exact ⟨behavioral,statistical,relationship,known,(Option.some.inj answered).symm⟩
  · cases answered

theorem freshRisk_bounds (visit : Visit) :
    (visit.mouseDraw < 2 → 972/1000 ≤ freshRisk visit) ∧ (2 ≤ visit.mouseDraw → freshRisk visit = 1/10) := by
  unfold freshRisk
  constructor
  · intro few
    rw [if_pos few]
    split <;> norm_num
  · intro many
    rw [if_neg (not_lt.mpr many)]

-- As long as the statistical analyzer sees no anomaly, it is the draw of the mouse
-- movements that decides: with less than two of them every request is at least of medium
-- risk, and of high risk at night; with two or more none is of high risk, and from Monday
-- to Friday from an ordinary place all are of low risk.
theorem draw_decides_level (distinct : Function.Injective fun call => (visits call).sessionId)
    (events : List DetectionEvent) (call : ℕ) (moment : Moment)
    (answered : (step lookup visits (exec (step lookup visits) create events).1 (.contextualRisk call moment)).2 =
      some result) :
    ((visits call).mouseDraw < 2 → 1 ≤ result.riskLevel.rank ∧ (moment.hours ≤ 6 → 2 ≤ result.riskLevel.rank)) ∧
      (2 ≤ (visits call).mouseDraw →
        (∀ score, ((exec (step lookup visits) create events).1.scores call).statistical = some score → score < 6/10) →
        result.riskLevel.rank ≤ 1 ∧
          (1 ≤ moment.day ∧ moment.day ≤ 5 → highRiskPlace lookup (visits call).ipAddress = false →
            result.riskLevel = .low)) := by
  have sound : Sound lookup visits (exec (step lookup visits) create events).1 :=
    exec_invariant (fun (s : ThreatDetectionEngine) event (sound : Sound lookup visits s) =>
      sound_step distinct sound event) sound_create events
  obtain ⟨behavioral,statistical,relationship,known,rfl⟩ := answered_scores answered
  have scored := sound.scored call
  rw [known] at scored ⊢
  have draw := freshRisk_bounds (visits call)
  rw [← scored.behavioral behavioral rfl] at draw
  obtain ⟨statisticalNonneg,statisticalGap⟩ := scored.statistical statistical rfl
  obtain ⟨relationshipNonneg,relationshipMost⟩ := scored.relationship relationship rfl
  obtain ⟨least,most⟩ := visitMultiplier_bounds lookup moment (visits call)
  have nonneg : 0 ≤ behavioral := by
    rcases Nat.lt_or_ge (visits call).mouseDraw 2 with few | many
    · linarith [draw.1 few]
    · rw [draw.2 many]
      norm_num
  have base : 0 ≤ behavioral * (4/10) + statistical * (3/10) + relationship * (3/10) := by linarith
  have above {least base score : ℚ} (known : base ≤ behavioral * (4/10) + statistical * (3/10) + relationship * (3/10))
      (multiplied : least ≤ visitMultiplier lookup moment (visits call)) (positive : 0 ≤ least) (large : score ≤ base * least)
      (small : score ≤ 1) : score ≤ min ((behavioral * (4/10) + statistical * (3/10) + relationship * (3/10)) *
        visitMultiplier lookup moment (visits call)) 1 :=
    le_min (large.trans (mul_le_mul known multiplied positive (by linarith))) small
  refine ⟨fun few => ?_,fun many quiet => ?_⟩
  · have high := draw.1 few
    have whole : 3888/10000 ≤ behavioral * (4/10) + statistical * (3/10) + relationship * (3/10) := by linarith
    refine ⟨(level_lower _).1 (above whole least (by norm_num) (by norm_num) (by norm_num)),fun night => ?_⟩
    exact (level_lower _).2 (above whole (visitMultiplier_night night) (by norm_num) (by norm_num) (by norm_num))
  · have low := draw.2 many
    have calm : statistical ≤ 5/10 := statisticalGap.resolve_right fun high => absurd (quiet statistical rfl) (not_lt.mpr high.1)
    have whole : behavioral * (4/10) + statistical * (3/10) + relationship * (3/10) ≤ 1/4 := by linarith
    refine ⟨(level_upper _).1 ((min_le_left _ _).trans_lt ?_),fun weekday ordinary => (level_upper _).2 ((min_le_left _ _).trans_lt ?_)⟩
    · exact (mul_le_mul whole most (zero_le_one.trans ((by norm_num : (1 : ℚ) ≤ 13164/10000).trans least)) (by norm_num)).trans_lt
        (by norm_num)
    · have ordinarily := visitMultiplier_weekday weekday ordinary
      exact (mul_le_mul whole ordinarily (zero_le_one.trans ((by norm_num : (1 : ℚ) ≤ 13164/10000).trans least))
        (by norm_num)).trans_lt (by norm_num)

def visitor (call : ℕ) : Visit := ⟨String.ofList (List.replicate call 'a'),"","","/","GET",none,false,5,0⟩

def firstVisit : List DetectionEvent :=
  [.initializeBaselineMetrics false true,.behavioral 0 0 12 3 true,.updateTrafficWindow 0 false 0 60000 0,
    .statistical 0 true 0,.cluster 0,.relationship 0 "" 0]

theorem visitor_distinct : Function.Injective fun call => (visitor call).sessionId := by
  intro one two same
  have lengths := congrArg String.toList same
  simp only [visitor,String.toList_ofList] at lengths
  simpa using congrArg List.length lengths

theorem firstVisit_decided : ∃ result,
    (step (fun _ => none) visitor (exec (step (fun _ => none) visitor) create firstVisit).1
      (.contextualRisk 0 ⟨5,3,0⟩)).2 = some result ∧
    (((visitor 0).mouseDraw < 2 → 1 ≤ result.riskLevel.rank ∧ (5 ≤ 6 → 2 ≤ result.riskLevel.rank)) ∧
      (2 ≤ (visitor 0).mouseDraw →
        (∀ score, ((exec (step (fun _ => none) visitor) create firstVisit).1.scores 0).statistical = some score →
          score < 6/10) →
        result.riskLevel.rank ≤ 1 ∧
          (1 ≤ 3 ∧ 3 ≤ 5 → highRiskPlace (fun _ => none) (visitor 0).ipAddress = false →
            result.riskLevel = .low))) := by
  have known : (step (fun _ => none) visitor (exec (step (fun _ => none) visitor) create firstVisit).1
      (.contextualRisk 0 ⟨5,3,0⟩)).2.isSome = true := by decide +kernel
  have answer := (Option.some_get known).symm
  exact ⟨_,answer,draw_decides_level visitor_distinct firstVisit 0 ⟨5,3,0⟩ answer⟩

end ThreatDetectionEngine
end PhantomFlow.Risk
