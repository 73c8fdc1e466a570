import PhantomFlow.Library.BoundedHistory
import PhantomFlow.Response.TemporaryBlocks

namespace PhantomFlow.Response
open Library Library.Machine

structure GivenAnswer where
  now : ℤ
  session : String
  level : ResponseLevel
  deriving DecidableEq

def ownTier (config : ResponseConfiguration) (riskScore : JsNumber ℚ) : Option ResponseTier :=
  config.tiers.find? (fun tier => tier.threshold.min.le riskScore && riskScore.le tier.threshold.max)

def nextTier (config : ResponseConfiguration) (level : ResponseLevel) : Option ResponseTier :=
  config.tiers.find? (fun tier => decide (tier.level = ResponseEngine.getNextEscalationLevel level))

namespace ResponseEngine

def decides (engine : ResponseEngine) (call : EngineCall) : Bool :=
  engine.config.enabled && !(engine.isSessionBlocked call.context.now call.context.key).1

def executedTier (engine : ResponseEngine) (call : EngineCall) : Option ResponseTier :=
  if engine.decides call then
    ((engine.isSessionBlocked call.context.now call.context.key).2.selectResponseTier call.context.now call.riskScore
      call.context.sessionId).map ResponseDecision.tier
  else none

end ResponseEngine

def given (call : EngineCall) (tier : ResponseTier) : GivenAnswer := ⟨call.context.now,call.context.sessionId,tier.level⟩

def escalationStep (s : ResponseEngine × List GivenAnswer) (call : EngineCall) :
    (ResponseEngine × List GivenAnswer) × Option ResponseTier :=
  (((s.1.answerCall call).1,s.2 ++ (s.1.executedTier call).toList.map (given call)),s.1.executedTier call)

def recentAnswers (call : EngineCall) (answers : List GivenAnswer) : List GivenAnswer :=
  answers.filter (fun answer =>
    decide (answer.session = call.context.sessionId) && decide (call.context.now - answer.now < 300000))

def recentViolations (call : EngineCall) (answers : List GivenAnswer) : List GivenAnswer :=
  (recentAnswers call answers).filter (fun answer => decide (answer.level ≠ .monitor))

def NextAbove (level above : ResponseLevel) : Prop :=
  ResponseEngine.levels.idxOf above = ResponseEngine.levels.idxOf level + 1

def Earned (s : ResponseEngine × List GivenAnswer) (call : EngineCall) : Prop :=
  ∀ tier, s.1.executedTier call = some tier → ∃ own, ownTier s.1.config call.riskScore = some own ∧
    (tier = own ∨ NextAbove own.level tier.level ∧ 3 ≤ (recentViolations call s.2).length)

-- Three recent answers are three recent violations, where there is a tier to escalate
-- to. The highest level has none above it, and escalates to its first tier.
def AnswersAreViolations (s : ResponseEngine × List GivenAnswer) (call : EngineCall) : Prop :=
  s.1.decides call = true → ∀ own next, ownTier s.1.config call.riskScore = some own →
    nextTier s.1.config own.level = some next → 3 ≤ (recentAnswers call s.2).length →
    next = own ∨ own.level ≠ .isolate ∧ 3 ≤ (recentViolations call s.2).length

-- A session whose own tier is always `monitor` is never answered at another level.
def HarmlessUntouched (config : ResponseConfiguration) (calls : List EngineCall) : Prop :=
  ∀ session, (∀ call ∈ calls, call.context.sessionId = session →
      ∀ own, ownTier config call.riskScore = some own → own.level = .monitor) →
    ∀ answer ∈ (exec escalationStep (.create config,[]) calls).1.2, answer.session = session → answer.level = .monitor

section Histories
variable {engine : ResponseEngine} {call : EngineCall} {answers : List GivenAnswer}

theorem executedTier_decided (decides : engine.decides call = true) :
    engine.executedTier call = (ownTier engine.config call.riskScore).map (fun own =>
      engine.applyEscalationLogic call.context.now own (engine.getResponseHistory call.context.sessionId)) := by
  rw [ResponseEngine.executedTier,if_pos decides,ResponseEngine.selectResponseTier,Option.map_map]
  rfl

theorem executedTier_undecided (undecided : engine.decides call = false) : engine.executedTier call = none := by
  rw [ResponseEngine.executedTier,if_neg (by rw [undecided]; exact Bool.false_ne_true)]

def remembered (engine : ResponseEngine) (session : String) : List (ℤ × ResponseLevel) :=
  (engine.getResponseHistory session).map (fun entry => (entry.timestamp,entry.tier))

theorem remembered_record (engine : ResponseEngine) (now : ℤ) (sessionId session : String) (decision : ResponseDecision) :
    remembered (engine.recordResponse now sessionId decision) session =
      if session = sessionId then (remembered engine session ++ [(now,decision.tier.level)]).rtake 50
      else remembered engine session := by
  unfold remembered ResponseEngine.recordResponse ResponseEngine.getResponseHistory
  dsimp only
  rw [OrderedMap.get_set]
  split
  · rename_i same
    subst session
    rw [Option.getD_some,← List.rtake,map_rtake,List.map_append]
    rfl
  · rfl

theorem remembered_answerCall (engine : ResponseEngine) (call : EngineCall) (session : String) :
    remembered (engine.answerCall call).1 session = match engine.executedTier call with
      | some tier => if session = call.context.sessionId
        then (remembered engine session ++ [(call.context.now,tier.level)]).rtake 50 else remembered engine session
      | none => remembered engine session := by
  cases enabled : engine.config.enabled with
  | false =>
      rw [executedTier_undecided (by rw [ResponseEngine.decides,enabled]; rfl),ResponseEngine.answerCall,
        executeResponse_disabled enabled]
  | true =>
      cases blocked : (engine.isSessionBlocked call.context.now call.context.key).1 with
      | true =>
          rw [executedTier_undecided (by rw [ResponseEngine.decides,enabled,blocked]; rfl),ResponseEngine.answerCall,
            executeResponse_blocked enabled blocked,handleBlockedSession_engine]
          rfl
      | false =>
          have decides : engine.decides call = true := by rw [ResponseEngine.decides,enabled,blocked]; rfl
          rw [ResponseEngine.executedTier,if_pos decides,ResponseEngine.answerCall,
            executeResponse_unblocked enabled blocked,ResponseEngine.respond]
          cases (engine.isSessionBlocked call.context.now call.context.key).2.selectResponseTier call.context.now
              call.riskScore call.context.sessionId with
          | none => rfl
          | some decision => exact remembered_record _ _ _ _ _

end Histories

section Runs
variable {s : ResponseEngine × List GivenAnswer} {call : EngineCall} {rest : List EngineCall}

def answersOf (session : String) (answers : List GivenAnswer) : List (ℤ × ResponseLevel) :=
  (answers.filter (fun answer => decide (answer.session = session))).map (fun answer => (answer.now,answer.level))

-- The engine remembers the last fifty answers of each session, and no answer is later
-- than the calls still to come.
structure Ahead (s : ResponseEngine × List GivenAnswer) (rest : List EngineCall) : Prop where
  agree : ∀ session, remembered s.1 session = (answersOf session s.2).rtake 50
  sorted : s.2.Pairwise (fun one two => one.now ≤ two.now)
  past : ∀ answer ∈ s.2, ∀ call ∈ rest, answer.now ≤ call.context.now
  ordered : rest.Pairwise (fun one two => one.context.now ≤ two.context.now)

theorem ahead_create (config : ResponseConfiguration)
    (ordered : rest.Pairwise (fun one two => one.context.now ≤ two.context.now)) :
    Ahead (ResponseEngine.create config,[]) rest :=
  ⟨fun _ => rfl,List.Pairwise.nil,fun _ present => (List.not_mem_nil present).elim,ordered⟩

theorem answersOf_given (call : EngineCall) (tier : ResponseTier) (session : String) (answers : List GivenAnswer) :
    answersOf session (answers ++ [given call tier]) =
      if session = call.context.sessionId then answersOf session answers ++ [(call.context.now,tier.level)]
      else answersOf session answers := by
  unfold answersOf
  rw [List.filter_append,List.map_append]
  split
  · rename_i same
    simp [given,same]
  · rename_i other
    have unselected : call.context.sessionId ≠ session := fun same => other same.symm
    simp [given,unselected]

theorem ahead_step (ahead : Ahead s (call :: rest)) : Ahead (escalationStep s call).1 rest := by
  obtain ⟨agree,sorted,past,ordered⟩ := ahead
  rw [List.pairwise_cons] at ordered
  have new : ∀ answer ∈ (s.1.executedTier call).toList.map (given call), answer.now = call.context.now := by
    intro answer present
    obtain ⟨tier,_,rfl⟩ := List.mem_map.mp present
    rfl
  refine ⟨fun session => ?_,?_,?_,ordered.2⟩
  · simp only [escalationStep]
    rw [remembered_answerCall]
    cases s.1.executedTier call with
    | none => simpa using agree session
    | some tier =>
        dsimp only [Option.toList_some]
        rw [List.map_singleton,answersOf_given,agree session]
        split
        · exact rtake_append_rtake _ _ (Nat.le_refl _)
        · rfl
  · apply List.pairwise_append.mpr
    refine ⟨sorted,?_,?_⟩
    · cases s.1.executedTier call with
      | none => exact List.Pairwise.nil
      | some tier => exact List.pairwise_singleton _ _
    · intro earlier before answer present
      rw [new answer present]
      exact past earlier before call List.mem_cons_self
  · intro answer present later here
    rcases List.mem_append.mp present with before | added
    · exact past answer before later (List.mem_cons_of_mem _ here)
    · rw [new answer added]
      exact ordered.1 later here

theorem recent_remembered (ahead : Ahead s (call :: rest)) :
    3 ≤ ((s.1.getResponseHistory call.context.sessionId).filter
      (fun entry => decide (call.context.now - entry.timestamp < 300000))).length ↔
    3 ≤ (recentAnswers call s.2).length := by
  let recent : ℤ × ResponseLevel → Bool := fun entry => decide (call.context.now - entry.1 < 300000)
  have stored : ((s.1.getResponseHistory call.context.sessionId).filter
      (fun entry => decide (call.context.now - entry.timestamp < 300000))).length =
        (remembered s.1 call.context.sessionId).countP recent := by
    rw [remembered,List.countP_map,List.countP_eq_length_filter]
    rfl
  have noted : (recentAnswers call s.2).length = (answersOf call.context.sessionId s.2).countP recent := by
    rw [answersOf,List.countP_map,List.countP_filter,List.countP_eq_length_filter,recentAnswers]
    congr 2
    funext answer
    exact Bool.and_comm _ _
  have last : (answersOf call.context.sessionId s.2).Pairwise (fun one two => recent one = true → recent two = true) := by
    unfold answersOf
    rw [List.pairwise_map]
    refine (ahead.sorted.filter _).imp ?_
    intro one two before
    simp only [recent,decide_eq_true_eq]
    omega
  rw [stored,noted,ahead.agree,countP_rtake 50 last]
  omega

theorem nextTier_level (found : nextTier config level = some next) :
    next.level = ResponseEngine.getNextEscalationLevel level := by
  have satisfied := List.find?_some found
  exact of_decide_eq_true satisfied

theorem nextAbove_next (level : ResponseLevel) :
    NextAbove level (ResponseEngine.getNextEscalationLevel level) ↔ level ≠ .isolate := by
  cases level <;> simp [NextAbove,ResponseEngine.getNextEscalationLevel,ResponseEngine.levels]

-- What a decided call executes: its own tier, or the next one where that exists, once
-- the session has had three answers in the last five minutes.
theorem executedTier_own (ahead : Ahead s (call :: rest)) (decides : s.1.decides call = true)
    (found : ownTier s.1.config call.riskScore = some own) (few : ¬ 3 ≤ (recentAnswers call s.2).length) :
    s.1.executedTier call = some own := by
  rw [executedTier_decided decides,found,Option.map_some,ResponseEngine.applyEscalationLogic,
    if_neg (fun three => few ((recent_remembered ahead).mp three))]

theorem executedTier_escalated (ahead : Ahead s (call :: rest)) (decides : s.1.decides call = true)
    (found : ownTier s.1.config call.riskScore = some own) (three : 3 ≤ (recentAnswers call s.2).length) :
    s.1.executedTier call = some ((nextTier s.1.config own.level).getD own) := by
  rw [executedTier_decided decides,found,Option.map_some,ResponseEngine.applyEscalationLogic,
    if_pos ((recent_remembered ahead).mpr three)]
  rfl

theorem earned_exact (ahead : Ahead s (call :: rest)) : Earned s call ↔ AnswersAreViolations s call := by
  cases decides : s.1.decides call with
  | false =>
      refine iff_of_true ?_ (fun decided => by rw [decides] at decided; cases decided)
      intro tier executed
      rw [executedTier_undecided decides] at executed
      cases executed
  | true =>
      constructor
      · intro earned _ own next found available three
        have escalated : s.1.executedTier call = some next := by
          rw [executedTier_escalated ahead decides found three,available,Option.getD_some]
        obtain ⟨own',found',justified⟩ := earned next escalated
        cases found.symm.trans found'
        rw [nextTier_level available,nextAbove_next] at justified
        exact justified
      · intro violations tier executed
        cases found : ownTier s.1.config call.riskScore with
        | none =>
            rw [executedTier_decided decides,found] at executed
            cases executed
        | some own =>
            refine ⟨own,rfl,?_⟩
            by_cases three : 3 ≤ (recentAnswers call s.2).length
            · rw [executedTier_escalated ahead decides found three] at executed
              cases available : nextTier s.1.config own.level with
              | none =>
                  rw [available] at executed
                  exact .inl (Option.some.inj executed).symm
              | some next =>
                  rw [available,Option.getD_some] at executed
                  cases executed
                  rw [nextTier_level available,nextAbove_next]
                  exact violations decides own tier found available three
            · rw [executedTier_own ahead decides found three] at executed
              exact .inl (Option.some.inj executed).symm

theorem escalationStep_config (s : ResponseEngine × List GivenAnswer) (call : EngineCall) :
    (escalationStep s call).1.1.config = s.1.config := executeResponse_config _ _ _ _

theorem recentViolations_none (harmless : ∀ answer ∈ answers, answer.session = call.context.sessionId →
    answer.level = .monitor) : recentViolations call answers = [] := by
  rw [recentViolations,List.filter_eq_nil_iff]
  intro answer present
  obtain ⟨noted,selected⟩ := List.mem_filter.mp present
  rw [Bool.and_eq_true,decide_eq_true_eq] at selected
  simp [harmless answer noted selected.1]

theorem harmless_step (earned : Earned s call)
    (harmless : ∀ answer ∈ s.2, answer.session = session → answer.level = .monitor)
    (own : call.context.sessionId = session → ∀ own, ownTier s.1.config call.riskScore = some own → own.level = .monitor) :
    ∀ answer ∈ (escalationStep s call).1.2, answer.session = session → answer.level = .monitor := by
  intro answer present same
  rcases List.mem_append.mp present with before | added
  · exact harmless answer before same
  · obtain ⟨tier,executed,rfl⟩ := List.mem_map.mp added
    have here : call.context.sessionId = session := same
    obtain ⟨base,found,justified⟩ := earned tier (Option.mem_toList.mp executed)
    rcases justified with rfl | ⟨_,three⟩
    · exact own here tier found
    · rw [recentViolations_none (fun answer present same => harmless answer present (same.trans here))] at three
      cases three

theorem harmless_run (calls : List EngineCall) (earned : Along escalationStep Earned s calls)
    (config : s.1.config = configured)
    (harmless : ∀ answer ∈ s.2, answer.session = session → answer.level = .monitor)
    (own : ∀ call ∈ calls, call.context.sessionId = session →
      ∀ own, ownTier configured call.riskScore = some own → own.level = .monitor) :
    ∀ answer ∈ (exec escalationStep s calls).1.2, answer.session = session → answer.level = .monitor := by
  induction calls generalizing s with
  | nil => exact harmless
  | cons call rest ih =>
      rw [List.forall_mem_cons] at own
      refine ih earned.2 ?_ ?_ own.2
      · exact (escalationStep_config s call).trans config
      · exact harmless_step earned.1 harmless (by rw [config]; exact own.1)

end Runs

-- Every escalation is earned, and a harmless session is left alone, exactly when the
-- answers that the engine counts are violations: it counts those at `monitor` too.
theorem escalation_earned_iff (config : ResponseConfiguration) (calls : List EngineCall)
    (ordered : calls.Pairwise (fun one two => one.context.now ≤ two.context.now)) :
    (Along escalationStep Earned (.create config,[]) calls ∧ HarmlessUntouched config calls) ↔
      Along escalationStep AnswersAreViolations (.create config,[]) calls := by
  have stepwise : Along escalationStep Earned (.create config,[]) calls ↔
      Along escalationStep AnswersAreViolations (.create config,[]) calls :=
    along_exact_ahead Ahead (fun _ _ _ => ahead_step) (fun _ _ _ => earned_exact) (ahead_create config ordered)
  constructor
  · intro both
    exact stepwise.mp both.1
  · intro violations
    have earned := stepwise.mpr violations
    refine ⟨earned,fun session own => harmless_run calls earned rfl ?_ own⟩
    intro answer present
    cases present

def request (now : ℤ) (score : ℚ) : EngineCall := ⟨⟨now,"203.0.113.7","s1",""⟩,.finite score,.fresh⟩

theorem escalation_earned_by_warnings :
    let calls := [request 0 (4/10),request 1000 (4/10),request 2000 (4/10),request 3000 (4/10)]
    (exec escalationStep (.create getDefaultResponseConfiguration,[]) calls).2.map
        (fun tier => tier.map ResponseTier.level) =
      [some .warn,some .warn,some .warn,some .restrict] ∧
    Along escalationStep Earned (.create getDefaultResponseConfiguration,[]) calls := by
  refine ⟨by decide +kernel,((escalation_earned_iff getDefaultResponseConfiguration _ (by decide)).mpr ?_).1⟩
  refine ⟨?_,?_,?_,?_,trivial⟩
  · exact fun _ _ _ _ _ three => absurd three (by decide)
  · exact fun _ _ _ _ _ three => absurd three (by decide +kernel)
  · exact fun _ _ _ _ _ three => absurd three (by decide +kernel)
  · intro _ own next found _ _
    have level : (ownTier getDefaultResponseConfiguration (.finite (4/10))).map ResponseTier.level = some .warn := by
      decide +kernel
    rw [escalationStep_config,escalationStep_config,escalationStep_config] at found
    have here : ownTier getDefaultResponseConfiguration (.finite (4/10)) = some own := found
    rw [here] at level
    refine .inr ⟨?_,by decide +kernel⟩
    rw [Option.some.inj level]
    exact fun same => by cases same

-- Four requests of the lowest risk within four seconds: the fourth is answered with
-- the tier `warn`.
theorem harmless_session_warned :
    let calls := [request 0 (1/10),request 1000 (1/10),request 2000 (1/10),request 3000 (1/10)]
    (exec escalationStep (.create getDefaultResponseConfiguration,[]) calls).2.map
        (fun tier => tier.map ResponseTier.level) =
      [some .monitor,some .monitor,some .monitor,some .warn] ∧
    ¬(Along escalationStep Earned (.create getDefaultResponseConfiguration,[]) calls ∧
      HarmlessUntouched getDefaultResponseConfiguration calls) := by
  refine ⟨by decide +kernel,fun both => ?_⟩
  have level : (ownTier getDefaultResponseConfiguration (.finite (1/10))).map ResponseTier.level = some .monitor := by
    decide +kernel
  have untouched := both.2 "s1" ?_ ⟨3000,"s1",.warn⟩ (by decide +kernel) rfl
  · cases untouched
  · intro call present _ own found
    have score : call.riskScore = .finite (1/10) := by
      simp only [List.mem_cons,List.not_mem_nil,or_false] at present
      rcases present with rfl | rfl | rfl | rfl <;> rfl
    rw [score] at found
    rw [found] at level
    exact Option.some.inj level

end PhantomFlow.Response
