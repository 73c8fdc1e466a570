import PhantomFlow.Markov.Distributions

namespace PhantomFlow.Markov
open Library Library.Machine

-- What a further run can tell of a chain: the answers, and the learned transitions
-- with their metadata at its end.
def Lossless [Field K] [LinearOrder K] [FloorRing K] (math : JsMath K) (chain : MarkovChain K) : Prop :=
  ∀ operations : List (Operation K),
    (exec (step math) (.deserialize chain.serialize) operations).2 = (exec (step math) chain operations).2 ∧
    (exec (step math) (.deserialize chain.serialize) operations).1.transitionMatrix.transitions =
      (exec (step math) chain operations).1.transitionMatrix.transitions

-- Some visit of the transition had a positive duration, and its probability is a
-- finite number.
def Timed [Zero K] [LT K] (transition : StateTransition K) : Prop :=
  0 < transition.maxDuration ∧ transition.probability.isFinite = true

instance [Zero K] [LT K] [DecidableLT K] (transition : StateTransition K) : Decidable (Timed transition) :=
  inferInstanceAs (Decidable (_ ∧ _))

def Stored (holds : StateTransition K → Prop) (chain : MarkovChain K) : Prop :=
  ∀ row ∈ chain.transitionMatrix.transitions.values, ∀ transition ∈ row.values, holds transition

instance (holds : StateTransition K → Prop) [DecidablePred holds] (chain : MarkovChain K) :
    Decidable (Stored holds chain) :=
  inferInstanceAs (Decidable (∀ row ∈ chain.transitionMatrix.transitions.values, ∀ transition ∈ row.values,
    holds transition))

def Operation.isReload : Operation K → Bool
  | .reload => true
  | _ => false

section Rows
variable {K : Type} {chain : MarkovChain K} {holds : StateTransition K → Prop}

theorem stored_of_transitions {other : MarkovChain K}
    (same : other.transitionMatrix.transitions = chain.transitionMatrix.transitions) (stored : Stored holds chain) :
    Stored holds other := by
  unfold Stored at stored ⊢
  rw [same]
  exact stored

theorem pruneTransitions_stored (stored : Stored holds chain) : Stored holds chain.pruneTransitions := by
  intro row member transition here
  obtain ⟨original,before,rfl,_⟩ := (pruneTransitions_rows chain row).mp member
  exact stored original before transition (mem_filtered.mp here).1

theorem create_stored (config : MarkovChainConfig K) (now : ℤ) : Stored holds (.create config now) := by
  intro row member
  simp [MarkovChain.create,initializeTransitionMatrix,OrderedMap.values,OrderedMap.empty] at member

end Rows

-- A fact about single transitions that a visit establishes and keeps, and that does
-- not depend on the refreshed probabilities, holds of every stored transition.
structure Observable [Field K] [LinearOrder K] (holds : StateTransition K → Prop) : Prop where
  first : ∀ now source target state, holds (MarkovChain.observe now (MarkovChain.newTransition now source target) state)
  again : ∀ now transition state, holds transition → holds (MarkovChain.observe now transition state)
  refreshed : ∀ (transition : StateTransition K) probability confidence, holds transition →
    holds { transition with probability := .number probability, confidence := confidence }

section Learning
variable {K : Type} [Field K] [LinearOrder K] {chain : MarkovChain K} {holds : StateTransition K → Prop}
  (math : JsMath K) (now : ℤ)

theorem updateTransition_stored (observable : Observable holds) (context : List Code) (nextState : Code)
    (state : BehavioralState K) (stored : Stored holds chain) :
    Stored holds (chain.updateTransition math now context nextState state) := by
  intro row member
  rcases OrderedMap.mem_values_set member with rfl | old
  · intro transition here
    rw [MarkovChain.updateProbabilities,OrderedMap.values_map] at here
    obtain ⟨counted,inside,rfl⟩ := List.mem_map.mp here
    apply observable.refreshed
    rcases OrderedMap.mem_values_set inside with rfl | original
    · cases found : ((chain.transitionMatrix.transitions.get context).getD .empty).get nextState with
      | none => exact observable.first _ _ _ _
      | some before =>
          apply observable.again
          cases rowFound : chain.transitionMatrix.transitions.get context with
          | none => simp [rowFound] at found
          | some row =>
              rw [rowFound] at found
              exact stored row ((OrderedMap.mem_values _ _).mpr ⟨_,rowFound⟩) before
                ((OrderedMap.mem_values _ _).mpr ⟨_,found⟩)
    · cases rowFound : chain.transitionMatrix.transitions.get context with
      | none => simp [rowFound,OrderedMap.values,OrderedMap.empty] at original
      | some row =>
          rw [rowFound] at original
          exact stored row ((OrderedMap.mem_values _ _).mpr ⟨_,rowFound⟩) counted original
  · exact stored row old

theorem recordSequence_stored (observable : Observable holds) (sequence : List (BehavioralState K))
    (stored : Stored holds chain) : Stored holds (chain.recordSequence math now sequence) := by
  have encoded := stored_of_transitions (chain.encodeStates_transitions sequence).2 stored
  have windows := (chain.encodeStates sequence).2.learnWindows_keep math now (Stored holds)
    (fun _ context nextState state held => updateTransition_stored math now observable context nextState state held)
    (chain.encodeStates sequence).1 sequence (List.range (sequence.length - chain.config.order.value)) encoded
  exact windows

theorem learnSequence_stored (observable : Observable holds) (sequence : List (BehavioralState K))
    (stored : Stored holds chain) : Stored holds (chain.learnSequence math now sequence) := by
  have recorded := recordSequence_stored math now observable sequence stored
  exact chain.learnSequence_keeps math now (Stored holds) stored recorded (pruneTransitions_stored recorded)

theorem step_stored [FloorRing K] (observable : Observable holds) (operation : Operation K)
    (direct : operation.isReload = false) (stored : Stored holds chain) :
    Stored holds (step math chain operation).1 := by
  cases operation with
  | learnSequence now sequence => exact learnSequence_stored math now observable sequence stored
  | predictNext recentStates =>
      simp only [step,predictNext_state]
      exact stored_of_transitions (chain.encodeStates_transitions _).2 stored
  | validateSequence sequence =>
      simp only [step,validateSequence_state]
      exact stored_of_transitions (chain.encodeStates_transitions _).2 stored
  | getStatistics => exact stored
  | clear now => exact create_stored chain.config now
  | reload => cases direct

theorem run_stored [FloorRing K] (observable : Observable holds) (operations : List (Operation K))
    (direct : ∀ operation ∈ operations, operation.isReload = false) (stored : Stored holds chain) :
    Stored holds (exec (step math) chain operations).1 := by
  induction operations generalizing chain with
  | nil => exact stored
  | cons operation rest ih =>
      rw [List.forall_mem_cons] at direct
      exact ih direct.2 (step_stored math observable operation direct.1 stored)

end Learning

-- The sentinel stands exactly until the first positive duration, and a probability
-- that was never reloaded is a number.
def Clocked [Zero K] [LT K] (transition : StateTransition K) : Prop :=
  (∃ value, transition.probability = .number value) ∧
  ((transition.minDuration = .number .posInf ∧ ¬ 0 < transition.maxDuration) ∨
    ((∃ value, transition.minDuration = .number (.finite value)) ∧ 0 < transition.maxDuration))

section Durations
variable {K : Type} [Field K] [LinearOrder K]

theorem recordDuration_clocked (transition : StateTransition K) (duration : K) (clocked : Clocked transition) :
    Clocked (MarkovChain.recordDuration transition duration) := by
  obtain ⟨probability,durations⟩ := clocked
  unfold MarkovChain.recordDuration
  split
  · rename_i positive
    refine ⟨probability,Or.inr ⟨?_,lt_max_of_lt_right positive⟩⟩
    rcases durations with ⟨sentinel,_⟩ | ⟨⟨least,known⟩,_⟩
    · exact ⟨duration,by simp [sentinel,JsonNumber.toNumber,JsNumber.min,JsNumber.lt]⟩
    · by_cases smaller : least < duration
      · exact ⟨least,by simp [known,JsonNumber.toNumber,JsNumber.min,JsNumber.lt,smaller]⟩
      · exact ⟨duration,by simp [known,JsonNumber.toNumber,JsNumber.min,JsNumber.lt,smaller]⟩
  · exact ⟨probability,durations⟩

theorem observe_clocked (now : ℤ) (transition : StateTransition K) (state : BehavioralState K)
    (clocked : Clocked transition) : Clocked (MarkovChain.observe now transition state) :=
  recordDuration_clocked { transition with count := transition.count + 1, lastSeen := now } _ clocked

theorem clocked_observable : Observable (Clocked (K:=K)) where
  first now source target state := by
    apply observe_clocked
    exact ⟨⟨_,rfl⟩,Or.inl ⟨rfl,lt_irrefl _⟩⟩
  again := observe_clocked
  refreshed transition probability confidence clocked := ⟨⟨_,rfl⟩,clocked.2⟩

theorem throughJson_exact {transition : StateTransition K} (clocked : Clocked transition) :
    transition.throughJson = transition ↔ Timed transition := by
  obtain ⟨⟨probability,number⟩,durations⟩ := clocked
  obtain ⟨source,target,_,count,lastSeen,confidence,average,least,greatest,contexts⟩ := transition
  dsimp only at number durations
  subst number
  rcases durations with ⟨rfl,untimed⟩ | ⟨⟨value,rfl⟩,timed⟩
  · exact iff_of_false (by simp [StateTransition.throughJson,JsonNumber.throughJson]) (fun both => untimed both.1)
  · cases probability <;> simp [StateTransition.throughJson,JsonNumber.throughJson,JsonNumber.isFinite,Timed,timed]

end Durations

section Image
variable {K : Type} {chain : MarkovChain K}

theorem reload_transitions_exact :
    (MarkovChain.deserialize chain.serialize).transitionMatrix.transitions = chain.transitionMatrix.transitions ↔
      Stored (fun transition => transition.throughJson = transition) chain := by
  rw [deserialize_transitions,OrderedMap.map_eq_self]
  unfold Stored
  constructor
  · intro same row member
    exact (OrderedMap.map_eq_self row _).mp (same row member)
  · intro same row member
    exact (OrderedMap.map_eq_self row _).mpr (same row member)

theorem reload_eq
    (same : (MarkovChain.deserialize chain.serialize).transitionMatrix.transitions = chain.transitionMatrix.transitions) :
    MarkovChain.deserialize chain.serialize = chain := by
  obtain ⟨config,⟨states,transitions,total,updated⟩,encoder,decoder,counter⟩ := chain
  simp only [MarkovChain.deserialize,MarkovChain.serialize,OrderedMap.ofList_entries,MarkovChain.mk.injEq,
    TransitionMatrix.mk.injEq,true_and,and_true] at same ⊢
  exact same

variable [Field K] [LinearOrder K] [FloorRing K] {math : JsMath K}

theorem lossless_iff_reload : Lossless math chain ↔
    (MarkovChain.deserialize chain.serialize).transitionMatrix.transitions = chain.transitionMatrix.transitions := by
  constructor
  · intro lossless
    exact (lossless []).2
  · intro same operations
    rw [reload_eq same]
    exact ⟨rfl,rfl⟩

end Image

-- A chain that was reached without a reload is restored without loss exactly when
-- every stored transition is timed: the sentinel of an untimed one becomes `null`.
theorem reload_lossless_exact [Field K] [LinearOrder K] [FloorRing K] (math : JsMath K)
    (config : MarkovChainConfig K) (now : ℤ) (operations : List (Operation K))
    (direct : ∀ operation ∈ operations, operation.isReload = false) :
    Lossless math (exec (step math) (.create config now) operations).1 ↔
      Stored Timed (exec (step math) (.create config now) operations).1 := by
  have clocked := run_stored math clocked_observable operations direct (create_stored config now)
  rw [lossless_iff_reload,reload_transitions_exact]
  constructor
  · intro survives row member transition here
    exact (throughJson_exact (clocked row member transition here)).mp (survives row member transition here)
  · intro timed row member transition here
    exact (throughJson_exact (clocked row member transition here)).mpr (timed row member transition here)

def roomy : MarkovChainConfig ℚ := ⟨.first,1,2,100,100000⟩
def visitFor (duration : ℚ) (action : BehavioralActionType) : BehavioralState ℚ := ⟨action,.normal,0,some duration⟩

theorem reload_lossless_timed_login :
    Lossless instant (exec (step instant) (.create roomy 0)
      [.learnSequence 0 [visit .login_attempt,visitFor 5 .login_success],.predictNext [visit .login_attempt]]).1 := by
  apply (reload_lossless_exact instant roomy 0 _ (by decide)).mpr
  decide +kernel

def shortestFrom (context : List Code) (chain : MarkovChain K) : List (JsonNumber K) :=
  ((chain.transitionMatrix.transitions.get context).getD .empty).values.map StateTransition.minDuration

-- One login without durations: after the reload the first duration of 5 is recorded
-- as a shortest duration of 0.
theorem reload_forgets_sentinel :
    let chain := (exec (step instant) (.create roomy 0)
      [.learnSequence 0 [visit .login_attempt,visit .login_success]]).1
    let later : List (Operation ℚ) := [.learnSequence 0 [visit .login_attempt,visitFor 5 .login_success]]
    shortestFrom [0] (exec (step instant) chain later).1 = [.number (.finite 5)] ∧
    shortestFrom [0] (exec (step instant) (.deserialize chain.serialize) later).1 = [.number (.finite 0)] ∧
    ¬ Lossless instant chain := by
  intro chain later
  have original : shortestFrom [0] (exec (step instant) chain later).1 = [.number (.finite 5)] := by decide +kernel
  have restored : shortestFrom [0] (exec (step instant) (.deserialize chain.serialize) later).1 =
      [.number (.finite 0)] := by decide +kernel
  refine ⟨original,restored,fun lossless => ?_⟩
  have same : shortestFrom [0] (exec (step instant) (.deserialize chain.serialize) later).1 =
      shortestFrom [0] (exec (step instant) chain later).1 := by
    unfold shortestFrom
    rw [(lossless later).2]
  rw [original,restored] at same
  cases same

end PhantomFlow.Markov
