import PhantomFlow.Library.Averages
import PhantomFlow.Markov.Novelty
import PhantomFlow.Markov.Relearning

namespace PhantomFlow.Markov
open Library Library.Machine

-- The durations a stored transition received, one entry a visit, since it was stored.
-- A missing duration is read as 0.
abbrev Received (K : Type) := List Code × Code → List K

section Ledger
variable {K : Type}

def durationAt [Zero K] (order : ℕ) (codes : List Code) (sequence : List (BehavioralState K)) (i : ℕ) :
    Option ((List Code × Code) × K) :=
  (windowAt order codes i).bind (fun window =>
    sequence[i + order]?.map (fun state => (window,state.duration.getD 0)))

def durationsOf [Zero K] (chain : MarkovChain K) (sequence : List (BehavioralState K)) : List ((List Code × Code) × K) :=
  (List.range (sequence.length - chain.config.order.value)).filterMap
    (durationAt chain.config.order.value (codesAhead chain sequence) sequence)

def receiveDuration (received : Received K) (visit : (List Code × Code) × K) : Received K × Unit :=
  (Function.update received visit.1 (received visit.1 ++ [visit.2]),())

def stillStored (chain : MarkovChain K) (received : Received K) : Received K :=
  fun transition => if ((rowOf chain transition.1).get transition.2).isSome then received transition else []

def durationStep [Field K] [LinearOrder K] (math : JsMath K) (s : MarkovChain K × Received K)
    (call : ℤ × List (BehavioralState K)) : (MarkovChain K × Received K) × Unit :=
  let learned := s.1.learnSequence math call.1 call.2
  ((learned,stillStored learned (exec receiveDuration s.2 (durationsOf s.1 call.2)).1),())

end Ledger

section Durations
variable {K : Type} [Field K] [LinearOrder K]

def positives (durations : List K) : List K := durations.filter (fun duration => 0 < duration)

structure DurationsConsistent (transition : StateTransition K) (durations : List K) : Prop where
  mean : transition.avgDuration = average (positives durations)
  shortest : transition.minDuration.toNumber.le (.finite transition.avgDuration) = true
  longest : transition.avgDuration ≤ transition.maxDuration

def ConsistentDurations (s : MarkovChain K × Received K) : Prop :=
  ∀ context code transition, (rowOf s.1 context).get code = some transition →
    (∃ duration ∈ s.2 (context,code), 0 < duration) → DurationsConsistent transition (s.2 (context,code))

-- A positive duration that finds no visit without one before it, or that is the mean
-- already.
def Steady (received : Received K) (visit : (List Code × Code) × K) : Prop :=
  0 < visit.2 → (∀ duration ∈ received visit.1, 0 < duration) ∨ visit.2 = average (positives (received visit.1))

def SteadyCall (s : MarkovChain K × Received K) (call : ℤ × List (BehavioralState K)) : Prop :=
  Along receiveDuration Steady s.2 (durationsOf s.1 call.2)

structure Summarised (transition : StateTransition K) (durations : List K) : Prop where
  counted : transition.count = durations.length
  mean : transition.avgDuration = average (positives durations)
  number : transition.minDuration.toNumber ≠ .nan
  shortest : ∀ duration ∈ positives durations, transition.minDuration.toNumber.le (.finite duration) = true
  longest : ∀ duration ∈ positives durations, duration ≤ transition.maxDuration

-- A transition that is not stored is as good as a new one.
def Measured (chain : MarkovChain K) (received : Received K) : Prop :=
  ∀ now context code, Summarised
    (((rowOf chain context).get code).getD (MarkovChain.newTransition now context code)) (received (context,code))

omit [Field K] in
theorem min_finite {x : JsNumber K} (number : x ≠ .nan) (value : K) :
    x.min (.finite value) ≠ .nan ∧ (x.min (.finite value)).le (.finite value) = true ∧
      ∀ other, x.le (.finite other) = true → (x.min (.finite value)).le (.finite other) = true := by
  cases x with
  | nan => exact absurd rfl number
  | posInf => simp [JsNumber.min,JsNumber.lt,JsNumber.le]
  | negInf => simp [JsNumber.min,JsNumber.lt,JsNumber.le]
  | finite least =>
      by_cases below : least < value
      · simp [JsNumber.min,JsNumber.lt,JsNumber.le,below,le_of_lt below]
      · simp only [JsNumber.min,JsNumber.lt,JsNumber.le,below,decide_false]
        refine ⟨by simp,by simp,fun other bound => ?_⟩
        simp at bound ⊢
        exact (not_lt.mp below).trans bound

theorem mem_positives {durations : List K} : duration ∈ positives durations ↔ duration ∈ durations ∧ 0 < duration := by
  rw [positives,List.mem_filter,decide_eq_true_iff]

theorem positives_append (durations : List K) (positive : 0 < duration) :
    positives (durations ++ [duration]) = positives durations ++ [duration] := by
  simp [positives,positive]

theorem positives_append_missing (durations : List K) (missing : ¬ 0 < duration) :
    positives (durations ++ [duration]) = positives durations := by
  simp [positives,missing]

theorem length_positives (durations : List K) :
    durations.length = (positives durations).length ↔ ∀ duration ∈ durations, 0 < duration := by
  rw [eq_comm,positives,List.length_filter_eq_length_iff]
  simp

variable [IsStrictOrderedRing K] {transition : StateTransition K} {durations : List K}

theorem observe_mean (summarised : Summarised transition durations) (now : ℤ) (state : BehavioralState K)
    (positive : 0 < state.duration.getD 0) :
    (MarkovChain.observe now transition state).avgDuration = average (positives (durations ++ [state.duration.getD 0])) ↔
      (∀ duration ∈ durations, 0 < duration) ∨ state.duration.getD 0 = average (positives durations) := by
  rw [positives_append _ positive,← length_positives,← average_append_iff,← summarised.mean,← summarised.counted]
  simp only [MarkovChain.observe,MarkovChain.recordDuration,if_pos positive]
  rw [Nat.cast_add,Nat.cast_one,add_sub_cancel_right]

theorem observe_summarised (summarised : Summarised transition durations) (now : ℤ) (state : BehavioralState K)
    (steady : 0 < state.duration.getD 0 →
      (∀ duration ∈ durations, 0 < duration) ∨ state.duration.getD 0 = average (positives durations)) :
    Summarised (MarkovChain.observe now transition state) (durations ++ [state.duration.getD 0]) := by
  have counted : (MarkovChain.observe now transition state).count = (durations ++ [state.duration.getD 0]).length := by
    rw [MarkovChain.observe_count,summarised.counted,List.length_append,List.length_singleton]
  by_cases positive : 0 < state.duration.getD 0
  · have mean := (observe_mean summarised now state positive).mpr (steady positive)
    obtain ⟨number,here,others⟩ := min_finite summarised.number (state.duration.getD 0)
    refine ⟨counted,mean,?_,?_,?_⟩
    · simp only [MarkovChain.observe,MarkovChain.recordDuration,if_pos positive]
      exact number
    · simp only [positives_append _ positive,MarkovChain.observe,MarkovChain.recordDuration,if_pos positive]
      intro duration listed
      rcases List.mem_append.mp listed with before | last
      · exact others duration (summarised.shortest duration before)
      · rw [List.mem_singleton.mp last]
        exact here
    · simp only [positives_append _ positive,MarkovChain.observe,MarkovChain.recordDuration,if_pos positive]
      intro duration listed
      rcases List.mem_append.mp listed with before | last
      · exact le_max_of_le_left (summarised.longest duration before)
      · rw [List.mem_singleton.mp last]
        exact le_max_right _ _
  · have same := positives_append_missing durations positive
    have untouched : (MarkovChain.observe now transition state).avgDuration = transition.avgDuration ∧
        (MarkovChain.observe now transition state).minDuration = transition.minDuration ∧
        (MarkovChain.observe now transition state).maxDuration = transition.maxDuration := by
      simp only [MarkovChain.observe,MarkovChain.recordDuration,if_neg positive,and_self]
    obtain ⟨average,least,most⟩ := untouched
    refine ⟨counted,?_,?_,?_,?_⟩
    · rw [average,same]
      exact summarised.mean
    · rw [least]
      exact summarised.number
    · rw [least,same]
      exact summarised.shortest
    · rw [most,same]
      exact summarised.longest

theorem Summarised.consistent (summarised : Summarised transition durations)
    (some' : ∃ duration ∈ durations, 0 < duration) : DurationsConsistent transition durations := by
  obtain ⟨duration,here,positive⟩ := some'
  have nonempty : positives durations ≠ [] := List.ne_nil_of_mem (mem_positives.mpr ⟨here,positive⟩)
  refine ⟨summarised.mean,?_,?_⟩
  · have first := summarised.shortest duration (mem_positives.mpr ⟨here,positive⟩)
    have all := summarised.shortest
    rw [summarised.mean]
    cases least : transition.minDuration.toNumber with
    | nan => exact absurd least summarised.number
    | negInf => rfl
    | posInf =>
        rw [least] at first
        cases first
    | finite least' =>
        simp only [least,JsNumber.le,JsNumber.lt,Bool.not_eq_true',decide_eq_false_iff_not,not_lt] at all ⊢
        exact le_average nonempty all
  · rw [summarised.mean]
    exact average_le nonempty summarised.longest

variable {chain : MarkovChain K} {received : Received K}

omit [IsStrictOrderedRing K] in
theorem Summarised.refreshed (summarised : Summarised transition durations) (probability : JsonNumber K) (confidence : K) :
    Summarised { transition with probability := probability, confidence := confidence } durations :=
  ⟨summarised.counted,summarised.mean,summarised.number,summarised.shortest,summarised.longest⟩

omit [IsStrictOrderedRing K] in
theorem create_measured (config : MarkovChainConfig K) (now : ℤ) :
    Measured (.create config now) (fun _ => []) :=
  fun _ _ _ => ⟨rfl,by simp [positives,average]; rfl,nofun,nofun,nofun⟩

theorem updateTransition_measured (math : JsMath K) (now : ℤ) (measured : Measured chain received)
    (context : List Code) (nextState : Code) (state : BehavioralState K)
    (steady : Steady received ((context,nextState),state.duration.getD 0)) :
    Measured (chain.updateTransition math now context nextState state)
      (receiveDuration received ((context,nextState),state.duration.getD 0)).1 := by
  intro later other code
  rw [rowOf_updateTransition]
  unfold receiveDuration
  dsimp only
  by_cases here : (other,code) = (context,nextState)
  · cases here
    have observed := observe_summarised (measured now context nextState) now state steady
    rw [if_pos rfl,Function.update_self,MarkovChain.updateProbabilities,OrderedMap.get_map,countedRow,
      OrderedMap.get_set_self]
    exact observed.refreshed _ _
  · rw [Function.update_of_ne here]
    have before := measured later other code
    by_cases same : other = context
    · subst other
      have different : code ≠ nextState := fun equal => here (by rw [equal])
      rw [if_pos rfl,MarkovChain.updateProbabilities,OrderedMap.get_map,countedRow,OrderedMap.get_set_other _ _ different]
      cases found : (rowOf chain context).get code with
      | none =>
          rw [found] at before
          exact before
      | some transition =>
          rw [found] at before
          exact before.refreshed _ _
    · rw [if_neg same]
      exact before

omit [IsStrictOrderedRing K] in
theorem learnWindow_unvisited (math : JsMath K) (now : ℤ) {codes : List Code} {sequence : List (BehavioralState K)}
    (unvisited : durationAt chain.config.order.value codes sequence i = none) :
    chain.learnWindow math now codes sequence i = chain := by
  unfold MarkovChain.learnWindow
  cases next : codes[i + chain.config.order.value]? with
  | none => rfl
  | some nextState =>
      cases read : sequence[i + chain.config.order.value]? with
      | none => rfl
      | some state => simp [durationAt,windowAt,next,read] at unvisited

omit [IsStrictOrderedRing K] in
theorem learnWindow_visited (math : JsMath K) (now : ℤ) {codes : List Code} {sequence : List (BehavioralState K)}
    {received : (List Code × Code) × K}
    (visited : durationAt chain.config.order.value codes sequence i = some received) :
    ∃ nextState state, received = ((chain.buildContext codes i,nextState),state.duration.getD 0) ∧
      chain.learnWindow math now codes sequence i =
        chain.updateTransition math now (chain.buildContext codes i) nextState state := by
  obtain ⟨window,found,states⟩ := Option.bind_eq_some_iff.mp visited
  obtain ⟨nextState,next,rfl⟩ := Option.map_eq_some_iff.mp found
  obtain ⟨state,read,rfl⟩ := Option.map_eq_some_iff.mp states
  refine ⟨nextState,state,rfl,?_⟩
  unfold MarkovChain.learnWindow
  rw [next,read]

theorem foldl_learnWindow_measured (math : JsMath K) (now : ℤ) (codes : List Code) (sequence : List (BehavioralState K))
    (positions : List ℕ) (measured : Measured chain received)
    (steady : Along receiveDuration Steady received
      (positions.filterMap (durationAt chain.config.order.value codes sequence))) :
    Measured (positions.foldl (MarkovChain.learnWindow math now codes sequence) chain)
      (exec receiveDuration received (positions.filterMap (durationAt chain.config.order.value codes sequence))).1 := by
  induction positions generalizing chain received with
  | nil => exact measured
  | cons i rest ih =>
      rw [List.foldl_cons]
      cases visited : durationAt chain.config.order.value codes sequence i with
      | none =>
          rw [List.filterMap_cons_none visited] at steady ⊢
          rw [learnWindow_unvisited math now visited]
          exact ih measured steady
      | some visit =>
          obtain ⟨nextState,state,rfl,updated⟩ := learnWindow_visited math now visited
          rw [List.filterMap_cons_some visited] at steady ⊢
          rw [updated]
          exact ih (updateTransition_measured math now measured _ _ state steady.1) steady.2

omit [IsStrictOrderedRing K] in
theorem stillStored_measured {learned : MarkovChain K} (measured : Measured chain received)
    (kept : ∀ context code transition, (rowOf learned context).get code = some transition →
      (rowOf chain context).get code = some transition) : Measured learned (stillStored learned received) := by
  intro now context code
  unfold stillStored
  dsimp only
  cases found : (rowOf learned context).get code with
  | none => exact create_measured chain.config now now context code
  | some transition =>
      have before := measured now context code
      rw [kept context code transition found] at before
      exact before

theorem durationStep_measured (math : JsMath K) (s : MarkovChain K × Received K) (call : ℤ × List (BehavioralState K))
    (measured : Measured s.1 s.2) (steady : SteadyCall s call) :
    Measured (durationStep math s call).1.1 (durationStep math s call).1.2 := by
  obtain ⟨chain,received⟩ := s
  obtain ⟨now,sequence⟩ := call
  unfold durationStep
  dsimp only
  by_cases short : sequence.length < chain.config.order.value + 1
  · have nothing : durationsOf chain sequence = [] := by
      rw [durationsOf,Nat.sub_eq_zero_of_le (Nat.le_of_lt_succ short),List.range_zero,List.filterMap_nil]
    rw [nothing,exec_nil,MarkovChain.learnSequence,if_pos short]
    exact stillStored_measured measured (fun _ _ _ found => found)
  · have config := (chain.encodeStates_transitions sequence).1
    have encoded : Measured (chain.encodeStates sequence).2 received := by
      intro later context code
      rw [encodeStates_rowOf]
      exact measured later context code
    have visits := steady
    unfold SteadyCall durationsOf at visits
    have learned := foldl_learnWindow_measured math now (codesAhead chain sequence) sequence
      (List.range (sequence.length - chain.config.order.value)) encoded (by rw [config]; exact visits)
    rw [config] at learned
    have recorded : Measured (chain.recordSequence math now sequence) _ := learned
    apply stillStored_measured recorded
    intro context code transition found
    rw [MarkovChain.learnSequence,if_neg short] at found
    dsimp only at found
    cases full : (chain.recordSequence math now sequence).shouldPrune with
    | false =>
        rw [full] at found
        exact found
    | true =>
        rw [full,if_pos rfl,rowOf_pruneTransitions] at found
        exact (Option.filter_eq_some_iff.mp found).1

-- In exact arithmetic. A running mean of doubles may round past the longest of equal
-- durations: three of 12.3 ms have the mean 12.300000000000002.
theorem durations_consistent (math : JsMath K) (config : MarkovChainConfig K) (start : ℤ)
    (calls : List (ℤ × List (BehavioralState K)))
    (steady : Along (durationStep math) SteadyCall (.create config start,fun _ => []) calls) :
    Throughout (durationStep math) ConsistentDurations (.create config start,fun _ => []) calls := by
  have measured : Throughout (durationStep math) (fun s => Measured s.1 s.2) (.create config start,fun _ => []) calls :=
    throughout_of_along (durationStep_measured math) (create_measured config start) steady
  apply measured.mono
  intro s summarised context code transition found some'
  have here := summarised start context code
  rw [found] at here
  exact here.consistent some'

end Durations

theorem durations_consistent_timed :
    Throughout (durationStep instant) ConsistentDurations (.create roomy 0,fun _ => [])
      [(0,[visit .login_attempt,visitFor 100 .login_success]),(0,[visit .login_attempt,visitFor 300 .login_success])] := by
  apply durations_consistent instant roomy 0
  refine ⟨⟨fun _ => .inl nofun,trivial⟩,⟨fun _ => .inl ?_,trivial⟩,trivial⟩
  decide +kernel

def timedSecond : List (ℤ × List (BehavioralState ℚ)) :=
  [(0,[visit .login_attempt,visit .login_success]),(0,[visit .login_attempt,visitFor 100 .login_success])]

-- A login without a duration before one that took 100 ms: the mean of the one positive
-- duration is stored as 50, below the shortest.
theorem missing_duration_halves_mean :
    ¬ Throughout (durationStep instant) ConsistentDurations (.create roomy 0,fun _ => []) timedSecond := by
  intro consistent
  have stored : ((rowOf (exec (durationStep instant) (.create roomy 0,fun _ => []) timedSecond).1.1 [0]).get 1).map
      StateTransition.avgDuration = some 50 := by decide +kernel
  have received : (exec (durationStep instant) (.create roomy 0,fun _ => []) timedSecond).1.2 ([0],1) = [0,100] := by
    decide +kernel
  obtain ⟨transition,found,half⟩ := Option.map_eq_some_iff.mp stored
  have statistics := consistent.final [0] 1 transition found (by rw [received]; exact ⟨100,by decide +kernel⟩)
  have mean := statistics.mean
  rw [half,received] at mean
  revert mean
  decide +kernel

end PhantomFlow.Markov
