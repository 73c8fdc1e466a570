import PhantomFlow.Library.Fallible
import PhantomFlow.Markov.Persistence
import PhantomFlow.Markov.Relearning

namespace PhantomFlow.Markov
open Library Library.Machine

-- The windows of the sequence as the chain is about to code it, and what counting
-- them will make of the last one. All of it is read off the chain before learning.
section Ahead
variable {K : Type} (chain : MarkovChain K) (sequence : List (BehavioralState K))

def codesAhead : List Code := (chain.encodeStates sequence).1

def windowsAhead : List (List Code × Code) := windowsOf chain.config.order.value (codesAhead chain sequence)

def contextAhead : List Code :=
  chain.buildContext (codesAhead chain sequence) (sequence.length - 1 - chain.config.order.value)

def codeAhead : Code := (codesAhead chain sequence).getD (sequence.length - 1) 0

def countAhead : ℕ :=
  countIn (rowOf chain (contextAhead chain sequence)) (codeAhead chain sequence) +
    (windowsAhead chain sequence).count (contextAhead chain sequence,codeAhead chain sequence)

def totalAhead : ℕ :=
  MarkovChain.totalCount (rowOf chain (contextAhead chain sequence)) +
    (windowsAhead chain sequence).countP (fun window => window.1 = contextAhead chain sequence)

def sizeAhead : ℕ :=
  ((rowOf chain (contextAhead chain sequence)).keys ++
    ((windowsAhead chain sequence).filter (fun window => window.1 = contextAhead chain sequence)).map
      Prod.snd).toFinset.card

def shareAhead [Field K] [LinearOrder K] : JsNumber K :=
  .div (countAhead chain sequence + chain.config.smoothingParameter)
    (totalAhead chain sequence + chain.config.smoothingParameter * sizeAhead chain sequence)

def statesAhead : ℕ := (chain.encodeStates sequence).2.transitionMatrix.states.length

def CrowdedAhead : Prop :=
  chain.config.maxStates < statesAhead chain sequence ∨
    chain.config.memoryLimit <
      (statesAhead chain sequence * 50 + (pairsOf chain ++ windowsAhead chain sequence).toFinset.card * 200 : ℕ)

def OutlierAhead [Field K] [LinearOrder K] : Prop :=
  (CrowdedAhead chain sequence ∧ (countAhead chain sequence : ℚ) < chain.config.pruningThreshold) ∨
    (shareAhead chain sequence).lt (.finite (lit (1/10))) = true

end Ahead

section Codes
variable {K : Type}

theorem codesAhead_queried {chain : MarkovChain K} {states : List (BehavioralState K)} {codes : List Code}
    (known : codes.map some = states.map (fun state => chain.stateEncoder.get (MarkovChain.keyOf state)))
    (queried : List (BehavioralState K)) : codesAhead (chain.encodeStates queried).2 states = codes := by
  have still : codes.map some =
      states.map (fun state => (chain.encodeStates queried).2.stateEncoder.get (MarkovChain.keyOf state)) := by
    rw [known]
    apply List.map_congr_left
    intro state member
    have coded := List.mem_map_of_mem (f:=fun state => chain.stateEncoder.get (MarkovChain.keyOf state)) member
    rw [← known] at coded
    obtain ⟨code,_,found⟩ := List.mem_map.mp coded
    rw [← found,encodeStates_keeps chain queried found.symm]
  rw [codesAhead,encodeStates_known _ still]

end Codes

section Learning
variable {K : Type} [Field K] [LinearOrder K] {chain : MarkovChain K} {sequence : List (BehavioralState K)}
  (math : JsMath K) (now : ℤ)

theorem recordSequence_pairs (chain : MarkovChain K) (sequence : List (BehavioralState K)) :
    (pairsOf (chain.recordSequence math now sequence)).toFinset =
      (pairsOf chain ++ windowsAhead chain sequence).toFinset := by
  ext ⟨context,code⟩
  rw [List.mem_toFinset,List.mem_toFinset,List.mem_append,mem_pairsOf,mem_pairsOf]
  exact (recordSequence_counts math now chain sequence context).2.2.2 code

theorem recordSequence_crowded (chain : MarkovChain K) (sequence : List (BehavioralState K)) :
    (chain.recordSequence math now sequence).shouldPrune = true ↔ CrowdedAhead chain sequence := by
  have config := (recordSequence_counts math now chain sequence []).1
  have states := (chain.recordSequence_encoder math now sequence).2.2
  unfold MarkovChain.shouldPrune CrowdedAhead statesAhead
  rw [memoryUsage_pairs,config,states,recordSequence_pairs,Bool.or_eq_true,decide_eq_true_iff,decide_eq_true_iff]

theorem recordSequence_ahead (long : chain.config.order.value < sequence.length) :
    ∃ transition, (rowOf (chain.recordSequence math now sequence) (contextAhead chain sequence)).get
        (codeAhead chain sequence) = some transition ∧
      transition.count = countAhead chain sequence ∧ transition.probability = .number (shareAhead chain sequence) := by
  obtain ⟨config,counts,total,keys⟩ := recordSequence_counts math now chain sequence (contextAhead chain sequence)
  have position : sequence.length - 1 = sequence.length - 1 - chain.config.order.value + chain.config.order.value := by omega
  have inside : sequence.length - 1 < (chain.encodeStates sequence).1.length := by rw [encodeStates_length]; omega
  have found : (chain.encodeStates sequence).1[sequence.length - 1]? = some (codeAhead chain sequence) := by
    simp [codeAhead,codesAhead,inside]
  rw [position] at found
  obtain ⟨transition,stored,count,probability⟩ := recordSequence_last math now chain sequence
    (sequence.length - 1 - chain.config.order.value) (by omega) found
  have size : (rowOf (chain.recordSequence math now sequence) (contextAhead chain sequence)).size =
      sizeAhead chain sequence := by
    have members : (rowOf (chain.recordSequence math now sequence) (contextAhead chain sequence)).keys.toFinset =
        ((rowOf chain (contextAhead chain sequence)).keys ++ ((windowsAhead chain sequence).filter
          (fun window => window.1 = contextAhead chain sequence)).map Prod.snd).toFinset := by
      ext code
      rw [List.mem_toFinset,List.mem_toFinset,List.mem_append,keys]
      simp [windowsAhead,codesAhead]
    rw [sizeAhead,← members]
    exact ((List.toFinset_card_of_nodup (OrderedMap.distinct _)).trans (List.length_map _)).symm
  have counted : transition.count = countAhead chain sequence := count.trans (counts _)
  refine ⟨transition,stored,counted,?_⟩
  rw [probability,counted]
  unfold shareAhead
  rw [← size]
  have whole : MarkovChain.totalCount (rowOf (chain.recordSequence math now sequence) (contextAhead chain sequence)) =
      totalAhead chain sequence := total
  rw [← whole]
  rfl

omit [Field K] [LinearOrder K] in
theorem rowOf_pruneTransitions (chain : MarkovChain K) (context : List Code) (code : Code) :
    (rowOf chain.pruneTransitions context).get code = ((rowOf chain context).get code).filter chain.keeps := by
  unfold rowOf MarkovChain.pruneTransitions
  dsimp only
  rw [OrderedMap.get_filter,OrderedMap.get_map]
  cases chain.transitionMatrix.transitions.get context with
  | none => rfl
  | some row =>
      simp only [Option.map_some,Option.getD_some,← OrderedMap.get_filter row (fun _ => chain.keeps)]
      by_cases empty : (row.filter (fun _ transition => chain.keeps transition)).size = 0
      · have nothing : row.filter (fun _ transition => chain.keeps transition) = .empty :=
          OrderedMap.ext (List.length_eq_zero_iff.mp empty)
        rw [nothing]
        rfl
      · simp [Option.filter,empty]

-- A state of the validated sequence is reported at a place when its transition is
-- absent or rare there.
def Unlikely (chain : MarkovChain K) (context : List Code) (code : Code) : Prop :=
  ∀ transition, (rowOf chain context).get code = some transition →
    transition.probability.toNumber.lt (.finite (lit (1/10))) = true

theorem learnSequence_outlier (long : chain.config.order.value < sequence.length) :
    Unlikely (chain.learnSequence math now sequence) (contextAhead chain sequence) (codeAhead chain sequence) ↔
      OutlierAhead chain sequence := by
  obtain ⟨transition,stored,count,probability⟩ := recordSequence_ahead math now long
  have crowded := recordSequence_crowded math now chain sequence
  have config := (recordSequence_counts math now chain sequence []).1
  have share : transition.probability.toNumber = shareAhead chain sequence := by rw [probability]; rfl
  unfold MarkovChain.learnSequence Unlikely OutlierAhead
  rw [if_neg (by omega),← crowded,← share,← count]
  dsimp only
  cases (chain.recordSequence math now sequence).shouldPrune with
  | false => simp [stored]
  | true =>
      simp only [if_true,rowOf_pruneTransitions,stored,true_and]
      have kept : (chain.recordSequence math now sequence).keeps transition = true ↔
          ¬ (transition.count : ℚ) < chain.config.pruningThreshold := by simp [MarkovChain.keeps,config]
      by_cases rare : (transition.count : ℚ) < chain.config.pruningThreshold
      · have dropped : (chain.recordSequence math now sequence).keeps transition = false := by
          rw [← Bool.not_eq_true,kept,not_not]
          exact rare
        simp [Option.filter,dropped,rare]
      · simp [Option.filter,kept.mpr rare,rare]

theorem learnSequence_config (chain : MarkovChain K) (sequence : List (BehavioralState K)) :
    (chain.learnSequence math now sequence).config = chain.config := by
  have recorded := (recordSequence_counts math now chain sequence []).1
  exact chain.learnSequence_keeps math now (fun learned => learned.config = chain.config) rfl recorded recorded

theorem learnSequence_known (long : chain.config.order.value < sequence.length) :
    (codesAhead chain sequence).map some = sequence.map (fun state =>
      (chain.learnSequence math now sequence).stateEncoder.get (MarkovChain.keyOf state)) := by
  have encoder : (chain.learnSequence math now sequence).stateEncoder = (chain.encodeStates sequence).2.stateEncoder := by
    rw [← (chain.recordSequence_encoder math now sequence).1,MarkovChain.learnSequence,if_neg (by omega)]
    dsimp only
    split <;> rfl
  rw [codesAhead,encodeStates_codes,encoder]

theorem queried_outlier (chain : MarkovChain K) (sequence queried : List (BehavioralState K))
    (long : chain.config.order.value < sequence.length) :
    let learned := ((chain.learnSequence math now sequence).encodeStates queried).2
    Unlikely learned (learned.buildContext (codesAhead learned sequence) (sequence.length - 1 - chain.config.order.value))
      ((codesAhead learned sequence).getD (sequence.length - 1) 0) ↔ OutlierAhead chain sequence := by
  intro learned
  obtain ⟨config,transitions⟩ := (chain.learnSequence math now sequence).encodeStates_transitions queried
  have codes : codesAhead learned sequence = codesAhead chain sequence :=
    codesAhead_queried (learnSequence_known math now long) queried
  rw [codes,← learnSequence_outlier math now long]
  simp only [learned,Unlikely,rowOf,transitions,MarkovChain.buildContext,config,learnSequence_config,contextAhead,codeAhead]

end Learning

theorem MarkovOrder.value_pos (order : MarkovOrder) : 0 < order.value := by cases order <;> decide

theorem get_rowOf (chain : MarkovChain K) (context : List Code) (nextState : Code) :
    (chain.transitionMatrix.transitions.get context).bind (fun row => row.get nextState) =
      (rowOf chain context).get nextState := by
  unfold rowOf
  cases chain.transitionMatrix.transitions.get context <;> rfl

theorem stored_get {chain : MarkovChain K} {holds : StateTransition K → Prop} (stored : Stored holds chain)
    (found : (rowOf chain context).get nextState = some transition) : holds transition := by
  unfold rowOf at found
  cases here : chain.transitionMatrix.transitions.get context with
  | none => rw [here] at found; cases found
  | some row =>
      rw [here] at found
      exact stored row ((OrderedMap.mem_values _ _).mpr ⟨_,here⟩) transition ((OrderedMap.mem_values _ _).mpr ⟨_,found⟩)

section Validation
variable {K : Type} [Field K] [LinearOrder K] [FloorRing K]

def Reports (violations : List Violation) (position : ℕ) : Prop :=
  ∃ violation ∈ violations, violation.type = .impossible_transition ∧ violation.position = position

instance (violations : List Violation) (position : ℕ) : Decidable (Reports violations position) :=
  inferInstanceAs (Decidable (∃ violation ∈ violations, _ ∧ _))

theorem reports_single (description actual : String) (severity : RiskLevel) (place position : ℕ) :
    Reports [⟨.impossible_transition,description,severity,place,actual⟩] position ↔ position = place := by
  constructor
  · intro reported
    rcases reported with ⟨violation,member,_,here⟩
    rw [← here,List.mem_singleton.mp member]
  · rintro rfl
    exact ⟨_,List.mem_singleton_self _,rfl,rfl⟩

variable {chain : MarkovChain K}

theorem checkTransition_reports (stored : Stored Clocked chain) (codes : List Code) (i : ℕ) (nextState : Code) :
    ∃ found, chain.checkTransition codes i nextState = .ok found ∧ ∀ position, Reports found position ↔
      position = i + chain.config.order.value ∧ Unlikely chain (chain.buildContext codes i) nextState := by
  unfold MarkovChain.checkTransition Unlikely
  dsimp only
  rw [get_rowOf]
  cases found : (rowOf chain (chain.buildContext codes i)).get nextState with
  | none =>
      refine ⟨_,rfl,fun position => ?_⟩
      rw [reports_single]
      exact ⟨fun place => ⟨place,fun _ nothing => nomatch nothing⟩,And.left⟩
  | some transition =>
      obtain ⟨⟨value,number⟩,_⟩ := stored_get stored found
      dsimp only
      split
      · rename_i rare
        rw [number]
        refine ⟨_,rfl,fun position => ?_⟩
        rw [reports_single]
        refine ⟨fun place => ⟨place,?_⟩,And.left⟩
        intro other same
        cases same
        exact rare
      · rename_i likely
        refine ⟨[],rfl,fun position => ?_⟩
        exact iff_of_false (fun ⟨_,member,_⟩ => nomatch member) (fun ⟨_,unlikely⟩ => likely (unlikely transition rfl))

theorem checkWindow_reports (stored : Stored Clocked chain) (codes : List Code) (sequence : List (BehavioralState K))
    (i : ℕ) (next : codes[i + chain.config.order.value]? = some nextState) :
    ∃ found, chain.checkWindow codes sequence i = .ok found ∧ ∀ position, Reports found position ↔
      position = i + chain.config.order.value ∧ Unlikely chain (chain.buildContext codes i) nextState := by
  obtain ⟨found,checked,reports⟩ := checkTransition_reports stored codes i nextState
  have timing : ∀ (state1 state2 : BehavioralState K), ∀ violation ∈ (MarkovChain.checkTimingViolation state1 state2).toList,
      violation.type ≠ .impossible_transition := by
    intro state1 state2 violation member
    unfold MarkovChain.checkTimingViolation at member
    dsimp only at member
    split at member
    · simp only [Option.toList_some,List.mem_singleton] at member
      rw [member]
      simp
    · cases member
  unfold MarkovChain.checkWindow
  rw [next]
  simp only [checked]
  refine ⟨_,rfl,fun position => ?_⟩
  rw [← reports]
  constructor
  · intro reported
    rcases reported with ⟨violation,member,type,place⟩
    rcases List.mem_append.mp member with here | late
    · exact ⟨violation,here,type,place⟩
    · exfalso
      split at late
      · split at late
        · exact timing _ _ violation late type
        · cases late
      · cases late
  · intro reported
    rcases reported with ⟨violation,member,rest⟩
    exact ⟨violation,List.mem_append_left _ member,rest⟩

theorem reports_flatten (found : List (List Violation)) (position : ℕ) :
    Reports found.flatten position ↔ ∃ part ∈ found, Reports part position := by
  unfold Reports
  simp only [List.mem_flatten]
  constructor
  · intro reported
    rcases reported with ⟨violation,⟨part,here,member⟩,rest⟩
    exact ⟨part,here,violation,member,rest⟩
  · intro reported
    rcases reported with ⟨part,here,violation,member,rest⟩
    exact ⟨violation,⟨part,here,member⟩,rest⟩

theorem validateSequence_windows {sequence : List (BehavioralState K)} {holds : ℕ → List Violation → Prop}
    (long : ¬ sequence.length < 2)
    (each : ∀ i code, (codesAhead chain sequence)[i + chain.config.order.value]? = some code →
      ∃ found, (chain.encodeStates sequence).2.checkWindow (codesAhead chain sequence) sequence i = .ok found ∧
        holds i found) :
    ∃ found, (chain.validateSequence sequence).1 = MarkovChain.validationOf found.flatten ∧
      List.Forall₂ holds (List.range (sequence.length - chain.config.order.value)) found := by
  have length := encodeStates_length chain sequence
  have windows : ∀ i ∈ List.range (sequence.length - chain.config.order.value), ∃ found,
      (chain.encodeStates sequence).2.checkWindow (chain.encodeStates sequence).1 sequence i = .ok found ∧
        holds i found := by
    intro i inside
    have bound : i + chain.config.order.value < (codesAhead chain sequence).length := by
      rw [List.mem_range] at inside
      rw [codesAhead]
      omega
    exact each i _ (List.getElem?_eq_getElem bound)
  obtain ⟨found,checked,parts⟩ := mapM_ok windows
  refine ⟨found,?_,parts⟩
  rw [MarkovChain.validateSequence,if_neg long]
  dsimp only
  rw [checked]

theorem validateSequence_reports (stored : Stored Clocked chain) (sequence : List (BehavioralState K)) (position : ℕ) :
    Reports (chain.validateSequence sequence).1.violations position ↔
      chain.config.order.value ≤ position ∧ position < sequence.length ∧
        Unlikely chain (chain.buildContext (codesAhead chain sequence) (position - chain.config.order.value))
          ((codesAhead chain sequence).getD position 0) := by
  have order := chain.config.order.value_pos
  by_cases short : sequence.length < 2
  · rw [MarkovChain.validateSequence,if_pos short]
    exact iff_of_false (fun ⟨_,member,_⟩ => nomatch member) (fun ⟨early,late,_⟩ => by omega)
  · obtain ⟨config,transitions⟩ := chain.encodeStates_transitions sequence
    have each : ∀ i code, (codesAhead chain sequence)[i + chain.config.order.value]? = some code → ∃ found,
        (chain.encodeStates sequence).2.checkWindow (codesAhead chain sequence) sequence i = .ok found ∧
        (Reports found position ↔ position = i + chain.config.order.value ∧
          Unlikely chain (chain.buildContext (codesAhead chain sequence) i)
            ((codesAhead chain sequence).getD position 0)) := by
      intro i code next
      obtain ⟨found,checked,reports⟩ := checkWindow_reports (stored_of_transitions transitions stored)
        (codesAhead chain sequence) sequence i (by rw [config]; exact next)
      refine ⟨found,checked,(reports position).trans ?_⟩
      simp only [Unlikely,encodeStates_rowOf,encodeStates_buildContext,config]
      constructor
      · intro both
        rcases both with ⟨rfl,unlikely⟩
        rw [List.getD_eq_getElem?_getD,next]
        exact ⟨rfl,unlikely⟩
      · intro both
        rcases both with ⟨rfl,unlikely⟩
        rw [List.getD_eq_getElem?_getD,next] at unlikely
        exact ⟨rfl,unlikely⟩
    obtain ⟨found,validated,reports⟩ := validateSequence_windows short each
    rw [validated]
    refine (reports_flatten found position).trans ((exists_of_forall₂ reports).trans ?_)
    constructor
    · intro reported
      rcases reported with ⟨i,inside,rfl,unlikely⟩
      rw [List.mem_range] at inside
      rw [Nat.add_sub_cancel]
      exact ⟨by omega,by omega,unlikely⟩
    · intro last
      rcases last with ⟨early,late,unlikely⟩
      exact ⟨position - chain.config.order.value,by rw [List.mem_range]; omega,by omega,unlikely⟩

end Validation
section Requests
variable {K : Type} [Field K] [LinearOrder K] [FloorRing K] (math : JsMath K)

def reviewed (analyzer : SequenceAnalyzer K) (request : ℤ × RequestData K) : SequenceValidationResult K :=
  let sequence := (analyzeStep math analyzer request).2.sequence
  (((analyzer.learn math request.1 sequence).predictNext math sequence.lastTwo).2.validateSequence sequence.plainStates).1

theorem analysis_reviewed (analyzer : SequenceAnalyzer K) (request : ℤ × RequestData K) :
    let analysis := (analyzeStep math analyzer request).2
    analysis.anomalyResult =
      if analysis.sequence.states.length < 2
      then getDefaultAnomalyResult analysis.sequence false "Sequence too short for analysis"
      else anomalyOf analyzer.anomalyThresholds analyzer.patternCache analysis.sequence (reviewed math analyzer request) := by
  simp only [analyzeStep,SequenceAnalyzer.processRequest,SequenceAnalyzer.detectSequenceAnomaly]
  split <;> rfl

def Reported (analyzer : SequenceAnalyzer K) (request : ℤ × RequestData K) : Prop :=
  Reports (reviewed math analyzer request).violations (held analyzer.stateHistory (stateOf request).session).length

instance (analyzer : SequenceAnalyzer K) (request : ℤ × RequestData K) : Decidable (Reported math analyzer request) :=
  inferInstanceAs (Decidable (Reports _ _))

def plainExtended (analyzer : SequenceAnalyzer K) (request : ℤ × RequestData K) : List (BehavioralState K) :=
  (extended analyzer request).map SessionState.toBehavioralState

omit [FloorRing K] in
theorem plainExtended_length (analyzer : SequenceAnalyzer K) (request : ℤ × RequestData K) :
    (plainExtended analyzer request).length = (held analyzer.stateHistory (stateOf request).session).length + 1 := by
  simp [plainExtended,extended]

omit [FloorRing K] in
theorem learn_config (analyzer : SequenceAnalyzer K) (now : ℤ) (sequence : StateSequence K) :
    (analyzer.learn math now sequence).config = analyzer.markovChain.config := by
  unfold SequenceAnalyzer.learn
  split
  · exact learnSequence_config math _ _ _
  · rfl

omit [FloorRing K] in
theorem learn_stored {analyzer : SequenceAnalyzer K} (stored : Stored Clocked analyzer.markovChain) (now : ℤ)
    (sequence : StateSequence K) : Stored Clocked (analyzer.learn math now sequence) := by
  unfold SequenceAnalyzer.learn
  split
  · exact learnSequence_stored math _ clocked_observable _ stored
  · exact stored

variable {math}

theorem plainStates_whole {analyzer : SequenceAnalyzer K}
    (whole : ¬ Compresses (getDefaultCompressionConfig (K:=K)) (extended analyzer request).length) :
    (analyzeStep math analyzer request).2.sequence.plainStates = plainExtended analyzer request := by
  rw [StateSequence.plainStates,processRequest_states,settled_whole whole]
  rfl

theorem plainStates_compressed {analyzer : SequenceAnalyzer K}
    (compresses : Compresses (getDefaultCompressionConfig (K:=K)) (extended analyzer request).length) :
    (analyzeStep math analyzer request).2.sequence.plainStates.length ≤
      (held analyzer.stateHistory (stateOf request).session).length := by
  have cut := sliceLength_lt (Nat.lt_trans (by decide) compresses.2.1) compresses.2.2
  rw [StateSequence.plainStates,List.length_map,processRequest_states,settled_compressed compresses,List.length_take]
  simp only [extended,List.length_append,List.length_singleton] at cut ⊢
  omega

theorem learn_whole {analyzer : SequenceAnalyzer K}
    (whole : ¬ Compresses (getDefaultCompressionConfig (K:=K)) (extended analyzer request).length)
    (early : analyzer.markovChain.config.order.value ≤ (held analyzer.stateHistory (stateOf request).session).length) :
    analyzer.learn math request.1 (analyzeStep math analyzer request).2.sequence =
      analyzer.markovChain.learnSequence math request.1 (plainExtended analyzer request) := by
  have several : 1 < (analyzeStep math analyzer request).2.sequence.states.length := by
    have order := analyzer.markovChain.config.order.value_pos
    rw [processRequest_states,settled_whole whole,extended,List.length_append,List.length_singleton]
    omega
  rw [SequenceAnalyzer.learn,if_pos several,plainStates_whole whole]

theorem reported_exact {analyzer : SequenceAnalyzer K} (stored : Stored Clocked analyzer.markovChain)
    (request : ℤ × RequestData K) :
    Reported math analyzer request ↔
      ¬ Compresses (getDefaultCompressionConfig (K:=K)) (extended analyzer request).length ∧
      analyzer.markovChain.config.order.value ≤ (held analyzer.stateHistory (stateOf request).session).length ∧
      OutlierAhead analyzer.markovChain (plainExtended analyzer request) := by
  have learnt := learn_stored math stored request.1 (analyzeStep math analyzer request).2.sequence
  unfold Reported reviewed
  dsimp only
  generalize query : (analyzer.learn math request.1 (analyzeStep math analyzer request).2.sequence).queried
    (.predictNext (analyzeStep math analyzer request).2.sequence.lastTwo) = queried
  obtain ⟨config',transitions⟩ := MarkovChain.encodeStates_transitions
    (analyzer.learn math request.1 (analyzeStep math analyzer request).2.sequence) queried
  rw [predictNext_state,query,validateSequence_reports (stored_of_transitions transitions learnt),config',
    learn_config]
  by_cases compresses : Compresses (getDefaultCompressionConfig (K:=K)) (extended analyzer request).length
  · have shorter : (analyzeStep math analyzer request).2.sequence.plainStates.length ≤ _ :=
      plainStates_compressed compresses
    apply iff_of_false
    · intro reported
      have late := reported.2.1
      omega
    · intro outlier
      exact outlier.1 compresses
  · have length := plainExtended_length analyzer request
    rw [plainStates_whole compresses]
    by_cases early : analyzer.markovChain.config.order.value ≤ (held analyzer.stateHistory (stateOf request).session).length
    · have outlier := queried_outlier math request.1 analyzer.markovChain (plainExtended analyzer request) queried
        (by omega)
      dsimp only at outlier
      rw [length,Nat.add_sub_cancel] at outlier
      rw [learn_whole compresses early,outlier,length]
      constructor
      · intro reported
        exact ⟨compresses,early,reported.2.2⟩
      · intro outlier
        exact ⟨early,Nat.lt_succ_self _,outlier.2.2⟩
    · apply iff_of_false
      · intro reported
        exact early reported.1
      · intro outlier
        exact early outlier.2.1

end Requests

-- `discoverPatterns` changes the pattern cache alone; what it finds there is left
-- open.
inductive AnalyzerEvent (K : Type) where
  | processRequest (request : ℤ × RequestData K)
  | discoverPatterns (patternCache : OrderedMap String KnownPattern)
  | clear (now : ℤ)

section Runs
variable {K : Type} [Field K] [LinearOrder K] [FloorRing K] (math : JsMath K)

def analyzerStep (analyzer : SequenceAnalyzer K) : AnalyzerEvent K → SequenceAnalyzer K × Option (Analysis K)
  | .processRequest request => ((analyzeStep math analyzer request).1,some (analyzeStep math analyzer request).2)
  | .discoverPatterns patternCache => ({ analyzer with patternCache },none)
  | .clear now => (analyzer.clear now,none)

theorem analyzerStep_stored (analyzer : SequenceAnalyzer K) (event : AnalyzerEvent K)
    (stored : Stored Clocked analyzer.markovChain) :
    Stored Clocked (analyzerStep math analyzer event).1.markovChain := by
  cases event with
  | processRequest request =>
      obtain ⟨queried,encoded⟩ := processRequest_chain math analyzer request
      simp only [analyzerStep,encoded]
      exact stored_of_transitions (MarkovChain.encodeStates_transitions _ queried).2 (learn_stored math stored _ _)
  | discoverPatterns patternCache => exact stored
  | clear now => exact create_stored _ now

def visitEvent (path : String) : AnalyzerEvent ℚ := .processRequest (visitPage path "s")

def crowded : MarkovChainConfig ℚ := ⟨.first,1,5,1,1000000⟩

-- Every run: a request's transition is reported exactly when its sequence is kept
-- whole, has a full window, and counting the sequence once more still leaves the
-- transition pruned or rare. Asked before the request, the chain would have reported
-- every transition it does not know; and some analysis is anomalous.
theorem novelty_reported_exact (config : MarkovChainConfig K) (thresholds : AnomalyThresholds K) (now : ℤ)
    (events : List (AnalyzerEvent K)) (request : ℤ × RequestData K) :
    let analyzer := (exec (analyzerStep math) (.create config thresholds now) events).1
    let before := held analyzer.stateHistory (stateOf request).session
    let sequence := plainExtended analyzer request
    (Reported math analyzer request ↔
      ¬ Compresses (getDefaultCompressionConfig (K:=K)) (before.length + 1) ∧
        analyzer.markovChain.config.order.value ≤ before.length ∧ OutlierAhead analyzer.markovChain sequence) ∧
    (analyzer.markovChain.config.order.value ≤ before.length →
      (rowOf analyzer.markovChain (contextAhead analyzer.markovChain sequence)).get
        (codeAhead analyzer.markovChain sequence) = none →
      Reports (analyzer.markovChain.validateSequence sequence).1.violations before.length) ∧
    ∃ requests final, (analyzeStep instant (exec (analyzerStep instant) (.create crowded defaultThresholds 0) requests).1
      final).2.anomalyResult.isAnomalous = true := by
  intro analyzer before sequence
  have start : Stored Clocked (SequenceAnalyzer.create config thresholds now).markovChain := create_stored config now
  have stored := exec_invariant (analyzerStep_stored math) start events
  have length : sequence.length = before.length + 1 := plainExtended_length analyzer request
  refine ⟨?_,?_,?_⟩
  · have extended_length : (extended analyzer request).length = before.length + 1 := by simp [extended,before]
    rw [← extended_length]
    exact reported_exact stored request
  · intro window unknown
    refine (validateSequence_reports stored sequence before.length).mpr ⟨window,by omega,?_⟩
    have last : before.length = sequence.length - 1 := by omega
    intro transition found
    rw [last] at found
    have absent := unknown.symm.trans found
    cases absent
  · exact ⟨["/","/search","/","/search"].map visitEvent,visitPage "/" "s",by decide +kernel⟩

end Runs

-- A session's second request, never seen after the first: reported by the chain
-- before it, and not by its analysis.
theorem novelty_learned_away :
    let analyzer := (exec (analyzerStep instant) (.create spacious defaultThresholds 0) [visitEvent "/"]).1
    let request := visitPage "/search" "s"
    (rowOf analyzer.markovChain (contextAhead analyzer.markovChain (plainExtended analyzer request))).get
      (codeAhead analyzer.markovChain (plainExtended analyzer request)) = none ∧
    Reports (analyzer.markovChain.validateSequence (plainExtended analyzer request)).1.violations 1 ∧
    (held analyzer.stateHistory (stateOf request).session).length = 1 ∧
    ¬ Reported instant analyzer request := by
  decide +kernel

end PhantomFlow.Markov
