import PhantomFlow.Library.RealMath
import PhantomFlow.Markov.Counting
import PhantomFlow.Markov.Persistence

namespace PhantomFlow.Markov
open Library Library.Machine

section Probabilities
variable {K : Type} [Field K] [LinearOrder K]

def Probable (transition : StateTransition K) : Prop :=
  ∃ p : K, transition.probability = .number (.finite p) ∧ 0 < p ∧ p ≤ 1

structure Learned (config : MarkovChainConfig K) (chain : MarkovChain K) : Prop where
  counted : Counted config chain
  probable : Stored Probable chain

variable [IsStrictOrderedRing K] {config : MarkovChainConfig K} {chain : MarkovChain K} (math : JsMath K) (now : ℤ)

theorem distribution_probable {smoothing : K} {row : Row K} (smooth : 0 ≤ smoothing) (seen : Seen row)
    (distribution : Distribution smoothing row) : ∀ transition ∈ row.values, Probable transition := by
  intro transition here
  refine ⟨_,distribution.frequencies transition here,?_,?_⟩
  · have positive := denominator_pos smooth seen here
    have occurred : (0 : K) < transition.count := Nat.cast_pos.mpr (seen transition here)
    exact div_pos (add_pos_of_pos_of_nonneg occurred smooth) positive
  · have part : (transition.count : K) ≤ MarkovChain.totalCount row := by
      exact_mod_cast List.single_le_sum (by simp) _ (List.mem_map_of_mem here)
    have inhabited : (1 : K) ≤ row.size := by
      rw [← OrderedMap.size_values]
      exact_mod_cast List.length_pos_of_mem here
    have share : smoothing ≤ smoothing * row.size := le_mul_of_one_le_right smooth inhabited
    exact div_le_one_of_le₀ (add_le_add part share) (le_of_lt (denominator_pos smooth seen here))

theorem updateTransition_probable (smooth : 0 ≤ config.smoothingParameter) (learned : Learned config chain)
    (context : List Code) (nextState : Code) (state : BehavioralState K) :
    Learned config (chain.updateTransition math now context nextState state) := by
  refine ⟨(updateTransition_sound math now smooth context nextState state learned.counted).1,?_⟩
  intro row member
  rcases updateTransition_rows math now learned.counted smooth context nextState state row member with fresh | old
  · exact distribution_probable smooth fresh.1 fresh.2
  · exact learned.probable row old

omit [IsStrictOrderedRing K] in
theorem learned_of_transitions {other : MarkovChain K} (learned : Learned config chain)
    (settings : other.config = chain.config)
    (same : other.transitionMatrix.transitions = chain.transitionMatrix.transitions) : Learned config other := by
  refine ⟨⟨settings.trans learned.counted.1,?_⟩,stored_of_transitions same learned.probable⟩
  rw [same]
  exact learned.counted.2

omit [IsStrictOrderedRing K] in
theorem encodeStates_learned (learned : Learned config chain) (states : List (BehavioralState K)) :
    Learned config (chain.encodeStates states).2 :=
  learned_of_transitions learned (chain.encodeStates_transitions states).1 (chain.encodeStates_transitions states).2

theorem recordSequence_probable (smooth : 0 ≤ config.smoothingParameter) (learned : Learned config chain)
    (sequence : List (BehavioralState K)) : Learned config (chain.recordSequence math now sequence) := by
  have windows := (chain.encodeStates sequence).2.learnWindows_keep math now (Learned config)
    (fun _ context nextState state held => updateTransition_probable math now smooth held context nextState state)
    (chain.encodeStates sequence).1 sequence (List.range (sequence.length - chain.config.order.value))
    (encodeStates_learned learned sequence)
  exact learned_of_transitions windows rfl rfl

theorem step_learned [FloorRing K] (smooth : 0 ≤ config.smoothingParameter) (chain : MarkovChain K)
    (operation : Operation K) (learned : Learned config chain) : Learned config (step math chain operation).1 := by
  cases operation with
  | learnSequence now sequence =>
      have recorded := recordSequence_probable math now smooth learned sequence
      exact chain.learnSequence_keeps math now (Learned config) learned recorded
        ⟨pruneTransitions_counted recorded.counted,pruneTransitions_stored recorded.probable⟩
  | predictNext recentStates =>
      simp only [step,predictNext_state]
      exact encodeStates_learned learned _
  | validateSequence sequence =>
      simp only [step,validateSequence_state]
      exact encodeStates_learned learned _
  | getStatistics => exact learned
  | clear now => exact ⟨step_counted math smooth chain (.clear now) learned.counted,create_stored chain.config now⟩
  | reload =>
      refine ⟨(reload_sound learned.counted).1,?_⟩
      intro row member transition here
      have rows := deserialize_transitions chain
      rw [step,rows,OrderedMap.values_map] at member
      obtain ⟨original,before,rfl⟩ := List.mem_map.mp member
      rw [OrderedMap.values_map] at here
      obtain ⟨stored,inside,rfl⟩ := List.mem_map.mp here
      obtain ⟨p,found,bounds⟩ := learned.probable original before stored inside
      exact ⟨p,by simp only [StateTransition.throughJson,found,JsonNumber.throughJson],bounds⟩

omit [IsStrictOrderedRing K] in
theorem create_learned (config : MarkovChainConfig K) (now : ℤ) : Learned config (.create config now) := by
  refine ⟨⟨rfl,?_⟩,create_stored config now⟩
  simp [MarkovChain.create,initializeTransitionMatrix,OrderedMap.values,OrderedMap.empty]

theorem run_learned [FloorRing K] (smooth : 0 ≤ config.smoothingParameter) (operations : List (Operation K)) :
    Learned config (exec (step math) (.create config now) operations).1 :=
  exec_invariant (step_learned math smooth) (create_learned config now) operations

end Probabilities

section Scores

def successors (chain : MarkovChain K) (recentStates : List (BehavioralState K)) : Row K :=
  let order := chain.config.order.value
  if recentStates.length < order then .empty
  else
    let encoded := chain.encodeStates (recentStates.drop (recentStates.length - order))
    rowOf encoded.2 encoded.1

def UnitNumber (score : JsNumber ℝ) : Prop := ∃ value, score = .finite value ∧ 0 ≤ value ∧ value ≤ 1

structure Predicted (row : Row ℝ) (result : SequencePrediction ℝ) : Prop where
  score : UnitNumber result.anomalyScore
  confidence : UnitNumber result.predictionConfidence
  single : row.size = 1 → result.anomalyScore = .finite 0

variable {predictions : List (PredictedState ℝ)}

def ProbableState (prediction : PredictedState ℝ) : Prop :=
  ∃ p : ℝ, prediction.probability = .number (.finite p) ∧ 0 < p ∧ p ≤ 1

noncomputable def surprise (prediction : PredictedState ℝ) : ℝ :=
  -(finiteOf prediction.probability * Real.logb (lit 2) (finiteOf prediction.probability))

theorem surprise_nonneg (probable : ProbableState prediction) : 0 ≤ surprise prediction := by
  obtain ⟨p,found,positive,atMost⟩ := probable
  have log : Real.logb (lit 2) p ≤ 0 := Real.logb_nonpos (by norm_num) (le_of_lt positive) atMost
  rw [surprise,found]
  exact neg_nonneg.mpr (mul_nonpos_of_nonneg_of_nonpos (le_of_lt positive) log)

theorem entropy_finite (probable : ∀ prediction ∈ predictions, ProbableState prediction) (start : ℝ) :
    predictions.foldl (fun sum prediction =>
      if (JsNumber.finite 0).lt prediction.probability.toNumber
      then sum.add (prediction.probability.toNumber.mul (prediction.probability.toNumber.logarithm realMath.log2)).neg
      else sum) (JsNumber.finite start) = .finite (start + (predictions.map surprise).sum) := by
  induction predictions generalizing start with
  | nil => simp
  | cons first rest ih =>
      obtain ⟨p,found,positive,-⟩ := probable first List.mem_cons_self
      have next := ih (fun prediction here => probable prediction (List.mem_cons_of_mem _ here)) (start + surprise first)
      rw [List.foldl_cons,List.map_cons,List.sum_cons,← add_assoc,← next]
      simp [found,JsonNumber.toNumber,JsNumber.lt,positive,JsNumber.logarithm,JsNumber.mul,JsNumber.neg,JsNumber.add,
        surprise,finiteOf,realMath]

theorem total_finite (probable : ∀ prediction ∈ predictions, ProbableState prediction) (start : ℝ) :
    predictions.foldl (fun sum prediction => sum.add prediction.probability.toNumber) (JsNumber.finite start) =
      .finite (start + (predictions.map (fun prediction => finiteOf prediction.probability)).sum) := by
  induction predictions generalizing start with
  | nil => simp
  | cons first rest ih =>
      obtain ⟨p,found,-⟩ := probable first List.mem_cons_self
      have next := ih (fun prediction here => probable prediction (List.mem_cons_of_mem _ here)) (start + p)
      rw [List.foldl_cons,List.map_cons,List.sum_cons,found,← add_assoc]
      exact next

theorem score_many (probable : ∀ prediction ∈ top :: second :: rest, ProbableState prediction) :
    UnitNumber (MarkovChain.calculateAnomalyScore realMath (top :: second :: rest)) := by
  obtain ⟨p,found,positive,atMost⟩ := probable top List.mem_cons_self
  have entropy : 0 ≤ ((top :: second :: rest).map surprise).sum := by
    apply List.sum_nonneg
    intro share listed
    obtain ⟨prediction,here,rfl⟩ := List.mem_map.mp listed
    exact surprise_nonneg (probable prediction here)
  have several : (1 : ℝ) < ((top :: second :: rest).length : ℝ) := by
    exact_mod_cast Nat.succ_lt_succ (Nat.succ_pos rest.length)
  have log : 0 < Real.logb (lit 2) ((top :: second :: rest).length : ℝ) := Real.logb_pos (by norm_num) several
  have scaled : (JsNumber.finite ((top :: second :: rest).length : ℝ)).logarithm realMath.log2 =
      .finite (Real.logb (lit 2) ((top :: second :: rest).length : ℝ)) := if_pos (zero_lt_one.trans several)
  have spread : (JsNumber.finite ((top :: second :: rest).map surprise).sum).quotient
      (.finite (Real.logb (lit 2) ((top :: second :: rest).length : ℝ))) =
      .finite (((top :: second :: rest).map surprise).sum / Real.logb (lit 2) ((top :: second :: rest).length : ℝ)) :=
    if_pos (ne_of_gt log)
  have share := div_nonneg entropy (le_of_lt log)
  unfold MarkovChain.calculateAnomalyScore
  dsimp only
  rw [entropy_finite probable 0,zero_add,scaled,spread,found]
  generalize ((top :: second :: rest).map surprise).sum / _ = part at share
  have total : 0 ≤ part + (1 + -p) := by linarith
  change UnitNumber ((JsNumber.finite 1).min (.finite (part + (1 + -p))))
  by_cases above : 1 < part + (1 + -p)
  · exact ⟨1,by simp [JsNumber.min,JsNumber.lt,above],zero_le_one,le_refl 1⟩
  · exact ⟨part + (1 + -p),by simp [JsNumber.min,JsNumber.lt,above],total,not_lt.mp above⟩

theorem score_single (probable : ProbableState top) :
    MarkovChain.calculateAnomalyScore realMath [top] = .nan ∨
      MarkovChain.calculateAnomalyScore realMath [top] = .finite 1 := by
  have nonneg := surprise_nonneg probable
  have only : ∀ prediction ∈ [top], ProbableState prediction := by simpa using probable
  have zero : (JsNumber.finite (([top].length : ℕ) : ℝ)).logarithm realMath.log2 = .finite 0 := by
    simp [JsNumber.logarithm,realMath]
  obtain ⟨p,found,-⟩ := probable
  unfold MarkovChain.calculateAnomalyScore
  dsimp only
  rw [entropy_finite only 0,zero,found,zero_add,List.map_singleton,List.sum_singleton]
  rcases nonneg.eq_or_lt with certain | uncertain
  · left
    rw [← certain]
    simp [JsNumber.quotient,JsNumber.div,JsNumber.add,JsNumber.min]
  · right
    simp [JsNumber.quotient,JsNumber.div,uncertain,JsonNumber.toNumber,JsNumber.add,JsNumber.neg,JsNumber.min,
      JsNumber.lt]

theorem confidence_unit (probable : ∀ prediction ∈ top :: rest, ProbableState prediction) :
    UnitNumber (if (JsNumber.finite 0).lt ((top :: rest).foldl (fun sum prediction =>
        sum.add prediction.probability.toNumber) (JsNumber.finite 0))
      then top.probability.toNumber.quotient ((top :: rest).foldl (fun sum prediction =>
        sum.add prediction.probability.toNumber) (JsNumber.finite 0))
      else .finite 0) := by
  obtain ⟨p,found,positive,-⟩ := probable top List.mem_cons_self
  have others : 0 ≤ (rest.map (fun prediction => finiteOf prediction.probability)).sum := by
    apply List.sum_nonneg
    intro share listed
    obtain ⟨prediction,here,rfl⟩ := List.mem_map.mp listed
    obtain ⟨q,likewise,above,-⟩ := probable prediction (List.mem_cons_of_mem _ here)
    rw [likewise]
    exact le_of_lt above
  rw [total_finite probable 0,zero_add,List.map_cons,List.sum_cons,found]
  change UnitNumber (if (JsNumber.finite 0).lt (.finite (p + _)) then (JsNumber.finite p).quotient (.finite (p + _)) else _)
  generalize (rest.map (fun prediction => finiteOf prediction.probability)).sum = remainder at others ⊢
  have total : 0 < p + remainder := by linarith
  have shown : (JsNumber.finite 0).lt (.finite (p + remainder)) = true := by simp [JsNumber.lt,total]
  rw [if_pos shown,JsNumber.quotient,JsNumber.div,if_pos (ne_of_gt total)]
  refine ⟨_,rfl,le_of_lt (div_pos positive total),?_⟩
  rw [div_le_one total]
  linarith

variable {chain : MarkovChain ℝ} {row : Row ℝ}

theorem predictions_length (chain : MarkovChain ℝ) (row : Row ℝ) : (chain.predictions row).length = row.size := by
  rw [MarkovChain.predictions,List.length_insertionSort,List.length_map]
  rfl

theorem predictions_probable (probable : ∀ transition ∈ row.values, Probable transition) :
    ∀ prediction ∈ chain.predictions row, ProbableState prediction := by
  intro prediction here
  rw [MarkovChain.predictions,List.mem_insertionSort] at here
  obtain ⟨entry,listed,rfl⟩ := List.mem_map.mp here
  exact probable entry.2 (List.mem_map_of_mem listed)

theorem default_predicted (reason : String) (several : row.size ≠ 1) :
    Predicted row (MarkovChain.getDefaultPrediction reason) where
  score := ⟨_,rfl,by norm_num,by norm_num⟩
  confidence := ⟨0,rfl,le_refl 0,zero_le_one⟩
  single one := absurd one several

theorem predictFrom_iff (probable : ∀ transition ∈ row.values, Probable transition) :
    Predicted row (chain.predictFrom realMath row) ↔ row.size ≠ 1 := by
  have length := predictions_length chain row
  have all : ∀ prediction ∈ chain.predictions row, ProbableState prediction := predictions_probable probable
  unfold MarkovChain.predictFrom
  cases listed : chain.predictions row with
  | nil =>
      rw [listed,List.length_nil] at length
      have several : row.size ≠ 1 := by omega
      exact iff_of_true (default_predicted _ several) several
  | cons top others =>
      rw [listed] at all length
      cases others with
      | nil =>
          have one : row.size = 1 := length.symm
          refine iff_of_false (fun predicted => ?_) (not_not.mpr one)
          have zero := predicted.single one
          dsimp only at zero
          rcases score_single (all top List.mem_cons_self) with undefined | full
          · rw [undefined] at zero
            cases zero
          · rw [full] at zero
            exact one_ne_zero (JsNumber.finite.inj zero)
      | cons second rest =>
          have several : row.size ≠ 1 := by
            rw [List.length_cons,List.length_cons] at length
            omega
          exact iff_of_true ⟨score_many all,confidence_unit all,fun one => absurd one several⟩ several

theorem predictNext_iff (learned : Learned config chain) (recentStates : List (BehavioralState ℝ)) :
    Predicted (successors chain recentStates) (chain.predictNext realMath recentStates).1 ↔
      (successors chain recentStates).size ≠ 1 := by
  unfold MarkovChain.predictNext successors
  dsimp only
  by_cases short : recentStates.length < chain.config.order.value
  · have none : (OrderedMap.empty : Row ℝ).size ≠ 1 := Nat.zero_ne_one
    simp only [if_pos short]
    exact iff_of_true (default_predicted _ none) none
  · simp only [if_neg short]
    have encoded := encodeStates_learned learned (recentStates.drop (recentStates.length - chain.config.order.value))
    cases found : (chain.encodeStates (recentStates.drop (recentStates.length - chain.config.order.value))).2
        |>.transitionMatrix.transitions.get (chain.encodeStates
          (recentStates.drop (recentStates.length - chain.config.order.value))).1 with
    | none =>
        have none : (OrderedMap.empty : Row ℝ).size ≠ 1 := Nat.zero_ne_one
        simp only [rowOf,found,Option.getD_none]
        exact iff_of_true (default_predicted _ none) none
    | some row =>
        simp only [rowOf,found,Option.getD_some]
        exact predictFrom_iff (encoded.probable row ((OrderedMap.mem_values _ _).mpr ⟨_,found⟩))

-- In every state of every run and for every query: the prediction is numeric unless
-- there is a single successor.
theorem predictions_numeric_iff (config : MarkovChainConfig ℝ) (smooth : 0 ≤ config.smoothingParameter) (now : ℤ)
    (operations : List (Operation ℝ)) (recentStates : List (BehavioralState ℝ)) :
    let chain := (exec (step realMath) (.create config now) operations).1
    Predicted (successors chain recentStates) (chain.predictNext realMath recentStates).1 ↔
      (successors chain recentStates).size ≠ 1 :=
  predictNext_iff (run_learned realMath now smooth operations) recentStates

end Scores

def event [Zero K] (action : BehavioralActionType) : BehavioralState K := ⟨action,.normal,0,none⟩

def firstOrder (K : Type) [One K] : MarkovChainConfig K := ⟨.first,1,2,100,100000⟩

def logins [Zero K] (outcomes : List BehavioralActionType) : List (Operation K) :=
  outcomes.map (fun outcome => .learnSequence 0 [event .login_attempt,event outcome])

theorem predictions_numeric_logins :
    let chain := (exec (step realMath) (.create (firstOrder ℝ) 0) (logins [.login_success,.login_failure])).1
    Predicted (successors chain [event .login_attempt]) (chain.predictNext realMath [event .login_attempt]).1 := by
  apply (predictions_numeric_iff (firstOrder ℝ) zero_le_one 0 _ [event .login_attempt]).mpr
  decide +kernel

-- One successor, certain: no entropy over the logarithm of one.
theorem single_successor_not_numeric :
    let chain := (exec (step realMath) (.create (firstOrder ℝ) 0) (logins [.login_success])).1
    ¬ Predicted (successors chain [event .login_attempt]) (chain.predictNext realMath [event .login_attempt]).1 ∧
      ((exec (step instant) (.create (firstOrder ℚ) 0) (logins [.login_success])).1.predictNext instant
        [event .login_attempt]).1.anomalyScore = .nan := by
  refine ⟨?_,by decide +kernel⟩
  rw [predictNext_iff (show Learned (firstOrder ℝ) _ from run_learned realMath 0 zero_le_one _)]
  decide +kernel

end PhantomFlow.Markov
