import Mathlib.Algebra.Order.Field.Basic
import Mathlib.Tactic.Linarith
import Mathlib.Tactic.Positivity
import PhantomFlow.Library.Machine
import PhantomFlow.Markov.MarkovChain

namespace PhantomFlow.Markov
open Library Library.Machine

def finiteOf [Zero K] : JsonNumber K → K
  | .number (.finite value) => value
  | _ => 0

section Rows
variable {K : Type} [Field K] [LinearOrder K]

def smoothed (smoothing : K) (row : Row K) (transition : StateTransition K) : K :=
  (transition.count + smoothing) / (MarkovChain.totalCount row + smoothing * row.size)

structure Distribution (smoothing : K) (row : Row K) : Prop where
  frequencies : ∀ transition ∈ row.values, transition.probability = .number (.finite (smoothed smoothing row transition))
  nonneg : ∀ transition ∈ row.values, 0 ≤ finiteOf transition.probability
  total : (row.values.map (fun transition => finiteOf transition.probability)).sum = 1

def Distributions (chain : MarkovChain K) : Prop :=
  ∀ row ∈ chain.transitionMatrix.transitions.values, Distribution chain.config.smoothingParameter row

def Seen (row : Row K) : Prop := ∀ transition ∈ row.values, 0 < transition.count

def Counted (config : MarkovChainConfig K) (chain : MarkovChain K) : Prop :=
  chain.config = config ∧ ∀ row ∈ chain.transitionMatrix.transitions.values, Seen row

variable [IsStrictOrderedRing K] {smoothing : K} {row : Row K}

theorem sum_filter_lt {counts : List α} {f : α → ℕ} {keep : α → Bool} (positive : ∀ a ∈ counts, 0 < f a)
    (member : a ∈ counts) (removed : keep a = false) : ((counts.filter keep).map f).sum < (counts.map f).sum := by
  have atMost : ∀ l : List α, ((l.filter keep).map f).sum ≤ (l.map f).sum := by
    intro l
    exact (List.filter_sublist.map f).sum_le_sum (fun _ _ => Nat.zero_le _)
  induction counts with
  | nil => cases member
  | cons head rest ih =>
      rcases List.mem_cons.mp member with rfl | later
      · have one := positive a (by simp)
        have others := atMost rest
        simp only [List.filter_cons,removed,List.map_cons,List.sum_cons]
        simp only [Bool.false_eq_true,if_false]
        omega
      · have smaller := ih (fun b here => positive b (List.mem_cons_of_mem _ here)) later
        cases kept : keep head with
        | true => simpa [List.filter_cons,kept] using smaller
        | false =>
            simp only [List.filter_cons,kept,Bool.false_eq_true,if_false,List.map_cons,List.sum_cons]
            omega

omit [Field K] [LinearOrder K] [IsStrictOrderedRing K] in
theorem exists_transition (inhabited : row.size ≠ 0) : ∃ transition, transition ∈ row.values := by
  apply List.exists_mem_of_length_pos
  rw [OrderedMap.size_values]
  exact Nat.pos_of_ne_zero inhabited

theorem denominator_pos (smooth : 0 ≤ smoothing) (seen : Seen row) (inhabited : transition ∈ row.values) :
    0 < (MarkovChain.totalCount row : K) + smoothing * row.size := by
  have some : 0 < MarkovChain.totalCount row := by
    have counted : transition.count ≤ MarkovChain.totalCount row :=
      List.single_le_sum (by simp) _ (List.mem_map_of_mem inhabited)
    exact lt_of_lt_of_le (seen transition inhabited) counted
  have cast : (0 : K) < MarkovChain.totalCount row := by exact_mod_cast some
  have sizes : 0 ≤ smoothing * (row.size : K) := mul_nonneg smooth (Nat.cast_nonneg _)
  linarith

omit [LinearOrder K] [IsStrictOrderedRing K] in
theorem sum_smoothed (transitions : List (StateTransition K)) (denominator : K) :
    (transitions.map (fun transition => (transition.count + smoothing) / denominator)).sum =
      (((transitions.map StateTransition.count).sum : ℕ) + smoothing * transitions.length) / denominator := by
  induction transitions with
  | nil => simp
  | cons head rest ih =>
      simp only [List.map_cons,List.sum_cons,List.length_cons,ih,← add_div]
      congr 1
      push_cast
      ring

theorem distribution_of_frequencies (smooth : 0 ≤ smoothing) (seen : Seen row) (inhabited : row.size ≠ 0)
    (frequencies : ∀ transition ∈ row.values,
      transition.probability = .number (.finite (smoothed smoothing row transition))) : Distribution smoothing row := by
  obtain ⟨first,member⟩ := exists_transition inhabited
  have positive := denominator_pos smooth seen member
  refine ⟨frequencies,?_,?_⟩
  · intro transition here
    rw [frequencies transition here]
    exact div_nonneg (add_nonneg (Nat.cast_nonneg _) smooth) (le_of_lt positive)
  · have same : row.values.map (fun transition => finiteOf transition.probability) =
        row.values.map (fun transition => (transition.count + smoothing) /
          (MarkovChain.totalCount row + smoothing * row.size)) :=
      List.map_congr_left (fun transition here => by rw [frequencies transition here]; rfl)
    rw [same,sum_smoothed,OrderedMap.size_values]
    exact div_self (ne_of_gt positive)

omit [IsStrictOrderedRing K] in
theorem distribution_map (f : StateTransition K → StateTransition K)
    (counts : ∀ transition ∈ row.values, (f transition).count = transition.count)
    (probabilities : ∀ transition ∈ row.values, (f transition).probability = transition.probability)
    (distribution : Distribution smoothing row) : Distribution smoothing (row.map (fun _ => f)) := by
  have total : MarkovChain.totalCount (row.map (fun _ => f)) = MarkovChain.totalCount row := by
    unfold MarkovChain.totalCount
    rw [OrderedMap.values_map,List.map_map]
    exact congrArg List.sum (List.map_congr_left counts)
  have size : (row.map (fun _ => f)).size = row.size := by simp [OrderedMap.map,OrderedMap.size]
  refine ⟨?_,?_,?_⟩
  · intro transition member
    rw [OrderedMap.values_map] at member
    obtain ⟨original,here,rfl⟩ := List.mem_map.mp member
    rw [probabilities original here,distribution.frequencies original here]
    simp only [smoothed,total,size,counts original here]
  · intro transition member
    rw [OrderedMap.values_map] at member
    obtain ⟨original,here,rfl⟩ := List.mem_map.mp member
    rw [probabilities original here]
    exact distribution.nonneg original here
  · rw [OrderedMap.values_map,List.map_map,← distribution.total]
    exact congrArg List.sum (List.map_congr_left (fun original here => congrArg finiteOf (probabilities original here)))

omit [Field K] [LinearOrder K] [IsStrictOrderedRing K] in
theorem mem_filtered {keep : StateTransition K → Bool} :
    transition ∈ (row.filter (fun _ => keep)).values ↔ transition ∈ row.values ∧ keep transition = true := by
  rw [OrderedMap.values_filter,List.mem_filter]

theorem filter_denominator_lt (smooth : 0 ≤ smoothing) (seen : Seen row) {keep : StateTransition K → Bool}
    (member : transition ∈ row.values) (removed : keep transition = false) :
    (MarkovChain.totalCount (row.filter (fun _ => keep)) : K) + smoothing * (row.filter (fun _ => keep)).size <
      MarkovChain.totalCount row + smoothing * row.size := by
  have fewer : MarkovChain.totalCount (row.filter (fun _ => keep)) < MarkovChain.totalCount row := by
    unfold MarkovChain.totalCount
    rw [OrderedMap.values_filter]
    exact sum_filter_lt seen member removed
  have smaller : (row.filter (fun _ => keep)).size ≤ row.size := List.length_filter_le _ _
  refine add_lt_add_of_lt_of_le (by exact_mod_cast fewer) ?_
  exact mul_le_mul_of_nonneg_left (by exact_mod_cast smaller) smooth

-- Deleting part of a row leaves the wrong denominator behind.
theorem filter_distribution (smooth : 0 ≤ smoothing) (seen : Seen row) (distribution : Distribution smoothing row)
    (keep : StateTransition K → Bool) (inhabited : (row.filter (fun _ => keep)).size ≠ 0) :
    Distribution smoothing (row.filter (fun _ => keep)) ↔ ∀ transition ∈ row.values, keep transition = true := by
  constructor
  · intro filtered transition member
    by_contra removed
    obtain ⟨left,remains⟩ := exists_transition inhabited
    have original := (mem_filtered.mp remains).1
    have equal : smoothed smoothing (row.filter (fun _ => keep)) left = smoothed smoothing row left := by
      have both := (filtered.frequencies left remains).symm.trans (distribution.frequencies left original)
      simpa using both
    have positive := denominator_pos smooth seen original
    have positive' := denominator_pos smooth (fun other here => seen other (mem_filtered.mp here).1) remains
    have numerator : (left.count : K) + smoothing ≠ 0 := by
      have one : (0 : K) < left.count := by exact_mod_cast seen left original
      linarith
    have denominators := mul_left_cancel₀ numerator
      ((div_eq_div_iff (ne_of_gt positive') (ne_of_gt positive)).mp equal)
    exact absurd denominators.symm (ne_of_lt (filter_denominator_lt smooth seen member (Bool.not_eq_true _ ▸ removed)))
  · intro all
    have whole : row.filter (fun _ => keep) = row := by
      apply OrderedMap.ext
      exact List.filter_eq_self.mpr (fun entry member => all entry.2 (List.mem_map_of_mem (f:=Prod.snd) member))
    rw [whole]
    exact distribution

end Rows

section Chain
variable {K : Type} [Field K] [LinearOrder K] [IsStrictOrderedRing K] {config : MarkovChainConfig K}
  {chain : MarkovChain K} (math : JsMath K) (now : ℤ)

-- Counts are kept and every transition is recounted, so a refreshed row is a
-- distribution again.
theorem updateProbabilities_distribution (smooth : 0 ≤ chain.config.smoothingParameter) {row : Row K}
    (seen : Seen row) (inhabited : row.size ≠ 0) :
    Seen (chain.updateProbabilities math now row) ∧
      Distribution chain.config.smoothingParameter (chain.updateProbabilities math now row) := by
  have total := chain.totalCount_updateProbabilities math now row
  have size := chain.size_updateProbabilities math now row
  have seen' : Seen (chain.updateProbabilities math now row) := by
    intro transition member
    have counted : transition.count ∈ row.values.map StateTransition.count := by
      rw [← chain.updateProbabilities_counts math now row]
      exact List.mem_map_of_mem member
    obtain ⟨original,here,same⟩ := List.mem_map.mp counted
    rw [← same]
    exact seen original here
  refine ⟨seen',distribution_of_frequencies smooth seen' (by rw [size]; exact inhabited) ?_⟩
  intro transition member
  have positive : ∀ original ∈ row.values,
      (MarkovChain.totalCount row : K) + chain.config.smoothingParameter * row.size ≠ 0 :=
    fun original here => ne_of_gt (denominator_pos smooth seen here)
  rw [smoothed,total,size]
  rw [MarkovChain.updateProbabilities,OrderedMap.values_map] at member
  obtain ⟨original,here,rfl⟩ := List.mem_map.mp member
  simp [JsNumber.div,positive original here]

theorem updateTransition_rows (counted : Counted config chain) (smooth : 0 ≤ config.smoothingParameter)
    (context : List Code) (nextState : Code) (state : BehavioralState K) (row : Row K)
    (member : row ∈ (chain.updateTransition math now context nextState state).transitionMatrix.transitions.values) :
    (Seen row ∧ Distribution config.smoothingParameter row) ∨
      row ∈ chain.transitionMatrix.transitions.values := by
  obtain ⟨rfl,seen⟩ := counted
  rcases OrderedMap.mem_values_set member with rfl | old
  · left
    apply updateProbabilities_distribution math now smooth
    · intro transition here
      rcases OrderedMap.mem_values_set here with rfl | original
      · rw [MarkovChain.observe_count]; exact Nat.succ_pos _
      · cases found : chain.transitionMatrix.transitions.get context with
        | none => simp [found,OrderedMap.values,OrderedMap.empty] at original
        | some row =>
            rw [found] at original
            exact seen row ((OrderedMap.mem_values _ _).mpr ⟨context,found⟩) transition original
    · rw [← OrderedMap.size_values]
      exact (List.length_pos_of_mem (OrderedMap.mem_values_set_self _ _ _)).ne'
  · exact Or.inr old

theorem updateTransition_sound (smooth : 0 ≤ config.smoothingParameter) (context : List Code) (nextState : Code)
    (state : BehavioralState K) (counted : Counted config chain) :
    Counted config (chain.updateTransition math now context nextState state) ∧
      (Distributions chain → Distributions (chain.updateTransition math now context nextState state)) := by
  have rows := updateTransition_rows math now counted smooth context nextState state
  refine ⟨⟨counted.1,fun row member => ?_⟩,fun distributions row member => ?_⟩
  · rcases rows row member with fresh | old
    · exact fresh.1
    · exact counted.2 row old
  · have same : (chain.updateTransition math now context nextState state).config = config := counted.1
    rw [same]
    rcases rows row member with fresh | old
    · exact fresh.2
    · rw [← counted.1]; exact distributions row old

omit [IsStrictOrderedRing K] in
theorem encodeStates_sound (states : List (BehavioralState K)) (counted : Counted config chain) :
    Counted config (chain.encodeStates states).2 ∧
      (Distributions (chain.encodeStates states).2 ↔ Distributions chain) := by
  obtain ⟨same,transitions⟩ := chain.encodeStates_transitions states
  refine ⟨⟨same.trans counted.1,by rw [transitions]; exact counted.2⟩,?_⟩
  unfold Distributions
  rw [transitions,same]

theorem recordSequence_sound (smooth : 0 ≤ config.smoothingParameter) (sequence : List (BehavioralState K))
    (counted : Counted config chain) :
    Counted config (chain.recordSequence math now sequence) ∧
      (Distributions chain → Distributions (chain.recordSequence math now sequence)) := by
  obtain ⟨encoded,same⟩ := encodeStates_sound sequence counted
  let sound (learned : MarkovChain K) : Prop :=
    Counted config learned ∧ (Distributions (chain.encodeStates sequence).2 → Distributions learned)
  have update : ∀ learned context nextState state, sound learned →
      sound (MarkovChain.updateTransition learned math now context nextState state) := by
    intro learned context nextState state kept
    obtain ⟨after,distributions⟩ := updateTransition_sound math now smooth context nextState state kept.1
    exact ⟨after,distributions ∘ kept.2⟩
  obtain ⟨final,distributions⟩ := (chain.encodeStates sequence).2.learnWindows_keep math now sound update (chain.encodeStates sequence).1 sequence
    (List.range (sequence.length - chain.config.order.value)) ⟨encoded,id⟩
  exact ⟨final,fun start => distributions (same.mpr start)⟩

def Uniform (chain : MarkovChain K) : Prop := ∀ row ∈ chain.transitionMatrix.transitions.values,
  (∀ transition ∈ row.values, chain.keeps transition = true) ∨
  (∀ transition ∈ row.values, chain.keeps transition = false)

omit [Field K] [LinearOrder K] [IsStrictOrderedRing K] in
theorem pruneTransitions_rows (chain : MarkovChain K) (row : Row K) :
    row ∈ chain.pruneTransitions.transitionMatrix.transitions.values ↔
    ∃ original ∈ chain.transitionMatrix.transitions.values,
      original.filter (fun _ => chain.keeps) = row ∧ row.size ≠ 0 := by
  simp only [MarkovChain.pruneTransitions]
  rw [OrderedMap.values_filter,OrderedMap.values_map,List.mem_filter,List.mem_map]
  simp only [decide_eq_true_eq]
  constructor
  · rintro ⟨⟨original,member,equal⟩,inhabited⟩; exact ⟨original,member,equal,inhabited⟩
  · rintro ⟨original,member,equal,inhabited⟩; exact ⟨⟨original,member,equal⟩,inhabited⟩

omit [Field K] [LinearOrder K] [IsStrictOrderedRing K] in
theorem pruneTransitions_counted (counted : Counted config chain) : Counted config chain.pruneTransitions := by
  refine ⟨counted.1,fun row member transition here => ?_⟩
  obtain ⟨original,before,rfl,_⟩ := (pruneTransitions_rows chain row).mp member
  exact counted.2 original before transition (mem_filtered.mp here).1

-- Pruning keeps the distributions exactly when no row is cut in two.
theorem pruneTransitions_distributions (smooth : 0 ≤ config.smoothingParameter) (counted : Counted config chain)
    (distributions : Distributions chain) : Distributions chain.pruneTransitions ↔ Uniform chain := by
  have smooth' : 0 ≤ chain.config.smoothingParameter := by rw [counted.1]; exact smooth
  constructor
  · intro pruned row member
    by_cases inhabited : (row.filter (fun _ => chain.keeps)).size ≠ 0
    · left
      have remains := (pruneTransitions_rows chain _).mpr ⟨row,member,rfl,inhabited⟩
      exact (filter_distribution smooth' (counted.2 row member) (distributions row member) _ inhabited).mp
        (pruned _ remains)
    · right
      rw [not_not,← OrderedMap.size_values,OrderedMap.values_filter,List.length_eq_zero_iff,
        List.filter_eq_nil_iff] at inhabited
      exact fun transition here => Bool.eq_false_iff.mpr (inhabited transition here)
  · intro uniform row member
    obtain ⟨original,before,rfl,inhabited⟩ := (pruneTransitions_rows chain row).mp member
    apply (filter_distribution smooth' (counted.2 original before) (distributions original before) _ inhabited).mpr
    rcases uniform original before with all | none
    · exact all
    · obtain ⟨left,remains⟩ := exists_transition inhabited
      obtain ⟨here,kept⟩ := mem_filtered.mp remains
      rw [none left here] at kept
      cases kept

omit [IsStrictOrderedRing K] in
theorem reload_sound (counted : Counted config chain) :
    Counted config (.deserialize chain.serialize) ∧
      (Distributions chain → Distributions (.deserialize chain.serialize)) := by
  have members : ∀ row ∈ (MarkovChain.deserialize chain.serialize).transitionMatrix.transitions.values,
      ∃ original ∈ chain.transitionMatrix.transitions.values,
        original.map (fun _ => StateTransition.throughJson) = row := by
    intro row member
    rw [deserialize_transitions,OrderedMap.values_map] at member
    exact List.mem_map.mp member
  have seen : ∀ original ∈ chain.transitionMatrix.transitions.values,
      Seen (original.map (fun _ => StateTransition.throughJson)) := by
    intro original before transition here
    rw [OrderedMap.values_map] at here
    obtain ⟨stored,inside,rfl⟩ := List.mem_map.mp here
    exact counted.2 original before stored inside
  refine ⟨⟨counted.1,?_⟩,?_⟩
  · intro row member
    obtain ⟨original,before,rfl⟩ := members row member
    exact seen original before
  · intro distributions row member
    obtain ⟨original,before,rfl⟩ := members row member
    have held := distributions original before
    refine distribution_map _ (fun _ _ => rfl) ?_ held
    intro transition here
    simp only [StateTransition.throughJson,held.frequencies transition here,JsonNumber.throughJson]

section Runs
variable [FloorRing K]

def PrunesUniformly (chain : MarkovChain K) : Operation K → Prop
  | .learnSequence now sequence => ¬ sequence.length < chain.config.order.value + 1 →
      (chain.recordSequence math now sequence).shouldPrune = true → Uniform (chain.recordSequence math now sequence)
  | _ => True

instance [DecidableEq K] (chain : MarkovChain K) (operation : Operation K) :
    Decidable (PrunesUniformly math chain operation) := by
  unfold PrunesUniformly Uniform
  cases operation <;> infer_instance

theorem step_counted (smooth : 0 ≤ config.smoothingParameter) (chain : MarkovChain K) (operation : Operation K)
    (counted : Counted config chain) : Counted config (step math chain operation).1 := by
  cases operation with
  | learnSequence now sequence =>
      have recorded := (recordSequence_sound math now smooth sequence counted).1
      exact chain.learnSequence_keeps math now (Counted config) counted recorded (pruneTransitions_counted recorded)
  | predictNext recentStates =>
      simp only [step,predictNext_state]
      exact (encodeStates_sound _ counted).1
  | validateSequence sequence =>
      simp only [step,validateSequence_state]
      exact (encodeStates_sound _ counted).1
  | getStatistics => exact counted
  | clear now => exact ⟨counted.1,by simp [step,MarkovChain.clear,MarkovChain.create,initializeTransitionMatrix,
      OrderedMap.values,OrderedMap.empty]⟩
  | reload => exact (reload_sound counted).1

theorem step_distributions (smooth : 0 ≤ config.smoothingParameter) (chain : MarkovChain K) (operation : Operation K)
    (counted : Counted config chain) (distributions : Distributions chain) :
    Distributions (step math chain operation).1 ↔ PrunesUniformly math chain operation := by
  cases operation with
  | learnSequence now sequence =>
      obtain ⟨counted',recorded⟩ := recordSequence_sound math now smooth sequence counted
      simp only [step,MarkovChain.learnSequence,PrunesUniformly]
      by_cases short : sequence.length < chain.config.order.value + 1
      · simp [short,distributions]
      · by_cases prunes : (chain.recordSequence math now sequence).shouldPrune = true
        · simp only [short,prunes,if_false,if_true,not_false_eq_true,true_implies]
          exact pruneTransitions_distributions smooth counted' (recorded distributions)
        · simp [short,prunes,recorded distributions]
  | predictNext recentStates =>
      simp only [step,predictNext_state,PrunesUniformly,iff_true]
      exact (encodeStates_sound _ counted).2.mpr distributions
  | validateSequence sequence =>
      simp only [step,validateSequence_state,PrunesUniformly,iff_true]
      exact (encodeStates_sound _ counted).2.mpr distributions
  | getStatistics => exact iff_of_true distributions trivial
  | clear now => exact iff_of_true (by simp [step,MarkovChain.clear,MarkovChain.create,initializeTransitionMatrix,
      Distributions,OrderedMap.values,OrderedMap.empty]) trivial
  | reload => exact iff_of_true ((reload_sound counted).2 distributions) trivial

-- The rows are distributions in every state of a run exactly when no learning step
-- of it prunes a row in part.
theorem rows_distributions_exact (config : MarkovChainConfig K) (now : ℤ) (operations : List (Operation K))
    (smooth : 0 ≤ config.smoothingParameter) :
    Throughout (step math) Distributions (.create config now) operations ↔
      Along (step math) (PrunesUniformly math) (.create config now) operations := by
  have empty : ∀ row, row ∉ (MarkovChain.create config now).transitionMatrix.transitions.values := by
    simp [MarkovChain.create,initializeTransitionMatrix,OrderedMap.values,OrderedMap.empty]
  exact throughout_exact (step_counted math smooth) (step_distributions math smooth)
    ⟨rfl,fun row member => absurd member (empty row)⟩ (fun row member => absurd member (empty row))

end Runs
end Chain

def instant : JsMath ℚ := ⟨fun _ => 0,fun _ => 0,fun _ => 0,fun _ => 1⟩
def pruneAboveOneState : MarkovChainConfig ℚ := ⟨.first,1,2,1,1000⟩
def visit (action : BehavioralActionType) : BehavioralState ℚ := ⟨action,.normal,0,none⟩

-- The one row of this run is rare as a whole when it is pruned.
theorem rows_distributions_whole :
    Throughout (step instant) Distributions (.create pruneAboveOneState 0)
      [.learnSequence 0 [visit .login_attempt,visit .login_success],.predictNext [visit .logout],.reload] := by
  apply (rows_distributions_exact instant pruneAboveOneState 0 _ (by decide)).mpr
  decide +kernel

-- After the pruning step the row of `login_attempt` keeps one transition with the
-- probability it had among two.
theorem pruned_row_not_renormalised :
    let chain := (exec (step instant) (.create pruneAboveOneState 0) [.learnSequence 0
      [visit .login_attempt,visit .login_success,visit .login_attempt,visit .login_failure,
        visit .login_attempt,visit .login_success]]).1
    ((chain.transitionMatrix.transitions.get [0]).map (fun row =>
      row.values.map (fun transition => finiteOf transition.probability))) = some [3/5] ∧ ¬ Distributions chain := by
  intro chain
  have stored : ((chain.transitionMatrix.transitions.get [0]).map (fun row =>
      row.values.map (fun transition => finiteOf transition.probability))) = some [3/5] := by decide +kernel
  refine ⟨stored,fun distributions => ?_⟩
  obtain ⟨row,found,probabilities⟩ := Option.map_eq_some_iff.mp stored
  have total := (distributions row ((OrderedMap.mem_values _ _).mpr ⟨[0],found⟩)).total
  rw [probabilities] at total
  exact absurd total (by decide +kernel)

end PhantomFlow.Markov
