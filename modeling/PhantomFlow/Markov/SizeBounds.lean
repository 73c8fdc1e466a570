import PhantomFlow.Markov.Novelty
import PhantomFlow.Markov.Queries

namespace PhantomFlow.Markov
open Library Library.Machine

section Ahead
variable {K : Type} (chain : MarkovChain K) (sequence : List (BehavioralState K))

def unseen : Finset StateKey :=
  (sequence.map MarkovChain.keyOf).toFinset.filter (fun key => chain.stateEncoder.has key = false)

def familiar : ℕ := sequence.length - (unseen chain sequence).card

-- The transitions whose count, with the sequence added, reaches the threshold.
def keptAhead : Finset (List Code × Code) :=
  (pairsOf chain ++ windowsAhead chain sequence).toFinset.filter (fun pair =>
    chain.config.pruningThreshold ≤ (countIn (rowOf chain pair.1) pair.2 + (windowsAhead chain sequence).count pair : ℕ))

def windowsIn : ℕ := sequence.length - chain.config.order.value
def callCost : ℕ := sequence.length * 50 + windowsIn chain sequence * 200

def SizeBounded : Prop :=
  (chain.transitionMatrix.states.length : ℚ) ≤ chain.config.maxStates + sequence.length ∧
    (chain.calculateMemoryUsage : ℚ) ≤ chain.config.memoryLimit + callCost chain sequence

-- No limit is reached, or what the chain holds beyond its limits before the call is
-- made up by familiar entries, and by rare transitions, of which alone pruning rids it.
-- A sequence without a window is ignored.
def MadeUp : Prop :=
  if sequence.length < chain.config.order.value + 1 then SizeBounded chain sequence
  else ¬ CrowdedAhead chain sequence ∨
    (chain.transitionMatrix.states.length : ℚ) ≤ chain.config.maxStates + familiar chain sequence ∧
    (chain.transitionMatrix.states.length * 50 + (keptAhead chain sequence).card * 200 : ℕ) ≤
      chain.config.memoryLimit + (familiar chain sequence * 50 + windowsIn chain sequence * 200 : ℕ)

instance : Decidable (SizeBounded chain sequence) := inferInstanceAs (Decidable (_ ∧ _))

theorem unseen_le : (unseen chain sequence).card ≤ sequence.length := by
  have within := Finset.card_le_card (Finset.filter_subset
    (fun key => chain.stateEncoder.has key = false) (sequence.map MarkovChain.keyOf).toFinset)
  have entries := List.toFinset_card_le (sequence.map MarkovChain.keyOf)
  rw [List.length_map] at entries
  exact within.trans entries

theorem familiar_unseen : familiar chain sequence + (unseen chain sequence).card = sequence.length :=
  Nat.sub_add_cancel (unseen_le chain sequence)

end Ahead

section Encoding
variable {K : Type} {chain : MarkovChain K}

theorem encodeState_has (chain : MarkovChain K) (state : BehavioralState K) (key : StateKey) :
    (chain.encodeState state).2.stateEncoder.has key =
      (decide (key = MarkovChain.keyOf state) || chain.stateEncoder.has key) := by
  unfold MarkovChain.encodeState
  cases found : chain.stateEncoder.get (MarkovChain.keyOf state) with
  | some code =>
      by_cases same : key = MarkovChain.keyOf state
      · subst key
        simp [OrderedMap.has_of_get found]
      · simp [same]
  | none => exact OrderedMap.has_set _ _ _ _

theorem unseen_cons (chain : MarkovChain K) (state : BehavioralState K) (rest : List (BehavioralState K)) :
    (unseen chain (state :: rest)).card =
      (if chain.stateEncoder.has (MarkovChain.keyOf state) then 0 else 1) +
        (unseen (chain.encodeState state).2 rest).card := by
  cases known : chain.stateEncoder.has (MarkovChain.keyOf state) with
  | true =>
      have same : unseen chain (state :: rest) = unseen chain rest := by
        simp [unseen,Finset.filter_insert,known]
      rw [encodeState_registered known,same,if_pos rfl,Nat.zero_add]
  | false =>
      have split : unseen chain (state :: rest) =
          insert (MarkovChain.keyOf state) (unseen (chain.encodeState state).2 rest) := by
        ext key
        by_cases same : key = MarkovChain.keyOf state
        · subst key
          simp [unseen,known]
        · simp [unseen,encodeState_has,same]
      have absent : MarkovChain.keyOf state ∉ unseen (chain.encodeState state).2 rest := by
        simp [unseen,encodeState_has]
      rw [split,Finset.card_insert_of_notMem absent,if_neg Bool.false_ne_true,Nat.add_comm]

theorem statesAhead_unseen (fresh : Fresh chain) (sequence : List (BehavioralState K)) :
    statesAhead chain sequence = chain.transitionMatrix.states.length + (unseen chain sequence).card := by
  unfold statesAhead
  induction sequence generalizing chain with
  | nil => rfl
  | cons state rest ih =>
      obtain ⟨fresh',grown⟩ := encodeState_grows fresh state
      rw [unseen_cons,← Nat.add_assoc,← grown]
      exact ih fresh'

end Encoding

section Pruning
variable {K : Type}

theorem pairsOf_pruneTransitions (chain : MarkovChain K) :
    (pairsOf chain.pruneTransitions).toFinset = (pairsOf chain).toFinset.filter (fun pair =>
      chain.config.pruningThreshold ≤ countIn (rowOf chain pair.1) pair.2) := by
  ext ⟨context,code⟩
  rw [Finset.mem_filter,List.mem_toFinset,List.mem_toFinset,mem_pairsOf,mem_pairsOf,OrderedMap.mem_keys,
    OrderedMap.mem_keys,rowOf_pruneTransitions]
  cases found : (rowOf chain context).get code with
  | none => simp
  | some transition => simp [countIn,found,Option.filter_eq_some_iff,MarkovChain.keeps]

end Pruning

section Learning
variable {K : Type} [Field K] [LinearOrder K] {chain : MarkovChain K} {sequence : List (BehavioralState K)}
  (math : JsMath K) (now : ℤ)

theorem learnSequence_states (long : ¬ sequence.length < chain.config.order.value + 1) :
    (chain.learnSequence math now sequence).transitionMatrix.states.length = statesAhead chain sequence := by
  have recorded := (chain.recordSequence_encoder math now sequence).2.2
  rw [MarkovChain.learnSequence,if_neg long,statesAhead,← recorded]
  dsimp only
  split <;> rfl

theorem recordSequence_memory (chain : MarkovChain K) (sequence : List (BehavioralState K)) :
    (chain.recordSequence math now sequence).calculateMemoryUsage =
      statesAhead chain sequence * 50 + (pairsOf chain ++ windowsAhead chain sequence).toFinset.card * 200 := by
  rw [memoryUsage_pairs,(chain.recordSequence_encoder math now sequence).2.2,recordSequence_pairs]
  rfl

theorem pruned_memory (chain : MarkovChain K) (sequence : List (BehavioralState K)) :
    (chain.recordSequence math now sequence).pruneTransitions.calculateMemoryUsage =
      statesAhead chain sequence * 50 + (keptAhead chain sequence).card * 200 := by
  have counts := recordSequence_counts math now chain sequence
  have states : (chain.recordSequence math now sequence).pruneTransitions.transitionMatrix.states =
    (chain.encodeStates sequence).2.transitionMatrix.states := (chain.recordSequence_encoder math now sequence).2.2
  have kept : (pairsOf (chain.recordSequence math now sequence).pruneTransitions).toFinset = keptAhead chain sequence := by
    rw [pairsOf_pruneTransitions,recordSequence_pairs,keptAhead,(counts []).1]
    apply Finset.filter_congr
    intro pair _
    rw [(counts pair.1).2.1 pair.2]
    rfl
  rw [memoryUsage_pairs,states,kept]
  rfl

theorem learnSequence_bounded (fresh : Fresh chain) :
    SizeBounded (chain.learnSequence math now sequence) sequence ↔ MadeUp chain sequence := by
  unfold MadeUp
  by_cases short : sequence.length < chain.config.order.value + 1
  · rw [if_pos short,MarkovChain.learnSequence,if_pos short]
  · have config := learnSequence_config math now chain sequence
    have states := statesAhead_unseen fresh sequence
    have entries := familiar_unseen chain sequence
    have crowded := recordSequence_crowded math now chain sequence
    unfold SizeBounded callCost windowsIn
    rw [if_neg short,learnSequence_states math now short,config,← entries]
    by_cases full : CrowdedAhead chain sequence
    · have memory : (chain.learnSequence math now sequence).calculateMemoryUsage =
          statesAhead chain sequence * 50 + (keptAhead chain sequence).card * 200 := by
        rw [MarkovChain.learnSequence,if_neg short]
        dsimp only
        rw [if_pos (crowded.mpr full),pruned_memory]
      rw [memory,states]
      simp only [full,not_true,false_or]
      push_cast
      constructor
      · intro bounded
        exact ⟨by linarith only [bounded.1],by linarith only [bounded.2]⟩
      · intro madeUp
        exact ⟨by linarith only [madeUp.1],by linarith only [madeUp.2]⟩
    · have memory : (chain.learnSequence math now sequence).calculateMemoryUsage =
          statesAhead chain sequence * 50 + (pairsOf chain ++ windowsAhead chain sequence).toFinset.card * 200 := by
        rw [MarkovChain.learnSequence,if_neg short]
        dsimp only
        rw [if_neg (fun prune => full (crowded.mp prune)),recordSequence_memory]
      refine iff_of_true ?_ (Or.inl full)
      simp only [CrowdedAhead,not_or,not_lt] at full
      rw [memory]
      constructor
      · exact full.1.trans (le_add_of_nonneg_right (Nat.cast_nonneg _))
      · exact full.2.trans (le_add_of_nonneg_right (Nat.cast_nonneg _))

end Learning

section Runs
variable {K : Type} [Field K] [LinearOrder K] (math : JsMath K)

def learnStep (chain : MarkovChain K) (call : ℤ × List (BehavioralState K)) : MarkovChain K × Unit :=
  (chain.learnSequence math call.1 call.2,())

-- Every run of learning calls stays within the bound exactly as far as its calls make
-- up for what pruning cannot free.
theorem size_bounded_exact (config : MarkovChainConfig K) (now : ℤ) (calls : List (ℤ × List (BehavioralState K))) :
    Along (learnStep math) (fun chain call => SizeBounded (learnStep math chain call).1 call.2) (.create config now)
        calls ↔
      Along (learnStep math) (fun chain call => MadeUp chain call.2) (.create config now) calls := by
  have start : Fresh (MarkovChain.create config now) := by
    intro code member
    cases member
  refine along_exact_ahead (fun chain _ => Fresh chain) ?_ ?_ start
  · intro chain call _ fresh
    exact learnSequence_fresh math fresh call.1 call.2
  · intro chain call _ fresh
    exact learnSequence_bounded math call.1 fresh

end Runs

def keepEverything : MarkovChainConfig ℚ := ⟨.first,1,1,2,250⟩

-- With a threshold of one, pruning frees nothing at all, and never a state.
theorem size_unbounded :
    2 ≤ keepEverything.maxStates ∧ 250 ≤ keepEverything.memoryLimit ∧ 1 ≤ keepEverything.pruningThreshold ∧
    ¬ Along (learnStep instant) (fun chain call => SizeBounded (learnStep instant chain call).1 call.2)
      (.create keepEverything 0)
      [(0,[visit .page_view,visit .click]),(1,[visit .search,visit .scroll]),
        (2,[visit .login_attempt,visit .login_success])] := by
  decide +kernel

end PhantomFlow.Markov
