import Mathlib.Algebra.BigOperators.Ring.List
import Mathlib.Data.Finset.Card
import Mathlib.Data.List.Count
import PhantomFlow.Markov.MarkovChain

namespace PhantomFlow.Markov
open Library

def windowAt (order : ℕ) (entries : List α) (i : ℕ) : Option (List α × α) :=
  (entries[i + order]?).map (fun next => ((entries.drop i).take order,next))

def windowsOf (order : ℕ) (entries : List α) : List (List α × α) :=
  (List.range (entries.length - order)).filterMap (windowAt order entries)

section Encoding
variable {K : Type}

theorem encodeState_code (chain : MarkovChain K) (state : BehavioralState K) :
    (chain.encodeState state).2.stateEncoder.get (MarkovChain.keyOf state) = some (chain.encodeState state).1 := by
  unfold MarkovChain.encodeState
  cases found : chain.stateEncoder.get (MarkovChain.keyOf state) with
  | some code => exact found
  | none => exact OrderedMap.get_set_self _ _ _

theorem encodeState_keeps (chain : MarkovChain K) (state : BehavioralState K)
    (known : chain.stateEncoder.get key = some code) :
    (chain.encodeState state).2.stateEncoder.get key = some code := by
  unfold MarkovChain.encodeState
  cases found : chain.stateEncoder.get (MarkovChain.keyOf state) with
  | some _ => exact known
  | none =>
      have other : key ≠ MarkovChain.keyOf state := by
        rintro rfl
        rw [found] at known
        cases known
      exact (OrderedMap.get_set_other _ _ other).trans known

theorem encodeStates_keeps (chain : MarkovChain K) (states : List (BehavioralState K))
    (known : chain.stateEncoder.get key = some code) :
    (chain.encodeStates states).2.stateEncoder.get key = some code := by
  induction states generalizing chain with
  | nil => exact known
  | cons state rest ih => exact ih (chain.encodeState state).2 (encodeState_keeps chain state known)

theorem encodeStates_codes (chain : MarkovChain K) (states : List (BehavioralState K)) :
    (chain.encodeStates states).1.map some =
      states.map (fun state => (chain.encodeStates states).2.stateEncoder.get (MarkovChain.keyOf state)) := by
  induction states generalizing chain with
  | nil => rfl
  | cons state rest ih =>
      have first := encodeStates_keeps (chain.encodeState state).2 rest (encodeState_code chain state)
      simp only [MarkovChain.encodeStates,List.map_cons,first]
      exact congrArg _ (ih (chain.encodeState state).2)

theorem encodeStates_length (chain : MarkovChain K) (states : List (BehavioralState K)) :
    (chain.encodeStates states).1.length = states.length := by
  have lengths := congrArg List.length (encodeStates_codes chain states)
  simpa using lengths

theorem encodeStates_known (chain : MarkovChain K) {states : List (BehavioralState K)} {codes : List Code}
    (known : codes.map some = states.map (fun state => chain.stateEncoder.get (MarkovChain.keyOf state))) :
    chain.encodeStates states = (codes,chain) := by
  induction states generalizing codes with
  | nil =>
      cases codes with
      | nil => rfl
      | cons code rest => cases known
  | cons state rest ih =>
      cases codes with
      | nil => cases known
      | cons code others =>
          simp only [List.map_cons,List.cons.injEq] at known
          have first : chain.encodeState state = (code,chain) := by
            simp [MarkovChain.encodeState,← known.1]
          simp [MarkovChain.encodeStates,first,ih known.2]

end Encoding

section Rows
variable {K : Type}

def rowOf (chain : MarkovChain K) (context : List Code) : Row K :=
  (chain.transitionMatrix.transitions.get context).getD .empty

theorem encodeStates_rowOf (chain : MarkovChain K) (states : List (BehavioralState K)) (context : List Code) :
    rowOf (chain.encodeStates states).2 context = rowOf chain context := by
  rw [rowOf,(chain.encodeStates_transitions states).2,rowOf]

theorem encodeStates_buildContext (chain : MarkovChain K) (states : List (BehavioralState K)) (codes : List Code)
    (i : ℕ) : (chain.encodeStates states).2.buildContext codes i = chain.buildContext codes i := by
  rw [MarkovChain.buildContext,(chain.encodeStates_transitions states).1,MarkovChain.buildContext]

def countIn (row : Row K) (code : Code) : ℕ := ((row.get code).map StateTransition.count).getD 0

def pairsOf (chain : MarkovChain K) : List (List Code × Code) :=
  chain.transitionMatrix.transitions.entries.flatMap (fun entry => entry.2.keys.map (fun code => (entry.1,code)))

theorem mem_pairsOf (chain : MarkovChain K) (context : List Code) (code : Code) :
    (context,code) ∈ pairsOf chain ↔ code ∈ (rowOf chain context).keys := by
  simp only [pairsOf,List.mem_flatMap,List.mem_map,Prod.mk.injEq]
  constructor
  · intro listed
    rcases listed with ⟨entry,member,other,here,rfl,rfl⟩
    rw [rowOf,(OrderedMap.get_exact _ entry.1 entry.2).mpr member]
    exact here
  · intro here
    unfold rowOf at here
    cases found : chain.transitionMatrix.transitions.get context with
    | none =>
        rw [found] at here
        cases here
    | some row =>
        rw [found] at here
        exact ⟨(context,row),(OrderedMap.get_exact _ _ _).mp found,code,here,rfl,rfl⟩

theorem nodup_pairsOf (chain : MarkovChain K) : (pairsOf chain).Nodup := by
  unfold pairsOf
  rw [List.nodup_flatMap]
  refine ⟨?_,?_⟩
  · intro entry _
    exact List.Nodup.map (fun a b same => (Prod.mk.inj same).2) entry.2.distinct
  · have contexts := List.pairwise_map.mp chain.transitionMatrix.transitions.distinct
    refine contexts.imp ?_
    intro a b different pair left right
    obtain ⟨_,_,rfl⟩ := List.mem_map.mp left
    obtain ⟨_,_,same⟩ := List.mem_map.mp right
    exact different (Prod.mk.inj same).1.symm

theorem memoryUsage_pairs (chain : MarkovChain K) :
    chain.calculateMemoryUsage = chain.transitionMatrix.states.length * 50 + (pairsOf chain).toFinset.card * 200 := by
  have sizes : (pairsOf chain).length = (chain.transitionMatrix.transitions.values.map OrderedMap.size).sum := by
    simp [pairsOf,OrderedMap.values,OrderedMap.keys,OrderedMap.size,List.length_flatMap,Function.comp_def]
  have scaled : (chain.transitionMatrix.transitions.values.map (fun row => row.size * 200)).sum =
      (chain.transitionMatrix.transitions.values.map OrderedMap.size).sum * 200 := List.sum_map_mul_right _ _ _
  rw [MarkovChain.calculateMemoryUsage,List.toFinset_card_of_nodup (nodup_pairsOf chain),sizes,scaled]

variable [Field K] [LinearOrder K] (math : JsMath K) (now : ℤ)

theorem keys_updateProbabilities (chain : MarkovChain K) (row : Row K) :
    (chain.updateProbabilities math now row).keys = row.keys := OrderedMap.keys_map _ _

theorem countIn_updateProbabilities (chain : MarkovChain K) (row : Row K) (code : Code) :
    countIn (chain.updateProbabilities math now row) code = countIn row code := by
  unfold countIn MarkovChain.updateProbabilities
  rw [OrderedMap.get_map,Option.map_map]
  rfl

def countedRow (chain : MarkovChain K) (context : List Code) (nextState : Code) (state : BehavioralState K) : Row K :=
  (rowOf chain context).set nextState (MarkovChain.observe now
    (((rowOf chain context).get nextState).getD (MarkovChain.newTransition now context nextState)) state)

theorem rowOf_updateTransition (chain : MarkovChain K) (context : List Code) (nextState : Code)
    (state : BehavioralState K) (other : List Code) :
    rowOf (chain.updateTransition math now context nextState state) other =
      if other = context then chain.updateProbabilities math now (countedRow now chain context nextState state)
      else rowOf chain other := by
  unfold rowOf MarkovChain.updateTransition
  dsimp only
  rw [OrderedMap.get_set]
  split <;> rfl

omit [LinearOrder K] in
theorem count_before (chain : MarkovChain K) (context : List Code) (nextState : Code) :
    (((rowOf chain context).get nextState).getD (MarkovChain.newTransition now context nextState)).count =
      countIn (rowOf chain context) nextState := by
  unfold countIn
  cases (rowOf chain context).get nextState <;> rfl

-- One update: the count of its transition and the total of its row grow by one, and
-- the transition is stored.
theorem updateTransition_counts (chain : MarkovChain K) (context : List Code) (nextState : Code)
    (state : BehavioralState K) (other : List Code) :
    (∀ code, countIn (rowOf (chain.updateTransition math now context nextState state) other) code =
      countIn (rowOf chain other) code + [(context,nextState)].count (other,code)) ∧
    (MarkovChain.totalCount (rowOf (chain.updateTransition math now context nextState state) other) =
      MarkovChain.totalCount (rowOf chain other) + [(context,nextState)].countP (fun window => window.1 = other)) ∧
    (∀ code, code ∈ (rowOf (chain.updateTransition math now context nextState state) other).keys ↔
      code ∈ (rowOf chain other).keys ∨ (other,code) ∈ [(context,nextState)]) := by
  rw [rowOf_updateTransition]
  by_cases same : other = context
  · subst other
    rw [if_pos rfl]
    refine ⟨?_,?_,?_⟩
    · intro code
      rw [countIn_updateProbabilities]
      by_cases here : code = nextState
      · subst code
        rw [List.count_singleton_self,← count_before now,← MarkovChain.observe_count now _ state]
        simp [countIn,countedRow]
      · have absent : [(context,nextState)].count (context,code) = 0 :=
          List.count_eq_zero.mpr (by simp [here])
        rw [absent,countIn,countedRow,OrderedMap.get_set_other _ _ here]
        rfl
    · rw [MarkovChain.totalCount_updateProbabilities]
      have sums := OrderedMap.sum_values_set (rowOf chain context) StateTransition.count nextState
        (MarkovChain.observe now (((rowOf chain context).get nextState).getD
          (MarkovChain.newTransition now context nextState)) state)
      have before := count_before now chain context nextState
      rw [MarkovChain.observe_count,before] at sums
      simp only [countIn] at sums
      simp only [MarkovChain.totalCount,countedRow,List.countP_singleton,decide_true,if_true]
      omega
    · intro code
      rw [keys_updateProbabilities,countedRow,OrderedMap.mem_keys_set]
      simp [or_comm]
  · have different : context ≠ other := fun equal => same equal.symm
    rw [if_neg same]
    refine ⟨?_,?_,?_⟩
    · intro code
      rw [List.count_eq_zero.mpr (by simp [same])]
      rfl
    · simp [different]
    · simp [same]

theorem updateTransition_config (chain : MarkovChain K) (context : List Code) (nextState : Code)
    (state : BehavioralState K) : (chain.updateTransition math now context nextState state).config = chain.config := rfl

theorem learnWindows_counts (codes : List Code) (sequence : List (BehavioralState K))
    (length : codes.length = sequence.length) (positions : List ℕ) (chain : MarkovChain K) (context : List Code) :
    let learned := positions.foldl (MarkovChain.learnWindow math now codes sequence) chain
    let windows := positions.filterMap (windowAt chain.config.order.value codes)
    learned.config = chain.config ∧
    (∀ code, countIn (rowOf learned context) code = countIn (rowOf chain context) code + windows.count (context,code)) ∧
    (MarkovChain.totalCount (rowOf learned context) =
      MarkovChain.totalCount (rowOf chain context) + windows.countP (fun window => window.1 = context)) ∧
    (∀ code, code ∈ (rowOf learned context).keys ↔ code ∈ (rowOf chain context).keys ∨ (context,code) ∈ windows) := by
  induction positions generalizing chain with
  | nil => simp
  | cons i rest ih =>
      simp only [List.foldl_cons]
      cases found : codes[i + chain.config.order.value]? with
      | none =>
          have unchanged : chain.learnWindow math now codes sequence i = chain := by
            simp [MarkovChain.learnWindow,found]
          rw [unchanged,List.filterMap_cons_none (by simp [windowAt,found])]
          exact ih chain
      | some nextState =>
          obtain ⟨state,read⟩ : ∃ state, sequence[i + chain.config.order.value]? = some state := by
            obtain ⟨inside,_⟩ := List.getElem?_eq_some_iff.mp found
            exact ⟨sequence[i + chain.config.order.value],List.getElem?_eq_getElem _⟩
          have updated : chain.learnWindow math now codes sequence i =
              chain.updateTransition math now (chain.buildContext codes i) nextState state := by
            simp [MarkovChain.learnWindow,found,read]
          have window : windowAt chain.config.order.value codes i = some (chain.buildContext codes i,nextState) := by
            simp [windowAt,found,MarkovChain.buildContext]
          obtain ⟨config,counts,total,keys⟩ := ih (chain.updateTransition math now (chain.buildContext codes i) nextState state)
          obtain ⟨counts',total',keys'⟩ := updateTransition_counts math now chain (chain.buildContext codes i) nextState state
            context
          rw [updateTransition_config] at config counts total keys
          rw [updated,List.filterMap_cons_some window,← List.singleton_append]
          refine ⟨config,?_,?_,?_⟩
          · intro code
            rw [counts,counts',List.count_append,Nat.add_assoc]
          · rw [total,total',List.countP_append,Nat.add_assoc]
          · intro code
            rw [keys,keys',List.mem_append,or_assoc]

theorem recordSequence_counts (chain : MarkovChain K) (sequence : List (BehavioralState K)) (context : List Code) :
    let recorded := chain.recordSequence math now sequence
    let windows := windowsOf chain.config.order.value (chain.encodeStates sequence).1
    recorded.config = chain.config ∧
    (∀ code, countIn (rowOf recorded context) code = countIn (rowOf chain context) code + windows.count (context,code)) ∧
    (MarkovChain.totalCount (rowOf recorded context) =
      MarkovChain.totalCount (rowOf chain context) + windows.countP (fun window => window.1 = context)) ∧
    (∀ code, code ∈ (rowOf recorded context).keys ↔ code ∈ (rowOf chain context).keys ∨ (context,code) ∈ windows) := by
  have learned := learnWindows_counts math now (chain.encodeStates sequence).1 sequence
    (encodeStates_length chain sequence) (List.range (sequence.length - chain.config.order.value))
    (chain.encodeStates sequence).2 context
  rw [encodeStates_rowOf,(chain.encodeStates_transitions sequence).1] at learned
  dsimp only
  rw [windowsOf,encodeStates_length]
  exact learned

-- The last window refreshes its row, so its transition carries the smoothed share
-- of the final counts.
theorem recordSequence_last (chain : MarkovChain K) (sequence : List (BehavioralState K)) (last : ℕ)
    (length : sequence.length = last + chain.config.order.value + 1)
    (found : (chain.encodeStates sequence).1[last + chain.config.order.value]? = some code) :
    let row := rowOf (chain.recordSequence math now sequence) (chain.buildContext (chain.encodeStates sequence).1 last)
    ∃ transition, row.get code = some transition ∧ transition.count = countIn row code ∧
      transition.probability = .number (.div (transition.count + chain.config.smoothingParameter)
        (MarkovChain.totalCount row + chain.config.smoothingParameter * row.size)) := by
  obtain ⟨config,_⟩ := chain.encodeStates_transitions sequence
  obtain ⟨state,read⟩ : ∃ state, sequence[last + chain.config.order.value]? = some state :=
    ⟨sequence[last + chain.config.order.value],List.getElem?_eq_getElem _⟩
  have before := (learnWindows_counts math now (chain.encodeStates sequence).1 sequence
    (encodeStates_length chain sequence) (List.range last) (chain.encodeStates sequence).2 []).1
  rw [config] at before
  have windows : sequence.length - chain.config.order.value = last + 1 := by omega
  intro row
  have updated : ∃ chain' : MarkovChain K, chain'.config = chain.config ∧
      row = chain'.updateProbabilities math now (countedRow now chain'
        (chain.buildContext (chain.encodeStates sequence).1 last) code state) := by
    refine ⟨(List.range last).foldl (MarkovChain.learnWindow math now (chain.encodeStates sequence).1 sequence)
      (chain.encodeStates sequence).2,before,?_⟩
    simp only [row,MarkovChain.recordSequence,windows,List.range_succ,List.foldl_append,List.foldl_cons,List.foldl_nil]
    generalize (List.range last).foldl (MarkovChain.learnWindow math now (chain.encodeStates sequence).1 sequence)
      (chain.encodeStates sequence).2 = chain' at before
    have context : chain'.buildContext (chain.encodeStates sequence).1 last =
        chain.buildContext (chain.encodeStates sequence).1 last := by simp only [MarkovChain.buildContext,before]
    simp only [MarkovChain.learnWindow,before,found,read,context]
    have refreshed := rowOf_updateTransition math now chain' (chain.buildContext (chain.encodeStates sequence).1 last)
      code state (chain.buildContext (chain.encodeStates sequence).1 last)
    rw [if_pos rfl] at refreshed
    exact refreshed
  obtain ⟨chain',same,refreshed⟩ := updated
  rw [refreshed,MarkovChain.totalCount_updateProbabilities,MarkovChain.size_updateProbabilities,countIn_updateProbabilities,← same]
  unfold countIn
  rw [MarkovChain.updateProbabilities,OrderedMap.get_map,countedRow,OrderedMap.get_set_self]
  exact ⟨_,rfl,rfl,rfl⟩

end Rows
end PhantomFlow.Markov
