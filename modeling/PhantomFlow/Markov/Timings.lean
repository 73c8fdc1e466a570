import PhantomFlow.Library.Fallible
import PhantomFlow.Markov.Novelty
import PhantomFlow.Markov.Relearning

namespace PhantomFlow.Markov
open Library

section Lists
variable {α : Type u} {β : Type v}

theorem flatMap_part_iff {parts whole : α → List β} {entries : List α}
    (each : ∀ entry ∈ entries, parts entry = whole entry ∨ parts entry = []) :
    entries.flatMap parts = entries.flatMap whole ↔ ∀ entry ∈ entries, parts entry = whole entry := by
  have shorter : ∀ rest ⊆ entries, (rest.flatMap parts).length ≤ (rest.flatMap whole).length := by
    intro rest inside
    rw [List.length_flatMap,List.length_flatMap]
    apply List.sum_le_sum
    intro entry here
    rcases each entry (inside here) with same | none
    · rw [same]
    · rw [none]
      exact Nat.zero_le _
  induction entries with
  | nil => simp
  | cons first rest ih =>
      have later := ih (fun entry here => each entry (List.mem_cons_of_mem _ here))
        (fun others inside => shorter others (fun _ here => List.mem_cons_of_mem _ (inside here)))
      rw [List.flatMap_cons,List.flatMap_cons,List.forall_mem_cons]
      constructor
      · intro equal
        have bound := shorter rest (List.subset_cons_self _ _)
        have first' : parts first = whole first := by
          rcases each first List.mem_cons_self with same | none
          · exact same
          · have lengths := congrArg List.length equal
            rw [List.length_append,List.length_append,none,List.length_nil] at lengths
            rw [none]
            exact (List.length_eq_zero_iff.mp (by omega)).symm
        rw [first'] at equal
        exact ⟨first',later.mp (List.append_cancel_left equal)⟩
      · rintro ⟨same,others⟩
        rw [same,later.mpr others]

theorem filterMap_range (f : α → Option β) (entries : List α) :
    entries.filterMap f = (List.range entries.length).flatMap (fun i => (entries[i]?.bind f).toList) := by
  induction entries with
  | nil => rfl
  | cons first rest ih =>
      rw [List.length_cons,List.range_succ_eq_map,List.flatMap_cons,List.flatMap_map,List.filterMap_cons,ih]
      cases found : f first <;> simp [found]

end Lists

def TooClose (state1 state2 : BehavioralState K) : Prop := state2.timestamp - state1.timestamp < 100

instance (state1 state2 : BehavioralState K) : Decidable (TooClose state1 state2) := inferInstanceAs (Decidable (_ < (100 : ℤ)))

def expectedTimings (sequence : List (BehavioralState K)) : List Violation :=
  (stepsOf sequence).filterMap (fun step => MarkovChain.checkTimingViolation step.1 step.2)

def timingViolations (violations : List Violation) : List Violation :=
  violations.filter (fun violation => violation.type = .timing_violation)

-- A stored probability that the validation tries to print is `null`.
def Unprintable (chain : MarkovChain K) (sequence : List (BehavioralState K)) : Prop :=
  ∃ i < sequence.length - chain.config.order.value, ∃ code transition,
    (codesAhead chain sequence)[i + chain.config.order.value]? = some code ∧
    (rowOf chain (chain.buildContext (codesAhead chain sequence) i)).get code = some transition ∧
    transition.probability = .null

def Apart (sequence : List (BehavioralState K)) (i : ℕ) : Prop :=
  ∀ state1 state2, sequence[i]? = some state1 → sequence[i + 1]? = some state2 → ¬ TooClose state1 state2

-- The first pair and the last `order - 1` ones are not looked at.
structure TimingChecked (chain : MarkovChain K) (sequence : List (BehavioralState K)) : Prop where
  unchecked : ∀ i, i = 0 ∨ sequence.length - chain.config.order.value ≤ i → Apart sequence i
  printed : Unprintable chain sequence → ∀ i, Apart sequence i

section Timing
variable {K : Type} {sequence : List (BehavioralState K)}

def timingAt (sequence : List (BehavioralState K)) (i : ℕ) : List Violation :=
  ((stepsOf sequence)[i]?.bind (fun step => MarkovChain.checkTimingViolation step.1 step.2)).toList

theorem expectedTimings_at (sequence : List (BehavioralState K)) :
    expectedTimings sequence = (List.range (sequence.length - 1)).flatMap (timingAt sequence) := by
  have length : (stepsOf sequence).length = sequence.length - 1 := by
    rw [stepsOf,List.length_zip,List.length_tail]
    omega
  rw [expectedTimings,filterMap_range,length]
  rfl

theorem step_at (sequence : List (BehavioralState K)) (i : ℕ) (state1 state2 : BehavioralState K) :
    (stepsOf sequence)[i]? = some (state1,state2) ↔ sequence[i]? = some state1 ∧ sequence[i + 1]? = some state2 := by
  rw [stepsOf,List.getElem?_zip_eq_some,List.getElem?_tail]

theorem timingAt_nil_iff (sequence : List (BehavioralState K)) (i : ℕ) : timingAt sequence i = [] ↔ Apart sequence i := by
  unfold timingAt Apart
  cases found : (stepsOf sequence)[i]? with
  | none =>
      refine iff_of_true rfl (fun state1 state2 here next => ?_)
      rw [(step_at sequence i state1 state2).mpr ⟨here,next⟩] at found
      cases found
  | some step =>
      obtain ⟨here,next⟩ := (step_at sequence i step.1 step.2).mp found
      have fine : (MarkovChain.checkTimingViolation step.1 step.2).toList = [] ↔ ¬ TooClose step.1 step.2 := by
        unfold MarkovChain.checkTimingViolation TooClose
        dsimp only
        split <;> simp [*]
      rw [Option.bind_some,fine]
      constructor
      · intro apart state1 state2 here' next'
        rw [here] at here'
        rw [next] at next'
        cases here'
        cases next'
        exact apart
      · intro apart
        exact apart step.1 step.2 here next

theorem timingViolations_timingAt (sequence : List (BehavioralState K)) (i : ℕ) :
    timingViolations (timingAt sequence i) = timingAt sequence i := by
  unfold timingAt timingViolations
  rw [List.filter_eq_self]
  intro violation listed
  obtain ⟨step,_,found⟩ := Option.bind_eq_some_iff.mp (Option.mem_toList.mp listed)
  unfold MarkovChain.checkTimingViolation at found
  dsimp only at found
  split at found
  · cases found
    rfl
  · cases found

variable [Field K] [LinearOrder K] [IsStrictOrderedRing K] [FloorRing K] {chain : MarkovChain K}

omit [IsStrictOrderedRing K] in
theorem checkWindow_timing (chain : MarkovChain K) (codes : List Code) (sequence : List (BehavioralState K)) (i : ℕ)
    (next : codes[i + chain.config.order.value]? = some nextState) :
    chain.checkWindow codes sequence i = (chain.checkTransition codes i nextState).map
      (fun impossible => impossible ++ (if 0 < i then timingAt sequence i else [])) := by
  unfold MarkovChain.checkWindow
  rw [next]
  dsimp only
  cases chain.checkTransition codes i nextState with
  | error reason => rfl
  | ok impossible =>
      refine congrArg (fun timing => Except.ok (impossible ++ timing)) ?_
      by_cases later : 0 < i
      · rw [if_pos later,if_pos later]
        cases found : (stepsOf sequence)[i]? with
        | some step =>
            obtain ⟨here,there⟩ := (step_at sequence i step.1 step.2).mp found
            simp only [here,there,timingAt,found,Option.bind_some]
        | none =>
            cases here : sequence[i]? with
            | none => simp only [timingAt,found,Option.bind_none,Option.toList_none]
            | some state1 =>
                cases there : sequence[i + 1]? with
                | none => simp only [timingAt,found,Option.bind_none,Option.toList_none]
                | some state2 =>
                    rw [(step_at sequence i state1 state2).mpr ⟨here,there⟩] at found
                    cases found
      · rw [if_neg later,if_neg later]

theorem checkTransition_cases (chain : MarkovChain K) (codes : List Code) (i : ℕ) (nextState : Code) :
    if (∃ transition, (rowOf chain (chain.buildContext codes i)).get nextState = some transition ∧
      transition.probability = .null)
    then chain.checkTransition codes i nextState = .error ()
    else ∃ found, chain.checkTransition codes i nextState = .ok found ∧ timingViolations found = [] := by
  unfold MarkovChain.checkTransition
  dsimp only
  rw [get_rowOf]
  cases found : (rowOf chain (chain.buildContext codes i)).get nextState with
  | none =>
      rw [if_neg (fun ⟨_,nothing,_⟩ => nomatch nothing)]
      exact ⟨_,rfl,rfl⟩
  | some transition =>
      cases number : transition.probability with
      | null =>
          have small : (JsonNumber.null : JsonNumber K).toNumber.lt (.finite (lit (1/10))) = true := by
            simp [JsonNumber.toNumber,JsNumber.lt]
          rw [if_pos ⟨transition,rfl,number⟩]
          simp only [number,if_pos small]
      | number value =>
          have printable : ¬ ∃ other, some transition = some other ∧ other.probability = .null := by
            rintro ⟨other,same,null⟩
            cases same
            rw [number] at null
            cases null
          rw [if_neg printable]
          simp only [number]
          split
          · exact ⟨_,rfl,rfl⟩
          · exact ⟨_,rfl,rfl⟩

theorem checkWindow_fails (chain : MarkovChain K) (codes : List Code) (sequence : List (BehavioralState K)) (i : ℕ)
    (next : codes[i + chain.config.order.value]? = some nextState)
    (stored : (rowOf chain (chain.buildContext codes i)).get nextState = some transition)
    (null : transition.probability = .null) : chain.checkWindow codes sequence i = .error () := by
  have cases := checkTransition_cases chain codes i nextState
  rw [if_pos ⟨transition,stored,null⟩] at cases
  rw [checkWindow_timing chain codes sequence i next,cases]
  rfl

theorem checkWindow_timings (chain : MarkovChain K) (codes : List Code) (sequence : List (BehavioralState K)) (i : ℕ)
    (next : codes[i + chain.config.order.value]? = some nextState)
    (printable : ¬ ∃ transition, (rowOf chain (chain.buildContext codes i)).get nextState = some transition ∧
      transition.probability = .null) :
    ∃ found, chain.checkWindow codes sequence i = .ok found ∧
      timingViolations found = if 0 < i then timingAt sequence i else [] := by
  have cases := checkTransition_cases chain codes i nextState
  rw [if_neg printable] at cases
  obtain ⟨impossible,checked,none⟩ := cases
  refine ⟨_,by rw [checkWindow_timing chain codes sequence i next,checked]; rfl,?_⟩
  unfold timingViolations at none ⊢
  rw [List.filter_append,none,List.nil_append]
  split
  · exact timingViolations_timingAt sequence i
  · rfl

omit [Field K] [LinearOrder K] [IsStrictOrderedRing K] [FloorRing K] in
theorem apart_past (past : sequence.length - 1 ≤ i) : Apart sequence i := by
  intro state1 state2 _ next
  have inside := (List.getElem?_eq_some_iff.mp next).1
  omega

theorem timingViolations_flatten {parts : ℕ → List Violation} {positions : List ℕ} {found : List (List Violation)}
    (each : List.Forall₂ (fun i part => timingViolations part = parts i) positions found) :
    timingViolations found.flatten = positions.flatMap parts := by
  induction each with
  | nil => rfl
  | cons first _ ih =>
      rw [List.flatten_cons,List.flatMap_cons,← first,← ih]
      exact List.filter_append ..

omit [Field K] [LinearOrder K] [IsStrictOrderedRing K] [FloorRing K] in
theorem checked_pairs (order : ℕ) (sequence : List (BehavioralState K)) (positive : 0 < order) :
    (List.range (sequence.length - order)).flatMap (fun i => if 0 < i then timingAt sequence i else []) =
      (List.range (sequence.length - 1)).flatMap (fun i =>
        if 0 < i ∧ i < sequence.length - order then timingAt sequence i else []) := by
  have split : sequence.length - 1 = (sequence.length - order) + (sequence.length - 1 - (sequence.length - order)) := by omega
  rw [split,List.range_add,List.flatMap_append]
  have rest : ((List.range (sequence.length - 1 - (sequence.length - order))).map
      (fun i => sequence.length - order + i)).flatMap (fun i =>
        if 0 < i ∧ i < sequence.length - order then timingAt sequence i else []) = [] := by
    rw [List.flatMap_eq_nil_iff]
    intro i listed
    obtain ⟨j,_,rfl⟩ := List.mem_map.mp listed
    exact if_neg (by omega)
  rw [rest,List.append_nil]
  apply List.flatMap_congr
  intro i listed
  simp only [List.mem_range.mp listed,and_true]

-- A probability that is `null` stops the validation: the only violation is that of
-- its failure.
theorem timings_thrown (long : ¬ sequence.length < 2) (thrown : Unprintable chain sequence) :
    timingViolations (chain.validateSequence sequence).1.violations = [] := by
  obtain ⟨i,inside,code,transition,next,stored,missing⟩ := thrown
  have failed := checkWindow_fails (chain.encodeStates sequence).2 (chain.encodeStates sequence).1 sequence i
    (by rw [(chain.encodeStates_transitions sequence).1]; exact next)
    (by rw [encodeStates_rowOf,encodeStates_buildContext]; exact stored) missing
  obtain ⟨reason,stopped⟩ := mapM_error (List.mem_range.mpr inside) failed
  rw [MarkovChain.validateSequence,if_neg long]
  dsimp only
  rw [stopped]
  rfl

theorem timings_checked (long : ¬ sequence.length < 2) (printed : ¬ Unprintable chain sequence) :
    timingViolations (chain.validateSequence sequence).1.violations =
      (List.range (sequence.length - 1)).flatMap (fun i =>
        if 0 < i ∧ i < sequence.length - chain.config.order.value then timingAt sequence i else []) := by
  have each : ∀ i code, (codesAhead chain sequence)[i + chain.config.order.value]? = some code → ∃ found,
      (chain.encodeStates sequence).2.checkWindow (codesAhead chain sequence) sequence i = .ok found ∧
      timingViolations found = if 0 < i then timingAt sequence i else [] := by
    intro i code next
    have inside := (List.getElem?_eq_some_iff.mp next).1
    rw [codesAhead,encodeStates_length] at inside
    apply checkWindow_timings _ _ sequence i (by rw [(chain.encodeStates_transitions sequence).1]; exact next)
    rintro ⟨transition,stored,missing⟩
    rw [encodeStates_rowOf,encodeStates_buildContext] at stored
    exact printed ⟨i,by omega,code,transition,next,stored,missing⟩
  obtain ⟨found,validated,parts⟩ := validateSequence_windows long each
  rw [validated,MarkovChain.validationOf,timingViolations_flatten parts,checked_pairs _ _ chain.config.order.value_pos]

theorem timing_complete_iff (chain : MarkovChain K) (sequence : List (BehavioralState K))
    (long : chain.config.order.value + 1 ≤ sequence.length) :
    timingViolations (chain.validateSequence sequence).1.violations = expectedTimings sequence ↔
      TimingChecked chain sequence := by
  have positive := chain.config.order.value_pos
  have two : ¬ sequence.length < 2 := by omega
  rw [expectedTimings_at]
  by_cases thrown : Unprintable chain sequence
  · rw [timings_thrown two thrown]
    constructor
    · intro nothing
      have apart (i : ℕ) : Apart sequence i := by
        by_cases past : sequence.length - 1 ≤ i
        · exact apart_past past
        · have none := List.flatMap_eq_nil_iff.mp nothing.symm i (List.mem_range.mpr (by omega))
          exact (timingAt_nil_iff sequence i).mp none
      exact ⟨fun i _ => apart i,fun _ => apart⟩
    · intro checked
      symm
      apply List.flatMap_eq_nil_iff.mpr
      intro j _
      exact (timingAt_nil_iff sequence j).mpr (checked.printed thrown j)
  · rw [timings_checked two thrown,flatMap_part_iff]
    · constructor
      · intro all
        refine ⟨?_,fun other => absurd other thrown⟩
        intro i unchecked
        by_cases past : sequence.length - 1 ≤ i
        · exact apart_past past
        · have none := all i (List.mem_range.mpr (by omega))
          rw [if_neg (by omega)] at none
          exact (timingAt_nil_iff sequence i).mp none.symm
      · intro timing i _
        split
        · rfl
        · exact ((timingAt_nil_iff sequence i).mpr (timing.unchecked i (by omega))).symm
    · intro i _
      split
      · exact .inl rfl
      · exact .inr rfl

end Timing

def moment (timestamp : ℤ) : BehavioralState ℚ := ⟨.page_view,.normal,timestamp,none⟩

theorem timing_complete_second_pair :
    timingViolations ((MarkovChain.create roomy 0).validateSequence [moment 0,moment 100,moment 150]).1.violations =
      expectedTimings [moment 0,moment 100,moment 150] := by
  apply (timing_complete_iff (.create roomy 0) [moment 0,moment 100,moment 150] (by decide)).mpr
  refine ⟨?_,?_⟩
  · rintro i (rfl | late) state1 state2 here next
    · cases here
      cases next
      decide
    · have inside := (List.getElem?_eq_some_iff.mp next).1
      exact absurd (Nat.succ_le_of_lt inside) (Nat.not_le.mpr (Nat.lt_succ_of_le (Nat.succ_le_succ late)))
  · rintro ⟨_,_,_,_,_,nothing,_⟩
    cases nothing

-- Two events 50 ms apart.
theorem first_pair_unchecked :
    timingViolations ((MarkovChain.create roomy 0).validateSequence [moment 0,moment 50]).1.violations = [] ∧
      expectedTimings [moment 0,moment 50] =
        [⟨.timing_violation,"Events too close together: 50ms",.medium,0,"50ms"⟩] := by
  decide +kernel

end PhantomFlow.Markov
