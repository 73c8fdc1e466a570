import PhantomFlow.Markov.Distributions

namespace PhantomFlow.Markov
open Library Library.Machine

def isQuery : Operation K → Bool
  | .predictNext _ | .validateSequence _ => true
  | _ => false

def Registered (chain : MarkovChain K) (states : List (BehavioralState K)) : Prop :=
  ∀ state ∈ states, chain.stateEncoder.has (MarkovChain.keyOf state) = true

instance (chain : MarkovChain K) (states : List (BehavioralState K)) : Decidable (Registered chain states) :=
  inferInstanceAs (Decidable (∀ state ∈ states, chain.stateEncoder.has (MarkovChain.keyOf state) = true))

def Fresh (chain : MarkovChain K) : Prop :=
  ∀ code ∈ chain.transitionMatrix.states, code < chain.stateCounter

section Encoding
variable {K : Type} {chain : MarkovChain K}

theorem encodeState_registered (known : chain.stateEncoder.has (MarkovChain.keyOf state) = true) :
    (chain.encodeState state).2 = chain := by
  obtain ⟨code,found⟩ := Option.isSome_iff_exists.mp known
  simp [MarkovChain.encodeState,found]

theorem encodeStates_registered (registered : Registered chain states) : (chain.encodeStates states).2 = chain := by
  induction states with
  | nil => rfl
  | cons state rest ih =>
      have known := encodeState_registered (registered state (by simp))
      simp only [MarkovChain.encodeStates,known]
      exact ih (fun other member => registered other (List.mem_cons_of_mem _ member))

theorem encodeState_grows (fresh : Fresh chain) (state : BehavioralState K) :
    Fresh (chain.encodeState state).2 ∧
      (chain.encodeState state).2.transitionMatrix.states.length = chain.transitionMatrix.states.length +
        if chain.stateEncoder.has (MarkovChain.keyOf state) then 0 else 1 := by
  cases found : chain.stateEncoder.get (MarkovChain.keyOf state) with
  | some code => simpa [MarkovChain.encodeState,found,OrderedMap.has] using fresh
  | none =>
      have new : chain.stateCounter ∉ chain.transitionMatrix.states :=
        fun member => Nat.lt_irrefl _ (fresh _ member)
      simp only [MarkovChain.encodeState,found,new,if_false,OrderedMap.has]
      refine ⟨?_,by simp⟩
      intro code member
      rcases List.mem_append.mp member with old | last
      · exact Nat.lt_succ_of_lt (fresh code old)
      · rw [List.mem_singleton.mp last]; exact Nat.lt_succ_self _

theorem encodeStates_grows (fresh : Fresh chain) (states : List (BehavioralState K)) :
    Fresh (chain.encodeStates states).2 ∧
      chain.transitionMatrix.states.length ≤ (chain.encodeStates states).2.transitionMatrix.states.length := by
  induction states generalizing chain with
  | nil => exact ⟨fresh,Nat.le_refl _⟩
  | cons state rest ih =>
      obtain ⟨fresh',grown⟩ := encodeState_grows fresh state
      obtain ⟨final,atLeast⟩ := ih fresh'
      exact ⟨final,le_trans (by rw [grown]; exact Nat.le_add_right _ _) atLeast⟩

theorem encodeStates_unregistered (fresh : Fresh chain) (unknown : ¬ Registered chain states) :
    chain.transitionMatrix.states.length < (chain.encodeStates states).2.transitionMatrix.states.length := by
  induction states generalizing chain with
  | nil => exact absurd (fun _ member => by cases member) unknown
  | cons state rest ih =>
      obtain ⟨fresh',grown⟩ := encodeState_grows fresh state
      by_cases known : chain.stateEncoder.has (MarkovChain.keyOf state) = true
      · have others : ¬ Registered chain rest := by
          intro registered
          apply unknown
          intro other member
          rcases List.mem_cons.mp member with rfl | later
          · exact known
          · exact registered other later
        simp only [MarkovChain.encodeStates,encodeState_registered known]
        exact ih fresh others
      · have atLeast := (encodeStates_grows fresh' rest).2
        rw [grown,if_neg known] at atLeast
        exact atLeast

end Encoding

section Runs
variable {K : Type} [Field K] [LinearOrder K] {chain : MarkovChain K} (math : JsMath K)

theorem learnSequence_fresh (fresh : Fresh chain) (now : ℤ) (sequence : List (BehavioralState K)) :
    Fresh (chain.learnSequence math now sequence) := by
  obtain ⟨_,counter,states⟩ := chain.recordSequence_encoder math now sequence
  have recorded : Fresh (chain.recordSequence math now sequence) := by
    unfold Fresh
    rw [states,counter]
    exact (encodeStates_grows fresh sequence).1
  exact chain.learnSequence_keeps math now Fresh fresh recorded recorded

variable [FloorRing K]

theorem query_state (query : Operation K) (isQuery : isQuery query = true) :
    (step math chain query).1 = (chain.encodeStates (chain.queried query)).2 := by
  cases query with
  | predictNext recentStates => exact predictNext_state math chain recentStates
  | validateSequence sequence => exact validateSequence_state chain sequence
  | _ => cases isQuery

theorem step_fresh (chain : MarkovChain K) (operation : Operation K) (fresh : Fresh chain) :
    Fresh (step math chain operation).1 := by
  cases operation with
  | learnSequence now sequence => exact learnSequence_fresh math fresh now sequence
  | predictNext recentStates =>
      rw [query_state math _ rfl]
      exact (encodeStates_grows fresh _).1
  | validateSequence sequence =>
      rw [query_state math _ rfl]
      exact (encodeStates_grows fresh _).1
  | getStatistics => exact fresh
  | clear now => intro code member; cases member
  | reload => exact fresh

-- Operations of a run, some of the queries marked for deletion.
def markedStep (chain : MarkovChain K) (input : Operation K × Bool) : MarkovChain K × Reply K :=
  step math chain input.1

def deleted (_ : MarkovChain K) (input : Operation K × Bool) : Bool := input.2 && isQuery input.1
def remaining (chain : MarkovChain K) (input : Operation K × Bool) : Bool := !deleted chain input

theorem statistics_registered (fresh : Fresh chain) (query : Operation K) (isQuery : isQuery query = true)
    (same : (step math (step math chain query).1 .getStatistics).2 = (step math chain .getStatistics).2) :
    Registered chain (chain.queried query) := by
  by_contra unknown
  have grows := encodeStates_unregistered fresh unknown
  rw [query_state math query isQuery] at same
  simp only [step,Reply.statistics.injEq] at same
  exact absurd (congrArg Statistics.totalStates same) (Nat.ne_of_gt grows)

-- Deleting queries of known states changes no other result. A query of an unknown
-- state is always seen, at the latest by the statistics.
theorem deleted_queries_exact (config : MarkovChainConfig K) (now : ℤ) :
    (∀ inputs : List (Operation K × Bool),
      Along (markedStep math) (fun chain input => deleted chain input = true →
        Registered chain (chain.queried input.1)) (.create config now) inputs →
      observed (markedStep math) remaining (.create config now) inputs =
        observed (markedStep math) remaining (.create config now)
          (kept (markedStep math) deleted (.create config now) inputs)) ∧
    (∀ (operations : List (Operation K)) (query : Operation K), isQuery query = true →
      let reached := (exec (step math) (.create config now) operations).1
      ((∀ rest, (exec (step math) (step math reached query).1 rest).2 = (exec (step math) reached rest).2) ↔
        Registered reached (reached.queried query)) ∧
      ((step math (step math reached query).1 .getStatistics).2 = (step math reached .getStatistics).2 ↔
        Registered reached (reached.queried query))) := by
  constructor
  · intro inputs known
    refine observed_kept ?_ ?_ (rfl : MarkovChain.create config now = _) known
    · rintro chain _ ⟨query,mark⟩ rfl registered dropped
      have isQuery : isQuery query = true := by simp only [deleted,Bool.and_eq_true] at dropped; exact dropped.2
      refine ⟨by simp [remaining,dropped],?_⟩
      simp only [markedStep]
      rw [query_state math query isQuery,encodeStates_registered (registered dropped)]
    · rintro chain _ input rfl _ _
      exact ⟨rfl,rfl,fun _ => rfl⟩
  · intro operations query isQuery reached
    have fresh : Fresh reached :=
      exec_invariant (step_fresh math) (by intro code member; cases member) operations
    have unchanged (registered : Registered reached (reached.queried query)) : (step math reached query).1 = reached := by
      rw [query_state math query isQuery,encodeStates_registered registered]
    refine ⟨⟨?_,?_⟩,statistics_registered math fresh query isQuery,?_⟩
    · intro same
      have statistics := same [.getStatistics]
      simp only [exec_cons,exec_nil,List.cons.injEq,and_true] at statistics
      exact statistics_registered math fresh query isQuery statistics
    · intro registered rest
      rw [unchanged registered]
    · intro registered
      rw [unchanged registered]

end Runs

def pruneAboveTwoStates : MarkovChainConfig ℚ := ⟨.first,1,2,2,1000⟩

theorem deleted_queries_known :
    let inputs := [(.learnSequence 0 [visit .login_attempt,visit .login_success],false),
      (.predictNext [visit .login_attempt],true),(.getStatistics,false)]
    observed (markedStep instant) remaining (.create pruneAboveTwoStates 0) inputs =
      observed (markedStep instant) remaining (.create pruneAboveTwoStates 0)
        (kept (markedStep instant) deleted (.create pruneAboveTwoStates 0) inputs) :=
  (deleted_queries_exact instant pruneAboveTwoStates 0).1 _ (by decide +kernel)

-- A question about an unknown state brings the chain over its state limit. The
-- sequence learned next is pruned away, its prediction is lost, and the statistics,
-- which hold no codes, count other states and transitions.
theorem query_registers_states :
    let inputs := [(.predictNext [visit .logout],true),
      (.learnSequence 0 [visit .login_attempt,visit .login_success],false),
      (.predictNext [visit .login_attempt],false),(.getStatistics,false)]
    let asked := observed (markedStep instant) remaining (.create pruneAboveTwoStates 0) inputs
    let unasked := observed (markedStep instant) remaining (.create pruneAboveTwoStates 0)
      (kept (markedStep instant) deleted (.create pruneAboveTwoStates 0) inputs)
    asked ≠ unasked ∧ asked.getLast? ≠ unasked.getLast? := by
  decide +kernel

end PhantomFlow.Markov
