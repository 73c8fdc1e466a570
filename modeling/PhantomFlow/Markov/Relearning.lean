import Mathlib.Data.List.Infix
import PhantomFlow.Markov.Chronology
import PhantomFlow.Markov.Counting
import PhantomFlow.Markov.Distributions
import PhantomFlow.Markov.SequenceAnalyzer

namespace PhantomFlow.Markov
open Library Library.Machine

def stepsOf (entries : List α) : List (α × α) := entries.zip entries.tail

section Lists
variable {α : Type u} {a b : α} {entries : List α}

theorem stepsOf_snoc (entries : List α) (x : α) :
    stepsOf (entries ++ [x]) = stepsOf entries ++ entries.getLast?.toList.map (fun last => (last,x)) := by
  induction entries with
  | nil => rfl
  | cons first rest ih =>
      cases rest with
      | nil => rfl
      | cons second others =>
          have tail : stepsOf (first :: second :: others ++ [x]) = (first,second) :: stepsOf (second :: others ++ [x]) := rfl
          rw [tail,ih]
          rfl

theorem mem_stepsOf : (a,b) ∈ stepsOf entries ↔ [a,b] <:+: entries := by
  induction entries with
  | nil => simp [stepsOf]
  | cons first rest ih =>
      cases rest with
      | nil => simp [stepsOf,List.infix_cons_iff,List.cons_prefix_cons]
      | cons second others =>
          have tail : stepsOf (first :: second :: others) = (first,second) :: stepsOf (second :: others) := rfl
          have split : [a,b] <:+: first :: second :: others ↔ (a,b) = (first,second) ∨ [a,b] <:+: second :: others := by
            rw [List.infix_cons_iff,List.cons_prefix_cons,List.cons_prefix_cons]
            simp
          rw [tail,List.mem_cons,ih,split]

def Continued (a b : α) (entries : List α) : Prop := ∃ c, [a,b,c] <:+: entries

theorem continued_snoc (entries : List α) (x : α) :
    Continued a b (entries ++ [x]) ↔ Continued a b entries ∨ (a,b) ∈ stepsOf entries := by
  rw [mem_stepsOf]
  have ends : (∃ c, [a,b,c] <:+ entries ++ [x]) ↔ [a,b] <:+ entries := by
    constructor
    · intro suffix
      rcases suffix with ⟨c,start,equal⟩
      rw [show [a,b,c] = [a,b] ++ [c] from rfl,← List.append_assoc] at equal
      exact ⟨start,(List.append_inj_left' equal rfl)⟩
    · intro suffix
      rcases suffix with ⟨start,rfl⟩
      exact ⟨x,start,by simp⟩
  constructor
  · intro continued
    rcases continued with ⟨c,inside⟩
    rcases List.infix_concat_iff.mp inside with last | earlier
    · exact Or.inr (ends.mp ⟨c,last⟩).isInfix
    · exact Or.inl ⟨c,earlier⟩
  · intro either
    rcases either with ⟨c,earlier⟩ | inside
    · exact ⟨c,earlier.trans (List.prefix_append _ _).isInfix⟩
    · obtain ⟨start,rest,rfl⟩ := inside
      cases rest with
      | nil => exact ⟨x,start,[],by simp⟩
      | cons c rest => exact ⟨c,start,rest ++ [x],by simp⟩

theorem continued_long (entries : List α) : (∀ a b, ¬ Continued a b entries) ↔ entries.length ≤ 2 := by
  constructor
  · intro none
    match entries with
    | [] | [_] | [_,_] => simp
    | a :: b :: c :: rest => exact absurd ⟨c,[],rest,rfl⟩ (none a b)
  · intro short a b continued
    rcases continued with ⟨c,inside⟩
    have long := inside.length_le
    simp at long
    omega

theorem stepsOf_map (f : α → β) (entries : List α) :
    stepsOf (entries.map f) = (stepsOf entries).map (fun step => (f step.1,f step.2)) := by
  unfold stepsOf
  rw [← List.map_tail,List.zip_map]
  rfl

theorem mem_of_mem_stepsOf (member : (a,b) ∈ stepsOf entries) : a ∈ entries ∧ b ∈ entries := by
  have inside := mem_stepsOf.mp member
  exact ⟨inside.subset (by simp),inside.subset (by simp)⟩

theorem windowsOf_one (entries : List α) : windowsOf 1 entries = (stepsOf entries).map (fun step => ([step.1],step.2)) := by
  induction entries with
  | nil => rfl
  | cons first rest ih =>
      cases rest with
      | nil => rfl
      | cons second others =>
          have tail : stepsOf (first :: second :: others) = (first,second) :: stepsOf (second :: others) := rfl
          rw [tail,List.map_cons,← ih]
          simp only [windowsOf,List.length_cons,Nat.add_sub_cancel,List.range_succ_eq_map]
          rw [List.filterMap_cons_some (by simp [windowAt] : windowAt 1 (first :: second :: others) 0 = some ([first],second)),
            List.filterMap_map]
          refine congrArg _ (List.filterMap_congr (fun i _ => ?_))
          simp [windowAt]

end Lists

-- Codes are distinct and below the counter, in the encoder and in the matrix.
structure Coded (chain : MarkovChain K) : Prop where
  injective : ∀ key key' code, chain.stateEncoder.get key = some code → chain.stateEncoder.get key' = some code → key = key'
  bounded : ∀ key code, chain.stateEncoder.get key = some code → code < chain.stateCounter
  stored : ∀ context code, code ∈ (rowOf chain context).keys →
    code < chain.stateCounter ∧ ∀ c ∈ context, c < chain.stateCounter

def learned (chain : MarkovChain K) (a b : StateKey) : ℕ :=
  match chain.stateEncoder.get a,chain.stateEncoder.get b with
  | some code,some next => countIn (rowOf chain [code]) next
  | _,_ => 0

section Codes
variable {K : Type} {chain : MarkovChain K}

theorem coded_create (config : MarkovChainConfig K) (now : ℤ) : Coded (.create config now) := by
  refine ⟨?_,?_,?_⟩ <;> intros <;> simp_all [MarkovChain.create,rowOf,initializeTransitionMatrix,OrderedMap.keys,
    OrderedMap.empty,OrderedMap.get]

theorem encodeState_read (found : chain.stateEncoder.get (MarkovChain.keyOf state) = none)
    (known : (chain.encodeState state).2.stateEncoder.get key = some code) :
    (key = MarkovChain.keyOf state ∧ code = chain.stateCounter) ∨ chain.stateEncoder.get key = some code := by
  have encoder : (chain.encodeState state).2.stateEncoder =
      chain.stateEncoder.set (MarkovChain.keyOf state) chain.stateCounter := by
    simp [MarkovChain.encodeState,found]
  rw [encoder,OrderedMap.get_set] at known
  split at known
  · rename_i same
    exact Or.inl ⟨same,(Option.some.inj known).symm⟩
  · exact Or.inr known

theorem encodeState_coded (coded : Coded chain) (state : BehavioralState K) :
    Coded (chain.encodeState state).2 ∧ chain.stateCounter ≤ (chain.encodeState state).2.stateCounter ∧
      ∀ key code, (chain.encodeState state).2.stateEncoder.get key = some code →
        chain.stateEncoder.get key = some code ∨ chain.stateCounter ≤ code := by
  have rows : ∀ context, rowOf (chain.encodeState state).2 context = rowOf chain context := by
    intro context
    rw [rowOf,(chain.encodeState_transitions state).2,rowOf]
  cases found : chain.stateEncoder.get (MarkovChain.keyOf state) with
  | some code =>
      have unchanged : (chain.encodeState state).2 = chain := by simp [MarkovChain.encodeState,found]
      rw [unchanged]
      exact ⟨coded,Nat.le_refl _,fun _ _ known => Or.inl known⟩
  | none =>
      have counter : (chain.encodeState state).2.stateCounter = chain.stateCounter + 1 := by
        simp [MarkovChain.encodeState,found]
      refine ⟨⟨?_,?_,?_⟩,by omega,?_⟩
      · intro key key' code known known'
        rcases encodeState_read found known with ⟨rfl,rfl⟩ | old
        · rcases encodeState_read found known' with ⟨rfl,_⟩ | old'
          · rfl
          · exact absurd (coded.bounded _ _ old') (Nat.lt_irrefl _)
        · rcases encodeState_read found known' with ⟨_,rfl⟩ | old'
          · exact absurd (coded.bounded _ _ old) (Nat.lt_irrefl _)
          · exact coded.injective _ _ _ old old'
      · intro key code known
        rw [counter]
        rcases encodeState_read found known with ⟨_,rfl⟩ | old
        · exact Nat.lt_succ_self _
        · exact Nat.lt_succ_of_lt (coded.bounded _ _ old)
      · intro context code member
        rw [rows] at member
        obtain ⟨next,before⟩ := coded.stored context code member
        rw [counter]
        exact ⟨Nat.lt_succ_of_lt next,fun c inside => Nat.lt_succ_of_lt (before c inside)⟩
      · intro key code known
        rcases encodeState_read found known with ⟨_,rfl⟩ | old
        · exact Or.inr (Nat.le_refl _)
        · exact Or.inl old

theorem encodeStates_coded (coded : Coded chain) (states : List (BehavioralState K)) :
    Coded (chain.encodeStates states).2 ∧ chain.stateCounter ≤ (chain.encodeStates states).2.stateCounter ∧
      ∀ key code, (chain.encodeStates states).2.stateEncoder.get key = some code →
        chain.stateEncoder.get key = some code ∨ chain.stateCounter ≤ code := by
  induction states generalizing chain with
  | nil => exact ⟨coded,Nat.le_refl _,fun _ _ known => Or.inl known⟩
  | cons state rest ih =>
      obtain ⟨first,grown,codes⟩ := encodeState_coded coded state
      obtain ⟨final,grown',codes'⟩ := ih first
      refine ⟨final,Nat.le_trans grown grown',fun key code known => ?_⟩
      rcases codes' key code known with earlier | new
      · exact codes key code earlier
      · exact Or.inr (Nat.le_trans grown new)

theorem mem_codes (member : code ∈ (chain.encodeStates states).1) :
    ∃ state ∈ states, (chain.encodeStates states).2.stateEncoder.get (MarkovChain.keyOf state) = some code := by
  have mapped := List.mem_map_of_mem (f:=some) member
  rw [encodeStates_codes] at mapped
  exact List.mem_map.mp mapped

theorem windowsOf_mem {entries : List α} (member : (context,next) ∈ windowsOf order entries) :
    next ∈ entries ∧ ∀ entry ∈ context, entry ∈ entries := by
  obtain ⟨i,_,found⟩ := List.mem_filterMap.mp member
  simp only [windowAt,Option.map_eq_some_iff,Prod.mk.injEq] at found
  obtain ⟨_,read,rfl,rfl⟩ := found
  exact ⟨List.mem_of_getElem? read,fun entry inside => List.mem_of_mem_drop (List.mem_of_mem_take inside)⟩

theorem countIn_absent {row : Row K} (absent : code ∉ row.keys) : countIn row code = 0 := by
  unfold countIn
  cases found : row.get code with
  | none => rfl
  | some transition => exact absurd ((OrderedMap.mem_keys _ _).mpr ⟨transition,found⟩) absent

theorem steps_codes (coded : Coded chain) {keys : List StateKey} {codes : List Code}
    (known : codes.map some = keys.map chain.stateEncoder.get) (here : chain.stateEncoder.get a = some code)
    (there : chain.stateEncoder.get b = some next) : (stepsOf codes).count (code,next) = (stepsOf keys).count (a,b) := by
  have registered : ∀ key ∈ keys, ∃ code, chain.stateEncoder.get key = some code := by
    intro key member
    have mapped := List.mem_map_of_mem (f:=chain.stateEncoder.get) member
    rw [← known] at mapped
    obtain ⟨code,_,same⟩ := List.mem_map.mp mapped
    exact ⟨code,same.symm⟩
  have injective : Function.Injective (fun step : Code × Code => (some step.1,some step.2)) := by
    rintro ⟨a,b⟩ ⟨c,d⟩ same
    simpa using same
  have exact' : ∀ key ∈ keys, ∀ other code, chain.stateEncoder.get other = some code →
      (chain.stateEncoder.get key = some code ↔ key = other) := by
    intro key member other code found
    refine ⟨fun same => coded.injective _ _ _ same found,?_⟩
    rintro rfl
    exact found
  calc (stepsOf codes).count (code,next)
      = ((stepsOf codes).map (fun step => (some step.1,some step.2))).count (some code,some next) :=
        (List.count_map_of_injective _ _ injective (code,next)).symm
    _ = ((stepsOf keys).map (fun step => (chain.stateEncoder.get step.1,chain.stateEncoder.get step.2))).count
          (some code,some next) := by rw [← stepsOf_map,known,stepsOf_map]
    _ = (stepsOf keys).count (a,b) := by
        rw [List.count,List.countP_map,List.count]
        refine List.countP_congr ?_
        rintro ⟨x,y⟩ member
        obtain ⟨left,right⟩ := mem_of_mem_stepsOf member
        simp [exact' x left a code here,exact' y right b next there]

-- A code given out while encoding stands in no row yet, so the old counts can be
-- read under the new codes.
theorem learned_extended (coded : Coded chain) (sequence : List (BehavioralState K))
    (here : (chain.encodeStates sequence).2.stateEncoder.get a = some code)
    (there : (chain.encodeStates sequence).2.stateEncoder.get b = some next) :
    learned chain a b = countIn (rowOf chain [code]) next := by
  have new := (encodeStates_coded coded sequence).2.2
  have missing : ∀ key code, (chain.encodeStates sequence).2.stateEncoder.get key = some code →
      chain.stateCounter ≤ code → chain.stateEncoder.get key = none := by
    intro key code given fresh
    cases found : chain.stateEncoder.get key with
    | none => rfl
    | some other =>
        have same := Option.some.inj ((encodeStates_keeps chain sequence found).symm.trans given)
        subst same
        exact absurd (coded.bounded key other found) (Nat.not_lt.mpr fresh)
  unfold learned
  rcases new a code here with old | fresh
  · rcases new b next there with old' | fresh
    · rw [old,old']
    · rw [missing b next there fresh,old,
        countIn_absent (fun member => absurd (coded.stored _ _ member).1 (Nat.not_lt.mpr fresh))]
  · rw [missing a code here fresh,
      countIn_absent (fun member => absurd ((coded.stored _ _ member).2 code (by simp)) (Nat.not_lt.mpr fresh))]

theorem learned_encodeStates (coded : Coded chain) (states : List (BehavioralState K)) (a b : StateKey) :
    learned (chain.encodeStates states).2 a b = learned chain a b := by
  have unknown : ∀ key, (chain.encodeStates states).2.stateEncoder.get key = none → chain.stateEncoder.get key = none := by
    intro key absent
    cases found : chain.stateEncoder.get key with
    | none => rfl
    | some code => rw [encodeStates_keeps chain states found] at absent; cases absent
  cases here : (chain.encodeStates states).2.stateEncoder.get a with
  | none => simp only [learned,here,unknown a here]
  | some code =>
      cases there : (chain.encodeStates states).2.stateEncoder.get b with
      | none =>
          simp only [learned,here,there,unknown b there]
          cases chain.stateEncoder.get a <;> rfl
      | some next =>
          rw [learned_extended coded states here there]
          simp only [learned,here,there,encodeStates_rowOf]

theorem encodeStates_append (chain : MarkovChain K) (first second : List (BehavioralState K)) :
    (chain.encodeStates (first ++ second)).2 = ((chain.encodeStates first).2.encodeStates second).2 := by
  induction first generalizing chain with
  | nil => rfl
  | cons state rest ih => exact ih (chain.encodeState state).2

variable [Field K] [LinearOrder K] (math : JsMath K) (now : ℤ)

theorem recordSequence_coded (coded : Coded chain) (sequence : List (BehavioralState K)) :
    Coded (chain.recordSequence math now sequence) := by
  obtain ⟨encoder,counter,_⟩ := chain.recordSequence_encoder math now sequence
  obtain ⟨final,grown,_⟩ := encodeStates_coded coded sequence
  have below : ∀ code ∈ (chain.encodeStates sequence).1, code < (chain.encodeStates sequence).2.stateCounter := by
    intro code member
    obtain ⟨state,_,known⟩ := mem_codes member
    exact final.bounded _ _ known
  refine ⟨by rw [encoder]; exact final.injective,by rw [encoder,counter]; exact final.bounded,?_⟩
  intro context code member
  rw [counter]
  rcases ((recordSequence_counts math now chain sequence context).2.2.2 code).mp member with old | window
  · obtain ⟨next,before⟩ := coded.stored context code old
    exact ⟨Nat.lt_of_lt_of_le next grown,fun c inside => Nat.lt_of_lt_of_le (before c inside) grown⟩
  · obtain ⟨next,before⟩ := windowsOf_mem window
    exact ⟨below _ next,fun c inside => below c (before c inside)⟩

theorem recordSequence_learned (coded : Coded chain) (first : chain.config.order = .first)
    (sequence : List (BehavioralState K)) (a b : StateKey) :
    learned (chain.recordSequence math now sequence) a b =
      learned chain a b + (stepsOf (sequence.map MarkovChain.keyOf)).count (a,b) := by
  obtain ⟨encoder,_,_⟩ := chain.recordSequence_encoder math now sequence
  obtain ⟨final,_,new⟩ := encodeStates_coded coded sequence
  have known : (chain.encodeStates sequence).1.map some =
      (sequence.map MarkovChain.keyOf).map (chain.encodeStates sequence).2.stateEncoder.get := by
    rw [encodeStates_codes,List.map_map]
    rfl
  have unseen : ∀ key, (chain.encodeStates sequence).2.stateEncoder.get key = none →
      chain.stateEncoder.get key = none ∧ key ∉ sequence.map MarkovChain.keyOf := by
    intro key absent
    refine ⟨?_,fun member => ?_⟩
    · cases found : chain.stateEncoder.get key with
      | none => rfl
      | some code => rw [encodeStates_keeps chain sequence found] at absent; cases absent
    · have mapped := List.mem_map_of_mem (f:=(chain.encodeStates sequence).2.stateEncoder.get) member
      rw [← known,absent] at mapped
      simp at mapped
  unfold learned
  rw [encoder]
  cases here : (chain.encodeStates sequence).2.stateEncoder.get a with
  | none =>
      have absent := unseen a here
      rw [absent.1,List.count_eq_zero.mpr (fun member => absent.2 (mem_of_mem_stepsOf member).1)]
  | some code =>
      cases there : (chain.encodeStates sequence).2.stateEncoder.get b with
      | none =>
          have absent := unseen b there
          rw [absent.1,List.count_eq_zero.mpr (fun member => absent.2 (mem_of_mem_stepsOf member).2)]
          cases chain.stateEncoder.get a <;> rfl
      | some next =>
          have counted := (recordSequence_counts math now chain sequence [code]).2.1 next
          have windows : (windowsOf chain.config.order.value (chain.encodeStates sequence).1).count ([code],next) =
              (stepsOf (chain.encodeStates sequence).1).count (code,next) := by
            have injective : Function.Injective (fun step : Code × Code => ([step.1],step.2)) := by
              rintro ⟨a,b⟩ ⟨c,d⟩ same
              simpa using same
            rw [first]
            exact (congrArg _ (windowsOf_one _)).trans (List.count_map_of_injective _ _ injective (code,next))
          have before := learned_extended coded sequence here there
          unfold learned at before
          rw [before]
          exact counted.trans (by rw [windows,steps_codes final known here there])

end Codes

-- What really happened: the states of every session in order, and how often one
-- immediately followed another within a session.
structure Observed where
  visits : String → List StateKey
  followed : StateKey → StateKey → ℕ

def Observed.initial : Observed := ⟨fun _ => [],fun _ _ => 0⟩

section Requests
variable {K : Type} [Field K] [LinearOrder K]

def stateOf (request : ℤ × RequestData K) : SessionState K := createBehavioralState request.2 request.1

def recordVisit (observed : Observed) (request : ℤ × RequestData K) : Observed where
  visits := Function.update observed.visits (stateOf request).session
    (observed.visits (stateOf request).session ++ [(stateOf request).key])
  followed a b := observed.followed a b +
    if (observed.visits (stateOf request).session).getLast? = some a ∧ (stateOf request).key = b then 1 else 0

variable [FloorRing K] (math : JsMath K)

def analyzeStep (analyzer : SequenceAnalyzer K) (request : ℤ × RequestData K) : SequenceAnalyzer K × Analysis K :=
  analyzer.processRequest math request.1 request.2

def extended (analyzer : SequenceAnalyzer K) (request : ℤ × RequestData K) : List (SessionState K) :=
  held analyzer.stateHistory (stateOf request).session ++ [stateOf request]

def Undisturbed (s : SequenceAnalyzer K × Observed) (request : ℤ × RequestData K) : Prop :=
  ¬ Compresses (getDefaultCompressionConfig (K:=K)) (extended s.1 request).length ∧
    (s.1.markovChain.recordSequence math request.1
      ((extended s.1 request).map SessionState.toBehavioralState)).shouldPrune = false

instance (s : SequenceAnalyzer K × Observed) (request : ℤ × RequestData K) : Decidable (Undisturbed math s request) :=
  inferInstanceAs (Decidable (¬ (_ ∧ _ ∧ _) ∧ _ = _))

def observing := withLedger (analyzeStep math) recordVisit

theorem processRequest_chain (analyzer : SequenceAnalyzer K) (request : ℤ × RequestData K) :
    ∃ queried, (analyzeStep math analyzer request).1.markovChain =
      ((analyzer.learn math request.1 (analyzeStep math analyzer request).2.sequence).encodeStates queried).2 := by
  unfold analyzeStep SequenceAnalyzer.processRequest SequenceAnalyzer.detectSequenceAnomaly
  dsimp only
  split
  · exact ⟨_,predictNext_state math _ _⟩
  · dsimp only
    rw [predictNext_state,validateSequence_state,predictNext_state,← encodeStates_append,← encodeStates_append]
    exact ⟨_,rfl⟩

theorem processRequest_states (analyzer : SequenceAnalyzer K) (request : ℤ × RequestData K) :
    (analyzeStep math analyzer request).2.sequence.states =
      settled getDefaultCompressionConfig request.1 (extended analyzer request) := by
  unfold extended
  rw [← held_getD]
  rfl

theorem count_steps_snoc (entries : List StateKey) (x a b : StateKey) :
    (stepsOf (entries ++ [x])).count (a,b) =
      (stepsOf entries).count (a,b) + if entries.getLast? = some a ∧ x = b then 1 else 0 := by
  rw [stepsOf_snoc,List.count_append]
  congr 1
  cases entries.getLast? with
  | none => rfl
  | some last => simp [List.count_singleton]

structure Tracked (s : SequenceAnalyzer K × Observed) : Prop where
  coded : Coded s.1.markovChain
  first : s.1.markovChain.config.order = .first
  visits : ∀ session, (held s.1.stateHistory session).map SessionState.key = s.2.visits session
  atLeast : ∀ a b, s.2.followed a b ≤ learned s.1.markovChain a b
  equal : ∀ a b, learned s.1.markovChain a b = s.2.followed a b ↔ ∀ session, ¬ Continued a b (s.2.visits session)

variable {math}

theorem undisturbed_states (undisturbed : Undisturbed math s request) :
    (analyzeStep math s.1 request).2.sequence.states = extended s.1 request := by
  rw [processRequest_states,settled_whole undisturbed.1]

theorem undisturbed_learned (tracked : Tracked s) (undisturbed : Undisturbed math s request) :
    let chain := (analyzeStep math s.1 request).1.markovChain
    Coded chain ∧ chain.config.order = .first ∧ ∀ a b, learned chain a b =
      learned s.1.markovChain a b + (stepsOf (s.2.visits (stateOf request).session ++ [(stateOf request).key])).count (a,b) := by
  intro chain
  obtain ⟨queried,encoded⟩ := processRequest_chain math s.1 request
  have keys : ((extended s.1 request).map SessionState.toBehavioralState).map MarkovChain.keyOf =
      s.2.visits (stateOf request).session ++ [(stateOf request).key] := by
    rw [← tracked.visits,extended]
    simp [SessionState.key]
  have learnt : ∃ chain' : MarkovChain K, chain = (chain'.encodeStates queried).2 ∧ Coded chain' ∧
      chain'.config.order = .first ∧ ∀ a b, learned chain' a b = learned s.1.markovChain a b +
        (stepsOf (s.2.visits (stateOf request).session ++ [(stateOf request).key])).count (a,b) := by
    refine ⟨_,encoded,?_⟩
    unfold SequenceAnalyzer.learn StateSequence.plainStates
    rw [undisturbed_states undisturbed]
    split
    · rename_i several
      have long : ¬ ((extended s.1 request).map SessionState.toBehavioralState).length <
          s.1.markovChain.config.order.value + 1 := by
        rw [List.length_map,tracked.first]
        exact Nat.not_lt.mpr several
      rw [MarkovChain.learnSequence,if_neg long]
      dsimp only
      rw [undisturbed.2]
      refine ⟨recordSequence_coded math _ tracked.coded _,?_,?_⟩
      · rw [if_neg (by simp),(recordSequence_counts math _ s.1.markovChain _ []).1]
        exact tracked.first
      · intro a b
        rw [if_neg (by simp),recordSequence_learned math _ tracked.coded tracked.first,keys]
    · rename_i single
      refine ⟨tracked.coded,tracked.first,fun a b => ?_⟩
      have alone : s.2.visits (stateOf request).session = [] := by
        rw [← tracked.visits,List.map_eq_nil_iff,← List.length_eq_zero_iff]
        simp only [extended,List.length_append,List.length_singleton] at single
        omega
      rw [alone]
      rfl
  obtain ⟨chain',same,coded,first,counts⟩ := learnt
  rw [same]
  refine ⟨(encodeStates_coded coded queried).1,by rw [(chain'.encodeStates_transitions queried).1]; exact first,?_⟩
  intro a b
  rw [learned_encodeStates coded,counts]

-- A request continues the steps its session had made.
omit [FloorRing K] in
theorem continued_recordVisit (observed : Observed) (request : ℤ × RequestData K) (a b : StateKey) :
    (∀ session, ¬ Continued a b ((recordVisit observed request).visits session)) ↔
      (∀ session, ¬ Continued a b (observed.visits session)) ∧
        (stepsOf (observed.visits (stateOf request).session)).count (a,b) = 0 := by
  rw [List.count_eq_zero]
  constructor
  · intro none
    have own := none (stateOf request).session
    simp only [recordVisit,Function.update_self,continued_snoc,not_or] at own
    refine ⟨fun session => ?_,own.2⟩
    have here := none session
    by_cases same : session = (stateOf request).session
    · rw [same]; exact own.1
    · simpa only [recordVisit,Function.update_of_ne same] using here
  · intro both session
    rcases both with ⟨none,unseen⟩
    by_cases same : session = (stateOf request).session
    · subst same
      simp only [recordVisit,Function.update_self,continued_snoc,not_or]
      exact ⟨none _,unseen⟩
    · simpa only [recordVisit,Function.update_of_ne same] using none session

theorem visits_step (tracked : Tracked s) (undisturbed : Undisturbed math s request) (session : String) :
    (held (observing math s request).1.1.stateHistory session).map SessionState.key =
      (recordVisit s.2 request).visits session := by
  have history : held (observing math s request).1.1.stateHistory session = _ :=
    held_addToSequence s.1.stateHistory (stateOf request,request.1) session
  rw [history]
  simp only [recordVisit]
  by_cases same : session = (stateOf request).session
  · subst same
    have whole : settled getDefaultCompressionConfig request.1 (extended s.1 request) = extended s.1 request :=
      settled_whole undisturbed.1
    rw [extended] at whole
    rw [if_pos rfl,whole,Function.update_self,List.map_append,tracked.visits]
    rfl
  · rw [if_neg same,Function.update_of_ne same]
    exact tracked.visits session

theorem tracked_step (tracked : Tracked s) (undisturbed : Undisturbed math s request) :
    Tracked (observing math s request).1 := by
  obtain ⟨coded,first,counts⟩ := undisturbed_learned tracked undisturbed
  have atLeast : ∀ a b, (recordVisit s.2 request).followed a b +
      ((learned s.1.markovChain a b - s.2.followed a b) +
        (stepsOf (s.2.visits (stateOf request).session)).count (a,b)) =
      learned (analyzeStep math s.1 request).1.markovChain a b := by
    intro a b
    have before := tracked.atLeast a b
    have followed : (recordVisit s.2 request).followed a b = s.2.followed a b +
        if (s.2.visits (stateOf request).session).getLast? = some a ∧ (stateOf request).key = b then 1 else 0 := rfl
    rw [counts,count_steps_snoc,followed]
    omega
  refine ⟨coded,first,visits_step tracked undisturbed,?_,?_⟩
  · intro a b
    have grown := atLeast a b
    simp only [observing,withLedger]
    omega
  · intro a b
    have grown := atLeast a b
    have before := tracked.atLeast a b
    have exact' := tracked.equal a b
    simp only [observing,withLedger]
    rw [continued_recordVisit,← exact']
    omega

variable (math)

-- Every run without compression and pruning on a chain of first order: a step is
-- counted right exactly when no session has gone on after it, and all of them are
-- exactly when no session is longer than two requests.
theorem learned_once_exact (config : MarkovChainConfig K) (first : config.order = .first)
    (thresholds : AnomalyThresholds K) (now : ℤ) (requests : List (ℤ × RequestData K))
    (undisturbed : Along (observing math) (Undisturbed math) (.create config thresholds now,.initial) requests) :
    let reached := (exec (observing math) (.create config thresholds now,.initial) requests).1
    (∀ a b, learned reached.1.markovChain a b = reached.2.followed a b ↔
      ∀ session, ¬ Continued a b (reached.2.visits session)) ∧
    ((∀ a b, learned reached.1.markovChain a b = reached.2.followed a b) ↔
      ∀ session, (reached.2.visits session).length ≤ 2) := by
  intro reached
  have start : Tracked ((.create config thresholds now,.initial) : SequenceAnalyzer K × Observed) := by
    refine ⟨coded_create config now,first,fun _ => rfl,fun _ _ => Nat.zero_le _,fun a b => ?_⟩
    refine iff_of_true rfl ?_
    intro session continued
    rcases continued with ⟨c,inside⟩
    exact absurd inside.length_le (by simp [Observed.initial])
  have final : Tracked reached :=
    (throughout_of_along (fun s request tracked condition => tracked_step tracked condition) start undisturbed).final
  refine ⟨final.equal,?_⟩
  constructor
  · intro all session
    exact (continued_long _).mp (fun a b => (final.equal a b).mp (all a b) session)
  · intro short a b
    exact (final.equal a b).mpr (fun session => (continued_long _).mpr (short session) a b)

end Requests

def visitPage (path session : String) : ℤ × RequestData ℚ :=
  (0,⟨some "GET",some path,some 200,none,none,some session,none,some 0,none,none,none,false⟩)

def spacious : MarkovChainConfig ℚ := ⟨.first,1,2,1000,1000000⟩

theorem learned_once_pairs :
    let reached := (exec (observing instant) (.create spacious defaultThresholds 0,.initial)
      [visitPage "/" "s",visitPage "/" "t",visitPage "/search" "s",visitPage "/search" "t"]).1
    ∀ a b, learned reached.1.markovChain a b = reached.2.followed a b := by
  intro reached
  apply (learned_once_exact instant spacious rfl defaultThresholds 0 _ (by decide +kernel)).2.mpr
  intro session
  have short : ∀ known ∈ ["s","t"], (reached.2.visits known).length ≤ 2 := by decide +kernel
  by_cases first : session = "s"
  · exact short session (by simp [first])
  · by_cases second : session = "t"
    · exact short session (by simp [second])
    · have none : reached.2.visits session = [] := by
        simp only [reached,exec_cons,exec_nil,observing,withLedger,recordVisit]
        have sessions : (stateOf (visitPage "/" "s")).session = "s" ∧ (stateOf (visitPage "/" "t")).session = "t" ∧
            (stateOf (visitPage "/search" "s")).session = "s" ∧ (stateOf (visitPage "/search" "t")).session = "t" := by
          decide +kernel
        simp [sessions,first,second,Function.update_of_ne,Observed.initial]
      rw [none]
      decide

-- A third request: the first step of the session is learned a second time.
theorem step_learned_again :
    let requests := [visitPage "/" "s",visitPage "/search" "s",visitPage "/" "s"]
    let reached := (exec (observing instant) (.create spacious defaultThresholds 0,.initial) requests).1
    Along (observing instant) (Undisturbed instant) (.create spacious defaultThresholds 0,.initial) requests ∧
    learned reached.1.markovChain (.page_view,.normal) (.search,.normal) = 2 ∧
    reached.2.followed (.page_view,.normal) (.search,.normal) = 1 := by
  decide +kernel

end PhantomFlow.Markov
