import PhantomFlow.Library.Fallible
import PhantomFlow.Markov.Novelty
import PhantomFlow.Markov.Relearning

namespace PhantomFlow.Markov
open Library Library.Machine

section Texts

-- The maps of the source are keyed by texts, which tell apart what the pairs and the
-- lists of codes tell apart.
theorem BehavioralActionType.text_injective : Function.Injective BehavioralActionType.text := by
  let actions : List BehavioralActionType := [.page_view,.page_exit,.redirect,.back_button,.refresh,.scroll,
    .login_attempt,.login_success,.login_failure,.logout,.session_timeout,.search,.click,.form_submit,.download,.upload,
    .api_call,.error_404,.error_500,.error_403,.timeout,.network_error,.rate_limit_hit,.suspicious_activity,
    .blocked_request,.captcha_challenge,.idle,.active,.focus_lost,.focus_gained,.tab_switch]
  have found : ∀ action : BehavioralActionType, actions.find? (fun other => other.text = action.text) = some action := by
    intro action
    cases action <;> decide
  intro one two same
  have both := found one
  rw [same,found two] at both
  exact (Option.some.inj both).symm

theorem BehavioralContext.text_injective : Function.Injective BehavioralContext.text := by
  intro one two same
  cases one <;> cases two <;> first | rfl | exact absurd same (by decide)

theorem keyText_injective : Function.Injective keyText := by
  have plain : ∀ action : BehavioralActionType, ':' ∉ action.text.toList := by
    intro action
    cases action <;> decide
  have plain' : ∀ context : BehavioralContext, ':' ∉ context.text.toList := by
    intro context
    cases context <;> decide
  rintro ⟨action,context⟩ ⟨action',context'⟩ same
  have lists := congrArg String.toList same
  simp only [keyText,String.toList_append,List.append_assoc] at lists
  obtain ⟨actions,-,contexts⟩ := (List.append_cons_inj_of_notMem (plain action) (plain' context)).mp lists
  rw [BehavioralActionType.text_injective (String.toList_inj.mp actions),
    BehavioralContext.text_injective (String.toList_inj.mp contexts)]

theorem toList_codeText (code : Code) : (codeText code).toList = 'S' :: Nat.toDigits 10 code := by
  simp [codeText]

theorem codeText_injective : Function.Injective codeText := by
  intro one two same
  have digits : Nat.toDigits 10 one = Nat.toDigits 10 two := by
    have lists := congrArg String.toList same
    rw [toList_codeText,toList_codeText] at lists
    exact List.tail_eq_of_cons_eq lists
  rw [← Nat.ofDigitChars_ten_toDigits (n:=one),digits,Nat.ofDigitChars_ten_toDigits]

theorem contextText_injective {context context' : List Code} (some' : context ≠ []) (some'' : context' ≠ [])
    (same : contextText context = contextText context') : context = context' := by
  have split (codes : List Code) (nonempty : codes ≠ []) :
      (contextText codes).toList.splitOn '|' = codes.map (fun code => (codeText code).toList) := by
    have plain : ∀ text ∈ codes.map (fun code => (codeText code).toList), '|' ∉ text := by
      intro text listed bar
      obtain ⟨code,_,rfl⟩ := List.mem_map.mp listed
      rw [toList_codeText,List.mem_cons] at bar
      rcases bar with other | digit
      · exact absurd other (by decide)
      · exact absurd (Nat.isDigit_of_mem_toDigits (by decide) (by decide) digit) (by decide)
    rw [contextText,String.toList_intercalate,List.map_map]
    exact List.splitOn_intercalate '|' plain (by simpa using nonempty)
  have texts := congrArg (fun text => text.toList.splitOn '|') same
  simp only [split context some',split context' some''] at texts
  exact List.map_injective_iff.mpr (fun one two equal => codeText_injective (String.toList_inj.mp equal)) texts

end Texts

section Windows
variable {α : Type u} {β : Type v}

theorem windowsOf_map (f : α → β) (order : ℕ) (entries : List α) :
    windowsOf order (entries.map f) = (windowsOf order entries).map (fun window => (window.1.map f,f window.2)) := by
  rw [windowsOf,windowsOf,List.length_map,List.map_filterMap]
  apply List.filterMap_congr
  intro i _
  simp only [windowAt,List.getElem?_map]
  cases entries[i + order]? with
  | none => rfl
  | some next => simp only [Option.map_some,List.map_take,List.map_drop]

theorem mem_windowsOf {entries : List α} :
    (context,next) ∈ windowsOf order entries ↔ context.length = order ∧ context ++ [next] <:+: entries := by
  constructor
  · intro listed
    obtain ⟨i,_,found⟩ := List.mem_filterMap.mp listed
    obtain ⟨other,read,pair⟩ := Option.map_eq_some_iff.mp found
    cases pair
    have inside := (List.getElem?_eq_some_iff.mp read).1
    refine ⟨by rw [List.length_take,List.length_drop]; omega,?_⟩
    have window : (entries.drop i).take order ++ [next] = (entries.drop i).take (order + 1) := by
      rw [List.take_add_one,List.getElem?_drop,read]
      rfl
    rw [window]
    exact (List.take_prefix _ _).isInfix.trans (List.drop_suffix _ _).isInfix
  · rintro ⟨length,before,after,rfl⟩
    refine List.mem_filterMap.mpr ⟨before.length,?_,?_⟩
    · rw [List.mem_range]
      simp only [List.length_append,List.length_singleton]
      omega
    · have read : (before ++ (context ++ [next]) ++ after)[before.length + order]? = some next := by
        rw [← length]
        simp
      rw [windowAt,read]
      simp [← length]

theorem forall_windowsOf {entries : List α} (holds : List α → Prop) :
    (∀ window ∈ windowsOf order entries, holds (window.1 ++ [window.2])) ↔
      ∀ stretch : List α, stretch.length = order + 1 → stretch <:+: entries → holds stretch := by
  constructor
  · intro all stretch length inside
    have nonempty : stretch ≠ [] := List.ne_nil_of_length_pos (by omega)
    have parts := List.dropLast_append_getLast nonempty
    have window := all (stretch.dropLast,stretch.getLast nonempty) (mem_windowsOf.mpr
      ⟨by rw [List.length_dropLast]; omega,by rw [parts]; exact inside⟩)
    rwa [parts] at window
  · rintro all ⟨context,next⟩ listed
    obtain ⟨length,inside⟩ := mem_windowsOf.mp listed
    exact all _ (by simp [length]) inside

end Windows

def Encodes (chain : MarkovChain K) (window : List StateKey × StateKey) (pair : List Code × Code) : Prop :=
  window.1.map chain.stateEncoder.get = pair.1.map some ∧ chain.stateEncoder.get window.2 = some pair.2

section Encoded
variable {K : Type} {chain : MarkovChain K} {sequence : List (BehavioralState K)}

theorem encodes_keeps (encodes : Encodes chain window pair) (states : List (BehavioralState K)) :
    Encodes (chain.encodeStates states).2 window pair := by
  refine ⟨?_,encodeStates_keeps chain states encodes.2⟩
  rw [← encodes.1]
  apply List.map_congr_left
  intro key listed
  have known := List.mem_map_of_mem (f:=chain.stateEncoder.get) listed
  rw [encodes.1] at known
  obtain ⟨code,_,found⟩ := List.mem_map.mp known
  rw [← found]
  exact encodeStates_keeps chain states found.symm

theorem encodes_functional (encodes : Encodes chain window pair) (encodes' : Encodes chain window pair') : pair = pair' := by
  have contexts : pair.1.map some = pair'.1.map some := encodes.1.symm.trans encodes'.1
  have codes : some pair.2 = some pair'.2 := encodes.2.symm.trans encodes'.2
  exact Prod.ext (List.map_injective_iff.mpr (Option.some_injective _) contexts) (Option.some.inj codes)

theorem keys_injective (coded : Coded chain) {codes : List Code} {keys keys' : List StateKey}
    (known : keys.map chain.stateEncoder.get = codes.map some)
    (known' : keys'.map chain.stateEncoder.get = codes.map some) : keys = keys' := by
  induction codes generalizing keys keys' with
  | nil => rw [List.map_eq_nil_iff.mp known,List.map_eq_nil_iff.mp known']
  | cons code rest ih =>
      obtain ⟨key,others,rfl,here,later⟩ := List.map_eq_cons_iff.mp known
      obtain ⟨key',others',rfl,here',later'⟩ := List.map_eq_cons_iff.mp known'
      rw [coded.injective key key' code here here',ih later later']

theorem encodes_injective (coded : Coded chain) (encodes : Encodes chain window pair)
    (encodes' : Encodes chain window' pair) : window = window' :=
  Prod.ext (keys_injective coded encodes.1 encodes'.1) (coded.injective _ _ _ encodes.2 encodes'.2)

theorem windows_encoded (chain : MarkovChain K) (sequence : List (BehavioralState K)) (order : ℕ) :
    (∀ pair ∈ windowsOf order (chain.encodeStates sequence).1,
      ∃ window ∈ windowsOf order (sequence.map MarkovChain.keyOf), Encodes (chain.encodeStates sequence).2 window pair) ∧
    ∀ window ∈ windowsOf order (sequence.map MarkovChain.keyOf),
      ∃ pair ∈ windowsOf order (chain.encodeStates sequence).1, Encodes (chain.encodeStates sequence).2 window pair := by
  have codes : (chain.encodeStates sequence).1.map some =
      (sequence.map MarkovChain.keyOf).map (chain.encodeStates sequence).2.stateEncoder.get := by
    rw [encodeStates_codes,List.map_map]
    rfl
  have windows := congrArg (windowsOf order) codes
  rw [windowsOf_map,windowsOf_map] at windows
  constructor
  · intro pair listed
    have mapped := List.mem_map_of_mem (f:=fun window : List Code × Code => (window.1.map some,some window.2)) listed
    rw [windows] at mapped
    obtain ⟨window,here,same⟩ := List.mem_map.mp mapped
    exact ⟨window,here,congrArg Prod.fst same,congrArg Prod.snd same⟩
  · intro window listed
    have mapped := List.mem_map_of_mem (f:=fun window : List StateKey × StateKey =>
      (window.1.map (chain.encodeStates sequence).2.stateEncoder.get,
        (chain.encodeStates sequence).2.stateEncoder.get window.2)) listed
    rw [← windows] at mapped
    obtain ⟨pair,here,same⟩ := List.mem_map.mp mapped
    exact ⟨pair,here,(congrArg Prod.fst same).symm,(congrArg Prod.snd same).symm⟩

end Encoded

-- The rows hold the windows of the learned sequences and nothing else.
structure Taught (chain : MarkovChain K) (history : List (List StateKey)) : Prop where
  coded : Coded chain
  registered : ∀ sequence ∈ history, ∀ window ∈ windowsOf chain.config.order.value sequence, ∃ pair, Encodes chain window pair
  stored : ∀ context next, next ∈ (rowOf chain context).keys ↔
    ∃ sequence ∈ history, ∃ window ∈ windowsOf chain.config.order.value sequence, Encodes chain window (context,next)

section Teaching
variable {K : Type} [Field K] [LinearOrder K] {chain : MarkovChain K} {history : List (List StateKey)}
  (math : JsMath K) (now : ℤ)

omit [Field K] [LinearOrder K] in
theorem create_taught (config : MarkovChainConfig K) (now : ℤ) : Taught (.create config now) [] where
  coded := coded_create config now
  registered _ none := nomatch none
  stored context next := by
    simp [rowOf,MarkovChain.create,initializeTransitionMatrix,OrderedMap.empty,OrderedMap.get,OrderedMap.keys]

theorem recordSequence_taught (taught : Taught chain history) (sequence : List (BehavioralState K)) :
    Taught (chain.recordSequence math now sequence) (history ++ [sequence.map MarkovChain.keyOf]) := by
  have order := (recordSequence_counts math now chain sequence []).1
  have encoder := (chain.recordSequence_encoder math now sequence).1
  obtain ⟨outward,inward⟩ := windows_encoded chain sequence chain.config.order.value
  have lifted {window pair} (encodes : Encodes chain window pair) :
      Encodes (chain.recordSequence math now sequence) window pair := by
    unfold Encodes
    rw [encoder]
    exact encodes_keeps encodes sequence
  have new {window pair} (encodes : Encodes (chain.encodeStates sequence).2 window pair) :
      Encodes (chain.recordSequence math now sequence) window pair := by
    unfold Encodes
    rw [encoder]
    exact encodes
  have coded := recordSequence_coded math now taught.coded sequence
  refine ⟨coded,?_,?_⟩
  · intro learnt listed window inside
    rw [order] at inside
    rcases List.mem_append.mp listed with before | last
    · obtain ⟨pair,encodes⟩ := taught.registered learnt before window inside
      exact ⟨pair,lifted encodes⟩
    · rw [List.mem_singleton.mp last] at inside
      obtain ⟨pair,-,encodes⟩ := inward window inside
      exact ⟨pair,new encodes⟩
  · intro context next
    rw [(recordSequence_counts math now chain sequence context).2.2.2 next,taught.stored,order]
    constructor
    · rintro (⟨learnt,before,window,inside,encodes⟩ | window)
      · exact ⟨learnt,List.mem_append_left _ before,window,inside,lifted encodes⟩
      · obtain ⟨states,inside,encodes⟩ := outward _ window
        exact ⟨_,List.mem_append_right _ (List.mem_singleton_self _),states,inside,new encodes⟩
    · rintro ⟨learnt,listed,window,inside,encodes⟩
      rcases List.mem_append.mp listed with before | last
      · left
        obtain ⟨pair,earlier⟩ := taught.registered learnt before window inside
        rw [encodes_functional encodes (lifted earlier)]
        exact ⟨learnt,before,window,inside,earlier⟩
      · right
        rw [List.mem_singleton.mp last] at inside
        obtain ⟨pair,here,encodes'⟩ := inward window inside
        rw [encodes_functional encodes (new encodes')]
        exact here

theorem windowsOf_short {entries : List α} (short : entries.length < order + 1) : windowsOf order entries = [] := by
  rw [windowsOf,Nat.sub_eq_zero_of_le (Nat.le_of_lt_succ short)]
  rfl

def Unpruned (chain : MarkovChain K) : Operation K → Prop
  | .learnSequence now sequence => ¬ sequence.length < chain.config.order.value + 1 →
      (chain.recordSequence math now sequence).shouldPrune = false
  | _ => True

instance (chain : MarkovChain K) : (operation : Operation K) → Decidable (Unpruned math chain operation)
  | .learnSequence _ _ => inferInstanceAs (Decidable (¬ _ → _))
  | .predictNext _ | .validateSequence _ | .getStatistics | .clear _ | .reload => inferInstanceAs (Decidable True)

theorem learnSequence_taught (taught : Taught chain history) (sequence : List (BehavioralState K))
    (unpruned : Unpruned math chain (.learnSequence now sequence)) :
    Taught (chain.learnSequence math now sequence) (history ++ [sequence.map MarkovChain.keyOf]) := by
  unfold MarkovChain.learnSequence
  by_cases short : sequence.length < chain.config.order.value + 1
  · have none : windowsOf chain.config.order.value (sequence.map MarkovChain.keyOf) = [] :=
      windowsOf_short (by rwa [List.length_map])
    rw [if_pos short]
    refine ⟨taught.coded,?_,?_⟩
    · intro learnt listed window inside
      rcases List.mem_append.mp listed with before | last
      · exact taught.registered learnt before window inside
      · rw [List.mem_singleton.mp last,none] at inside
        cases inside
    · intro context next
      rw [taught.stored]
      simp [none]
  · rw [if_neg short]
    simp only [unpruned short]
    exact recordSequence_taught math now taught sequence

def lessons (history : List (ℤ × List (BehavioralState K))) : List (Operation K) :=
  history.map (fun call => .learnSequence call.1 call.2)

variable [FloorRing K]

theorem run_taught (past : List (List StateKey)) (taught : Taught chain past)
    (calls : List (ℤ × List (BehavioralState K))) (unpruned : Along (step math) (Unpruned math) chain (lessons calls)) :
    Taught (exec (step math) chain (lessons calls)).1 (past ++ calls.map (fun call => call.2.map MarkovChain.keyOf)) := by
  induction calls generalizing chain past with
  | nil => simpa [lessons] using taught
  | cons call rest ih =>
      obtain ⟨first,later⟩ := unpruned
      have next := ih _ (learnSequence_taught math call.1 taught call.2 first) later
      rwa [List.append_assoc,List.singleton_append] at next

theorem lessons_stored (config : MarkovChainConfig K) (start : ℤ) (calls : List (ℤ × List (BehavioralState K))) :
    Stored Clocked (exec (step math) (.create config start) (lessons calls)).1 := by
  apply run_stored math clocked_observable _ _ (create_stored config start)
  intro operation listed
  obtain ⟨call,_,rfl⟩ := List.mem_map.mp listed
  rfl

end Teaching

section Verdicts
variable {K : Type} [Field K] [LinearOrder K] [FloorRing K] {chain : MarkovChain K}

def Severe (violations : List Violation) : Prop :=
  ∃ violation ∈ violations, violation.severity = .high ∨ violation.severity = .critical

omit [FloorRing K] in
theorem validationOf_valid (violations : List Violation) :
    (MarkovChain.validationOf violations : SequenceValidationResult K).isValid = true ↔ ¬ Severe violations := by
  simp [MarkovChain.validationOf,Severe,List.filter_eq_nil_iff]

theorem severe_flatten (found : List (List Violation)) : Severe found.flatten ↔ ∃ part ∈ found, Severe part := by
  unfold Severe
  simp only [List.mem_flatten]
  constructor
  · rintro ⟨violation,⟨part,here,member⟩,severe⟩
    exact ⟨part,here,violation,member,severe⟩
  · rintro ⟨part,here,violation,member,severe⟩
    exact ⟨violation,⟨part,here,member⟩,severe⟩

omit [Field K] [LinearOrder K] [FloorRing K] in
theorem not_severe_timing (state1 state2 : BehavioralState K) :
    ¬ Severe (MarkovChain.checkTimingViolation state1 state2).toList := by
  rintro ⟨violation,member,severe⟩
  unfold MarkovChain.checkTimingViolation at member
  dsimp only at member
  split at member
  · rw [Option.toList_some,List.mem_singleton] at member
    subst member
    simp at severe
  · cases member

theorem checkTransition_severe (stored : Stored Clocked chain) (codes : List Code) (i : ℕ) (nextState : Code) :
    ∃ found, chain.checkTransition codes i nextState = .ok found ∧
      (Severe found ↔ nextState ∉ (rowOf chain (chain.buildContext codes i)).keys) := by
  unfold MarkovChain.checkTransition
  dsimp only
  rw [get_rowOf,OrderedMap.mem_keys]
  cases found : (rowOf chain (chain.buildContext codes i)).get nextState with
  | none => exact ⟨_,rfl,iff_of_true ⟨_,List.mem_singleton_self _,.inl rfl⟩ (fun ⟨_,nothing⟩ => nomatch nothing)⟩
  | some transition =>
      obtain ⟨⟨value,number⟩,_⟩ := stored_get stored found
      have learnt : ¬ ¬ ∃ other, some transition = some other := not_not.mpr ⟨transition,rfl⟩
      dsimp only
      split
      · rw [number]
        refine ⟨_,rfl,iff_of_false ?_ learnt⟩
        rintro ⟨violation,member,severe⟩
        rw [List.mem_singleton.mp member] at severe
        simp at severe
      · exact ⟨[],rfl,iff_of_false (fun ⟨_,member,_⟩ => nomatch member) learnt⟩

theorem severe_append (first second : List Violation) : Severe (first ++ second) ↔ Severe first ∨ Severe second := by
  simp only [Severe,List.mem_append,or_and_right,exists_or]

theorem checkWindow_severe (stored : Stored Clocked chain) (codes : List Code) (sequence : List (BehavioralState K))
    (i : ℕ) (next : codes[i + chain.config.order.value]? = some nextState) :
    ∃ found, chain.checkWindow codes sequence i = .ok found ∧
      (Severe found ↔ nextState ∉ (rowOf chain (chain.buildContext codes i)).keys) := by
  obtain ⟨found,checked,severe⟩ := checkTransition_severe stored codes i nextState
  have nothing : ¬ Severe [] := fun ⟨_,member,_⟩ => nomatch member
  unfold MarkovChain.checkWindow
  rw [next]
  simp only [checked]
  refine ⟨_,rfl,?_⟩
  rw [severe_append,severe,or_iff_left]
  split
  · split
    · exact not_severe_timing _ _
    · exact nothing
  · exact nothing

theorem validateSequence_valid (stored : Stored Clocked chain) (sequence : List (BehavioralState K)) :
    (chain.validateSequence sequence).1.isValid = true ↔
      ∀ pair ∈ windowsOf chain.config.order.value (chain.encodeStates sequence).1, pair.2 ∈ (rowOf chain pair.1).keys := by
  have order := chain.config.order.value_pos
  have length := encodeStates_length chain sequence
  by_cases short : sequence.length < 2
  · rw [windowsOf_short (by omega),MarkovChain.validateSequence,if_pos short]
    simp
  · obtain ⟨config,transitions⟩ := chain.encodeStates_transitions sequence
    have each : ∀ i code, (codesAhead chain sequence)[i + chain.config.order.value]? = some code → ∃ found,
        (chain.encodeStates sequence).2.checkWindow (codesAhead chain sequence) sequence i = .ok found ∧
        (Severe found ↔ ∃ pair, windowAt chain.config.order.value (codesAhead chain sequence) i = some pair ∧
          pair.2 ∉ (rowOf chain pair.1).keys) := by
      intro i code next
      obtain ⟨found,checked,severe⟩ := checkWindow_severe (stored_of_transitions transitions stored)
        (codesAhead chain sequence) sequence i (by rw [config]; exact next)
      refine ⟨found,checked,severe.trans ?_⟩
      rw [encodeStates_rowOf,encodeStates_buildContext]
      simp only [windowAt,next,Option.map_some]
      constructor
      · intro missing
        exact ⟨_,rfl,missing⟩
      · rintro ⟨pair,same,missing⟩
        cases same
        exact missing
    obtain ⟨found,validated,severe⟩ := validateSequence_windows short each
    rw [validated,validationOf_valid,severe_flatten,exists_of_forall₂ severe]
    constructor
    · intro none pair listed
      obtain ⟨i,inside,window⟩ := List.mem_filterMap.mp listed
      rw [length] at inside
      by_contra missing
      exact none ⟨i,inside,pair,window,missing⟩
    · rintro all ⟨i,inside,pair,window,missing⟩
      rw [← length] at inside
      exact missing (all pair (List.mem_filterMap.mpr ⟨i,inside,window⟩))

-- The windows of a valid sequence are windows of learned ones: the codes a window
-- has are its own, before and after the sequence is encoded.
theorem valid_iff_taught (taught : Taught chain history) (stored : Stored Clocked chain)
    (sequence : List (BehavioralState K)) :
    (chain.validateSequence sequence).1.isValid = true ↔
      ∀ window ∈ windowsOf chain.config.order.value (sequence.map MarkovChain.keyOf),
        ∃ learnt ∈ history, window ∈ windowsOf chain.config.order.value learnt := by
  obtain ⟨outward,inward⟩ := windows_encoded chain sequence chain.config.order.value
  have coded := (encodeStates_coded taught.coded sequence).1
  rw [validateSequence_valid stored]
  constructor
  · intro all window listed
    obtain ⟨pair,here,encodes⟩ := inward window listed
    obtain ⟨learnt,member,other,inside,encodes'⟩ := (taught.stored pair.1 pair.2).mp (all pair here)
    rw [encodes_injective coded encodes (encodes_keeps encodes' sequence)]
    exact ⟨learnt,member,inside⟩
  · intro all pair listed
    obtain ⟨window,here,encodes⟩ := outward pair listed
    obtain ⟨learnt,member,inside⟩ := all window here
    obtain ⟨known,encodes'⟩ := taught.registered learnt member window inside
    rw [encodes_functional encodes (encodes_keeps encodes' sequence)]
    exact (taught.stored known.1 known.2).mpr ⟨learnt,member,window,inside,encodes'⟩

variable (math : JsMath K)

theorem lessons_config (config : MarkovChainConfig K) (start : ℤ) (calls : List (ℤ × List (BehavioralState K))) :
    (exec (step math) (.create config start) (lessons calls)).1.config = config := by
  have kept : ∀ (calls : List (ℤ × List (BehavioralState K))) (chain : MarkovChain K),
      (exec (step math) chain (lessons calls)).1.config = chain.config := by
    intro calls
    induction calls with
    | nil => exact fun _ => rfl
    | cons call rest ih => exact fun chain => (ih _).trans (learnSequence_config math call.1 chain call.2)
  exact kept calls _

theorem learned_sequences_valid (config : MarkovChainConfig K) (start : ℤ)
    (calls : List (ℤ × List (BehavioralState K)))
    (unpruned : Along (step math) (Unpruned math) (.create config start) (lessons calls))
    (sequence : List (BehavioralState K)) :
    let chain := (exec (step math) (.create config start) (lessons calls)).1
    ((∃ call ∈ calls, sequence <:+: call.2) → (chain.validateSequence sequence).1.isValid = true) ∧
    ((chain.validateSequence sequence).1.isValid = true ↔
      ∀ window : List StateKey, window.length = config.order.value + 1 → window <:+: sequence.map MarkovChain.keyOf →
        ∃ call ∈ calls, window <:+: call.2.map MarkovChain.keyOf) := by
  intro chain
  have taught : Taught chain (calls.map (fun call => call.2.map MarkovChain.keyOf)) :=
    run_taught math [] (create_taught config start) calls unpruned
  have order : chain.config.order.value = config.order.value := by rw [lessons_config]
  have exactly : (chain.validateSequence sequence).1.isValid = true ↔
      ∀ window : List StateKey, window.length = config.order.value + 1 → window <:+: sequence.map MarkovChain.keyOf →
        ∃ call ∈ calls, window <:+: call.2.map MarkovChain.keyOf := by
    rw [valid_iff_taught taught (lessons_stored math config start calls),order,
      ← forall_windowsOf (fun window => ∃ call ∈ calls, window <:+: call.2.map MarkovChain.keyOf)]
    refine forall₂_congr (fun window listed => ?_)
    have length := (mem_windowsOf.mp listed).1
    constructor
    · rintro ⟨learnt,member,inside⟩
      obtain ⟨call,here,rfl⟩ := List.mem_map.mp member
      exact ⟨call,here,(mem_windowsOf.mp inside).2⟩
    · rintro ⟨call,here,inside⟩
      exact ⟨_,List.mem_map_of_mem here,mem_windowsOf.mpr ⟨length,inside⟩⟩
  refine ⟨?_,exactly⟩
  rintro ⟨call,here,part⟩
  refine exactly.mpr (fun window _ inside => ⟨call,here,inside.trans ?_⟩)
  obtain ⟨before,after,whole⟩ := part
  exact ⟨before.map MarkovChain.keyOf,after.map MarkovChain.keyOf,by rw [← whole,List.map_append,List.map_append]⟩

end Verdicts

theorem learned_sequences_valid_login :
    let chain := (exec (step instant) (.create roomy 0) (lessons [(0,[visit .login_attempt,visit .login_success,
      visit .logout])])).1
    (chain.validateSequence [visit .login_success,visit .logout]).1.isValid = true := by
  apply (learned_sequences_valid instant roomy 0 [(0,[visit .login_attempt,visit .login_success,visit .logout])]
    (by decide +kernel) [visit .login_success,visit .logout]).1
  exact ⟨_,List.mem_singleton_self _,[visit .login_attempt],[],rfl⟩

end PhantomFlow.Markov
