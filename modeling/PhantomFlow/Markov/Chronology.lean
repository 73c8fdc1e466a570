import PhantomFlow.Library.Machine
import PhantomFlow.Markov.BehavioralStateManager

namespace PhantomFlow.Markov
open Library Library.Machine

section Sequence
variable {K : Type}

def held (history : StateHistory K) (session : String) : List (SessionState K) :=
  match history.get session with
  | some sequence => sequence.states
  | none => []

theorem held_getD (history : StateHistory K) (state : SessionState K) :
    ((history.get state.session).getD (openSequence state)).states = held history state.session := by
  unfold held
  cases history.get state.session <;> rfl

def recordAdded (added : String → List (SessionState K)) (call : SessionState K × ℤ) :
    String → List (SessionState K) :=
  Function.update added call.1.session (added call.1.session ++ [call.1])

structure InOrder (states added : List (SessionState K)) : Prop where
  ordered : states.Sublist added
  newest : states.getLast? = added.getLast?

theorem inOrder_append (inOrder : InOrder states added) (state : SessionState K) :
    InOrder (states ++ [state]) (added ++ [state]) :=
  ⟨inOrder.ordered.append_right [state],by simp⟩

def Chronological (s : StateHistory K × (String → List (SessionState K))) : Prop :=
  ∀ session, InOrder (held s.1 session) (s.2 session)

variable [Field K] [LinearOrder K]

def compressionScore (algorithm : CompressionAlgorithm) (now : ℤ) (states : List (SessionState K))
    (state : SessionState K) : K :=
  match algorithm with
  | .frequency => frequency states state
  | .recency => state.timestamp
  | .importance => importanceScore state.action
  | .hybrid => hybridScore now state

variable [FloorRing K] (config : StateCompressionConfig K)

def Compresses (length : ℕ) : Prop :=
  config.enabled = true ∧ 100 < length ∧ targetLength config length < length

-- What the states before a compression must be for it to keep the order: those that
-- score at least as high as the newest are as many as are kept besides it, and their
-- scores never rise.
def Descending (now : ℤ) (states : List (SessionState K)) (state : SessionState K) : Prop :=
  let score := compressionScore config.compressionAlgorithm now (states ++ [state])
  let ranked := states.filter (fun other => decide (score state ≤ score other))
  ranked.Pairwise (fun a b => score b ≤ score a) ∧
    ranked.length + 1 = sliceLength (states.length + 1) (targetLength config (states.length + 1))

def Orderly (s : StateHistory K × (String → List (SessionState K))) (call : SessionState K × ℤ) : Prop :=
  Compresses config ((held s.1 call.1.session).length + 1) →
    Descending config call.2 (held s.1 call.1.session) call.1

def chronicle := withLedger (addToSequence config) recordAdded

variable {config}

theorem sliceLength_lt {length : ℕ} {stop : ℤ} (positive : 0 < length) (short : stop < length) :
    sliceLength length stop < length := by
  unfold sliceLength
  split <;> omega

def settled (config : StateCompressionConfig K) (now : ℤ) (states : List (SessionState K)) : List (SessionState K) :=
  if config.enabled = true ∧ 100 < states.length then compressSequence config now states else states

theorem held_addToSequence (history : StateHistory K) (call : SessionState K × ℤ) (session : String) :
    held (addToSequence config history call).1 session =
      if session = call.1.session then settled config call.2 (held history session ++ [call.1])
      else held history session := by
  unfold held addToSequence
  dsimp only
  rw [OrderedMap.get_set]
  by_cases own : session = call.1.session
  · subst own
    simp only [if_true,appendState,settled]
    cases history.get call.1.session <;> rfl
  · rw [if_neg own,if_neg own]

theorem settled_whole (unchanged : ¬ Compresses config states.length) : settled config now states = states := by
  unfold settled compressSequence
  split
  · rename_i long
    split
    · rfl
    · rename_i shrinks
      push Not at shrinks
      exact absurd ⟨long.1,long.2,shrinks.2⟩ unchanged
  · rfl

theorem settled_compressed (compresses : Compresses config states.length) :
    settled config now states = (sortByScore (compressionScore config.compressionAlgorithm now states) states).take
      (sliceLength states.length (targetLength config states.length)) := by
  obtain ⟨enabled,long,short⟩ := compresses
  unfold settled compressSequence
  rw [if_pos ⟨enabled,long⟩,if_neg (by simp [enabled,short])]
  cases config.compressionAlgorithm <;> rfl

theorem inOrder_settled (inOrder : InOrder states added)
    (descending : Compresses config (states.length + 1) → Descending config now states state) :
    InOrder (settled config now (states ++ [state])) (added ++ [state]) := by
  have length : (states ++ [state]).length = states.length + 1 := by simp
  by_cases compresses : Compresses config (states.length + 1)
  · obtain ⟨falling,count⟩ := descending compresses
    rw [settled_compressed (by rw [length]; exact compresses),sortByScore_snoc,(sortByScore_eq_self _ _).mpr falling,
      length,← count,List.take_length_add_append]
    refine ⟨?_,by simp⟩
    exact (List.Sublist.trans List.filter_sublist inOrder.ordered).append_right [state]
  · rw [settled_whole (by rw [length]; exact compresses)]
    exact inOrder_append inOrder state

-- With no state added twice the condition is also necessary.
theorem inOrder_descending (inOrder : InOrder states added) (distinct : (added ++ [state]).Nodup)
    (after : InOrder (settled config now (states ++ [state])) (added ++ [state]))
    (compresses : Compresses config (states.length + 1)) : Descending config now states state := by
  have length : (states ++ [state]).length = states.length + 1 := by simp
  have whole : (states ++ [state]).Nodup := distinct.sublist (inOrder_append inOrder state).ordered
  rw [settled_compressed (by rw [length]; exact compresses),length] at after
  have sorted := sortByScore_perm (compressionScore config.compressionAlgorithm now (states ++ [state]))
    (states ++ [state])
  have shorter : sliceLength (states.length + 1) (targetLength config (states.length + 1)) <
      (sortByScore (compressionScore config.compressionAlgorithm now (states ++ [state])) (states ++ [state])).length := by
    rw [sorted.length_eq,length]
    exact sliceLength_lt (Nat.succ_pos _) compresses.2.2
  have unrepeated := sorted.nodup_iff.mpr whole
  rw [sortByScore_snoc] at after shorter unrepeated
  have last := after.newest
  rw [List.getLast?_append_of_ne_nil _ (by simp),List.getLast?_singleton,
    take_getLast_exact unrepeated shorter] at last
  have ordered := after.ordered
  rw [last,List.take_length_add_append] at ordered
  have ranked : (states.filter (fun other => decide
      (compressionScore config.compressionAlgorithm now (states ++ [state]) state ≤
        compressionScore config.compressionAlgorithm now (states ++ [state]) other))).Sublist added :=
    List.filter_sublist.trans inOrder.ordered
  have same := sublist_unique (distinct.sublist (List.sublist_append_left _ _))
    ((List.append_sublist_append_right [state]).mp ordered) ranked (sortByScore_perm _ _)
  refine ⟨(sortByScore_eq_self _ _).mp same,?_⟩
  rw [last,same]

theorem chronological_step (chronological : Chronological s) (orderly : Orderly config s call) :
    Chronological (chronicle config s call).1 := by
  intro session
  simp only [chronicle,withLedger,held_addToSequence,recordAdded]
  by_cases own : session = call.1.session
  · subst own
    rw [if_pos rfl,Function.update_self]
    exact inOrder_settled (chronological call.1.session) orderly
  · rw [if_neg own,Function.update_of_ne own]
    exact chronological session

theorem chronological_orderly (chronological : Chronological s) (distinct : (s.2 call.1.session ++ [call.1]).Nodup)
    (after : Chronological (chronicle config s call).1) : Orderly config s call := by
  have own := after call.1.session
  simp only [chronicle,withLedger,held_addToSequence,recordAdded,if_true,Function.update_self] at own
  exact inOrder_descending (chronological call.1.session) distinct own

def Unrepeated (s : StateHistory K × (String → List (SessionState K))) (calls : List (SessionState K × ℤ)) : Prop :=
  ∀ session, (s.2 session ++ calls.map Prod.fst).Nodup

theorem unrepeated_step (unrepeated : Unrepeated s (call :: calls)) :
    Unrepeated (chronicle config s call).1 calls := by
  intro session
  simp only [chronicle,withLedger,recordAdded]
  by_cases own : session = call.1.session
  · subst own
    rw [Function.update_self,List.append_assoc]
    exact unrepeated call.1.session
  · rw [Function.update_of_ne own]
    refine (unrepeated session).sublist (List.Sublist.append_left ?_ _)
    exact List.sublist_cons_self _ _

-- Every run of calls over any sessions: where each call meets the condition the
-- sequences are chronological at every moment, and where no state is added twice
-- they are so in no other run.
theorem sequences_chronological_exact (config : StateCompressionConfig K) (calls : List (SessionState K × ℤ)) :
    (Along (chronicle config) (Orderly config) (.empty,fun _ => []) calls →
      Throughout (chronicle config) Chronological (.empty,fun _ => []) calls) ∧
    ((calls.map Prod.fst).Nodup →
      (Throughout (chronicle config) Chronological (.empty,fun _ => []) calls ↔
        Along (chronicle config) (Orderly config) (.empty,fun _ => []) calls)) := by
  have start : Chronological ((.empty,fun _ => []) : StateHistory K × (String → List (SessionState K))) :=
    fun session => ⟨List.Sublist.refl _,rfl⟩
  refine ⟨throughout_of_along (fun s call => chronological_step) start,fun distinct => ?_⟩
  apply throughout_exact_ahead Unrepeated (fun s call rest => unrepeated_step) ?_ ?_ start
  · intro s call rest unrepeated chronological
    refine ⟨chronological_orderly chronological ?_,chronological_step chronological⟩
    have all := unrepeated call.1.session
    rw [List.map_cons,List.append_cons] at all
    exact all.sublist (List.sublist_append_left _ _)
  · intro session
    simpa using distinct

end Sequence

def pageView (timestamp : ℤ) : SessionState ℚ := ⟨⟨.page_view,.normal,timestamp,none⟩,some "s",none,none⟩

def pageViews (count : ℕ) : List (SessionState ℚ × ℤ) := (List.range count).map (fun i => (pageView i,(i : ℤ)))

instance (config : StateCompressionConfig ℚ) (length : ℕ) : Decidable (Compresses config length) :=
  inferInstanceAs (Decidable (_ ∧ _ ∧ _))

instance (config : StateCompressionConfig ℚ) (now : ℤ) (states : List (SessionState ℚ)) (state : SessionState ℚ) :
    Decidable (Descending config now states state) := inferInstanceAs (Decidable (List.Pairwise _ _ ∧ _ = _))

instance (config : StateCompressionConfig ℚ) (s : StateHistory ℚ × (String → List (SessionState ℚ)))
    (call : SessionState ℚ × ℤ) : Decidable (Orderly config s call) := inferInstanceAs (Decidable (_ → _))

-- Views, then scrolling, then a view again.
def pageVisit (i : ℕ) : SessionState ℚ :=
  ⟨⟨if i < 69 ∨ i = 100 then .page_view else .scroll,.normal,i,none⟩,some "s",none,none⟩

def pageVisits : List (SessionState ℚ × ℤ) := (List.range 101).map (fun i => (pageVisit i,(i : ℤ)))

-- By importance the scrolling is dropped and the views stay in order.
theorem sequences_chronological_visits :
    Throughout (chronicle ⟨true,7/10,.importance⟩) Chronological (.empty,fun _ => []) pageVisits ∧
      (held (exec (chronicle ⟨true,7/10,.importance⟩) (.empty,fun _ => []) pageVisits).1.1 "s").length = 70 :=
  ⟨(sequences_chronological_exact ⟨true,7/10,.importance⟩ pageVisits).1 (by decide +kernel),by decide +kernel⟩

-- The hundred and first page view of a session: the sequence is turned around.
theorem sequence_turned_around :
    ¬ Throughout (chronicle getDefaultCompressionConfig) Chronological (.empty,fun _ => []) (pageViews 101) := by
  intro all
  have newest := congrArg (Option.map (fun state => state.timestamp)) (all.final "s").newest
  revert newest
  decide +kernel

end PhantomFlow.Markov
