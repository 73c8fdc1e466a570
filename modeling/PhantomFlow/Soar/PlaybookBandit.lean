import PhantomFlow.Library.JsNumber
import PhantomFlow.Library.Machine
import PhantomFlow.Library.OrderedMap
import PhantomFlow.Library.PropertyOrder
import PhantomFlow.Soar.PlaybookExecutor

namespace PhantomFlow.Soar
open Library Library.Machine

structure ArmStats where
  alpha : ℕ
  beta : ℕ
  selections : ℕ
  rewardSum : ℤ
  deriving DecidableEq

structure RewardSignalInput where
  blockedAttack : Bool
  userImpact : Bool
  missedDetection : Bool

def computeReward (input : RewardSignalInput) : ℤ :=
  if input.missedDetection then -2
  else if input.blockedAttack && !input.userImpact then 1
  else if !input.blockedAttack && input.userImpact then -1
  else if input.blockedAttack && input.userImpact then -1
  else 0

-- The arms of one context: an object, by its own properties.
abbrev Arms := OrderedMap String ArmStats

abbrev Samples := String → ℚ

namespace ThompsonSamplingBandit

def better (samples : Samples) (best : String × JsNumber ℚ) (arm : String) : String × JsNumber ℚ :=
  if best.2.lt (.finite (samples arm)) then (arm,.finite (samples arm)) else best

def firstArm (names : List String) : String :=
  match names with
  | [] => "default"
  | name :: _ => if name = "" then "default" else name

def selectArm (arms : Arms) (samples : Samples) : String :=
  ((propertyOrder arms.keys).foldl (better samples) (firstArm (propertyOrder arms.keys),.negInf)).1

def update (state : ArmStats) (reward : ℤ) : ArmStats :=
  if 0 < reward then { state with alpha := state.alpha + 1 } else { state with beta := state.beta + 1 }

end ThompsonSamplingBandit

-- `state` by context key. The copy in Redis is never read.
abbrev MultiArmedBanditFramework := OrderedMap String Arms

namespace MultiArmedBanditFramework
variable (framework : MultiArmedBanditFramework) (contextKey : String)

-- Assigning to `__proto__` sets the prototype and makes no property.
def assign (arms : Arms) (arm : String) : Arms :=
  if arm = "__proto__" then arms else arms.set arm ⟨1,1,0,0⟩

def registerContext (arms : List String) : MultiArmedBanditFramework :=
  if framework.has contextKey then framework else framework.set contextKey (arms.foldl assign .empty)

-- An object without arms selects `default`, and reading its statistics throws.
def select (samples : Samples) : Except Thrown (String × MultiArmedBanditFramework) :=
  match framework.get contextKey with
  | none => .error (.error ("Unknown context " ++ contextKey))
  | some arms =>
    let arm := ThompsonSamplingBandit.selectArm arms samples
    match arms.get arm with
    | none => .error (.error "Cannot read properties of undefined (reading 'selections')")
    | some stats => .ok (arm,framework.set contextKey (arms.set arm { stats with selections := stats.selections + 1 }))

-- A name that only the prototype has is no arm, and what is written to it is lost to
-- the arms.
def reward (arm : String) (reward : ℤ) : MultiArmedBanditFramework :=
  match framework.get contextKey with
  | none => framework
  | some arms => match arms.get arm with
    | none => framework
    | some stats =>
      let updated := ThompsonSamplingBandit.update stats reward
      framework.set contextKey (arms.set arm { updated with rewardSum := updated.rewardSum + reward })

def getStats : Arms := (framework.get contextKey).getD .empty

end MultiArmedBanditFramework

structure Offer where
  candidates : List PlaybookSchema
  offered : candidates ≠ []
  outcome : RewardSignalInput
  operator : Operator
  systems : Outcomes

-- What happened in a call: the arm the bandit chose, the playbook that was executed,
-- and the arm that was rewarded.
structure BanditRun where
  selected : Option String
  executed : Option String
  rewarded : Option String
  result : Except Thrown PlaybookExecutionResult

def Offer.ids (offer : Offer) : List String := offer.candidates.map PlaybookSchema.id

def Offer.playbook (offer : Offer) (id : String) : PlaybookSchema :=
  (offer.candidates.find? (fun playbook => decide (playbook.id = id))).getD (offer.candidates.head offer.offered)

section Calls
variable (contextKey : String)

-- A playbook that is not valid throws before it is executed, and no reward follows.
def executeWithBandit (framework : MultiArmedBanditFramework) (call : Offer × Samples) :
    MultiArmedBanditFramework × BanditRun :=
  let registered := framework.registerContext contextKey call.1.ids
  match registered.select contextKey call.2 with
  | .error thrown => (registered,⟨none,none,none,.error thrown⟩)
  | .ok (selectedId,chosen) =>
    let selected := call.1.playbook selectedId
    match (execute call.1.systems selected call.1.operator).2 with
    | .error thrown => (chosen,⟨some selectedId,none,none,.error thrown⟩)
    | .ok result =>
      (chosen.reward contextKey selected.id (computeReward call.1.outcome),
        ⟨some selectedId,some selected.id,some selected.id,.ok result⟩)

def bookedStep (s : MultiArmedBanditFramework × List BanditRun) (call : Offer × Samples) :
    (MultiArmedBanditFramework × List BanditRun) × Unit :=
  let run := executeWithBandit contextKey s.1 call
  ((run.1,s.2 ++ [run.2]),())

def executions (runs : List BanditRun) (arm : String) : ℕ := runs.countP (fun run => decide (run.executed = some arm))

def rewards (runs : List BanditRun) (arm : String) : ℕ := runs.countP (fun run => decide (run.rewarded = some arm))

structure FollowsSelection (framework : MultiArmedBanditFramework) (call : Offer × Samples) : Prop where
  executed : ∃ arm, (executeWithBandit contextKey framework call).2.selected = some arm ∧
    (executeWithBandit contextKey framework call).2.executed = some arm
  selectable : ∀ id ∈ call.1.ids, ∃ samples, (executeWithBandit contextKey framework (call.1,samples)).2.selected = some id

structure Balanced (s : MultiArmedBanditFramework × List BanditRun) : Prop where
  arms : ∀ arm stats, (s.1.getStats contextKey).get arm = some stats →
    stats.selections = executions s.2 arm ∧ stats.alpha + stats.beta = 2 + rewards s.2 arm
  total : ((s.1.getStats contextKey).values.map (fun stats => stats.alpha + stats.beta - 2)).sum = s.2.length

def Booked (calls : List (Offer × Samples)) : Prop :=
  Along (bookedStep contextKey) (fun s => FollowsSelection contextKey s.1) (.empty,[]) calls ∧
    Balanced contextKey (exec (bookedStep contextKey) (.empty,[]) calls).1

end Calls

-- Every call offers the playbooks of the first one, and the one that stands for an id
-- is valid.
def Steady (offers : List Offer) : Prop :=
  ∀ first ∈ offers.head?, "__proto__" ∉ first.ids ∧ ∀ offer ∈ offers,
    (∀ id, id ∈ offer.ids ↔ id ∈ first.ids) ∧ ∀ id ∈ offer.ids, validatePlaybook (offer.playbook id) = .ok ()

section Selecting
open ThompsonSamplingBandit

theorem foldl_better_mem (samples : Samples) (names : List String) (best : String × JsNumber ℚ) :
    (names.foldl (better samples) best).1 = best.1 ∨ (names.foldl (better samples) best).1 ∈ names := by
  induction names generalizing best with
  | nil => exact .inl rfl
  | cons name rest ih =>
      rw [List.foldl_cons]
      rcases ih (better samples best name) with same | later
      · rw [same]
        unfold better
        split
        · exact .inr List.mem_cons_self
        · exact .inl rfl
      · exact .inr (List.mem_cons_of_mem _ later)

theorem selectArm_mem {arms : Arms} (some_arm : arm ∈ arms.keys) (samples : Samples) :
    selectArm arms samples ∈ arms.keys := by
  unfold selectArm
  rw [← mem_propertyOrder]
  cases order : propertyOrder arms.keys with
  | nil =>
      rw [← mem_propertyOrder,order] at some_arm
      cases some_arm
  | cons name rest =>
      rw [List.foldl_cons]
      have first : better samples (firstArm (name :: rest),.negInf) name = (name,.finite (samples name)) := rfl
      rw [first]
      rcases foldl_better_mem samples rest (name,.finite (samples name)) with same | later
      · rw [same]
        exact List.mem_cons_self
      · exact List.mem_cons_of_mem _ later

def favouring (arm : String) : Samples := fun other => if other = arm then 1 else 0

theorem foldl_favouring (arm : String) (names : List String) (best : String × JsNumber ℚ)
    (start : best = (arm,.finite 1) ∨ arm ∈ names ∧ (best.2 = .negInf ∨ best.2 = .finite 0)) :
    names.foldl (better (favouring arm)) best = (arm,.finite 1) := by
  induction names generalizing best with
  | nil =>
      rcases start with done | ⟨absent,_⟩
      · exact done
      · cases absent
  | cons name rest ih =>
      rw [List.foldl_cons]
      apply ih
      by_cases here : name = arm
      · subst name
        refine .inl ?_
        rcases start with rfl | ⟨_,low | low⟩
        · simp [better,favouring,JsNumber.lt]
        · simp [better,favouring,low,JsNumber.lt]
        · simp [better,favouring,low,JsNumber.lt]
      · rcases start with rfl | ⟨present,low⟩
        · refine .inl ?_
          simp [better,favouring,here,JsNumber.lt]
        · refine .inr ⟨(List.mem_cons.mp present).resolve_left (fun same => here same.symm),?_⟩
          rcases low with low | low <;> simp [better,favouring,here,low,JsNumber.lt]

theorem selectArm_favouring {arms : Arms} (present : arm ∈ arms.keys) : selectArm arms (favouring arm) = arm := by
  unfold selectArm
  rw [foldl_favouring arm _ _ (.inr ⟨(mem_propertyOrder _ _).mpr present,.inl rfl⟩)]

end Selecting

section Registering
open MultiArmedBanditFramework

theorem mem_keys_assign (arms : Arms) (name arm : String) :
    arm ∈ (assign arms name).keys ↔ arm ∈ arms.keys ∨ arm = name ∧ arm ≠ "__proto__" := by
  unfold assign
  split
  · rename_i proto
    constructor
    · exact .inl
    · rintro (present | ⟨same,other⟩)
      · exact present
      · exact absurd (same.trans proto) other
  · rename_i other
    rw [OrderedMap.mem_keys_set]
    constructor
    · rintro (same | present)
      · exact .inr ⟨same,by rw [same]; exact other⟩
      · exact .inl present
    · rintro (present | ⟨same,_⟩)
      · exact .inr present
      · exact .inl same

theorem mem_keys_foldl (names : List String) (arms : Arms) (arm : String) :
    arm ∈ (names.foldl assign arms).keys ↔ arm ∈ arms.keys ∨ arm ∈ names ∧ arm ≠ "__proto__" := by
  induction names generalizing arms with
  | nil => simp
  | cons name rest ih =>
      rw [List.foldl_cons,ih,mem_keys_assign,List.mem_cons]
      tauto

theorem foldl_assign_fresh (names : List String) (arms : Arms) (fresh : ∀ stats ∈ arms.values, stats = ⟨1,1,0,0⟩) :
    ∀ stats ∈ (names.foldl assign arms).values, stats = ⟨1,1,0,0⟩ := by
  induction names generalizing arms with
  | nil => exact fresh
  | cons name rest ih =>
      apply ih
      intro stats present
      unfold assign at present
      split at present
      · exact fresh stats present
      · rcases OrderedMap.mem_values_set present with new | before
        · exact new
        · exact fresh stats before

theorem registerContext_of_get {framework : MultiArmedBanditFramework} (present : framework.get contextKey = some arms)
    (names : List String) : framework.registerContext contextKey names = framework := by
  rw [registerContext,if_pos (OrderedMap.has_of_get present)]

theorem registerContext_new {framework : MultiArmedBanditFramework} (absent : framework.get contextKey = none)
    (names : List String) :
    (framework.registerContext contextKey names).get contextKey = some (names.foldl assign .empty) := by
  rw [registerContext,if_neg (by rw [OrderedMap.has_of_get_none absent]; exact Bool.false_ne_true),OrderedMap.get_set_self]

end Registering

section Offers

theorem execute_returns (systems : Outcomes) (playbook : PlaybookSchema) (operator : Operator) :
    (∃ result, (execute systems playbook operator).2 = .ok result) ↔ validatePlaybook playbook = .ok () := by
  unfold execute
  cases validatePlaybook playbook with
  | error thrown => simp
  | ok passed =>
      refine iff_of_true ?_ rfl
      dsimp only
      split
      · exact ⟨_,rfl⟩
      · exact ⟨_,rfl⟩

theorem playbook_id (offer : Offer) (id : String) : (offer.playbook id).id = id ↔ id ∈ offer.ids := by
  constructor
  · intro same
    rw [← same]
    apply List.mem_map_of_mem
    unfold Offer.playbook
    cases found : offer.candidates.find? (fun playbook => decide (playbook.id = id)) with
    | none => exact List.head_mem _
    | some playbook => exact List.mem_of_find?_eq_some found
  · intro present
    obtain ⟨playbook,member,rfl⟩ := List.mem_map.mp present
    unfold Offer.playbook
    cases found : offer.candidates.find? (fun other => decide (other.id = playbook.id)) with
    | none =>
        have unmatched := List.find?_eq_none.mp found playbook member
        simp at unmatched
    | some other =>
        have matched := List.find?_some found
        exact of_decide_eq_true matched

theorem ids_nonempty (offer : Offer) : ∃ id, id ∈ offer.ids :=
  ⟨_,List.mem_map_of_mem (List.head_mem offer.offered)⟩

end Offers

section Choosing
variable {contextKey : String} {framework : MultiArmedBanditFramework} {arms : Arms} {call : Offer × Samples}
open ThompsonSamplingBandit MultiArmedBanditFramework

theorem select_of_get (present : framework.get contextKey = some arms)
    (found : arms.get (selectArm arms samples) = some stats) :
    framework.select contextKey samples = .ok (selectArm arms samples,
      framework.set contextKey (arms.set (selectArm arms samples) { stats with selections := stats.selections + 1 })) := by
  rw [select,present]
  dsimp only
  rw [found]

theorem executeWithBandit_invalid (present : framework.get contextKey = some arms)
    (found : arms.get (selectArm arms call.2) = some stats)
    (invalid : validatePlaybook (call.1.playbook (selectArm arms call.2)) ≠ .ok ()) :
    ∃ thrown, executeWithBandit contextKey framework call =
      (framework.set contextKey (arms.set (selectArm arms call.2) { stats with selections := stats.selections + 1 }),
        ⟨some (selectArm arms call.2),none,none,.error thrown⟩) := by
  unfold executeWithBandit
  dsimp only
  rw [registerContext_of_get present,select_of_get present found]
  dsimp only
  cases executed : (execute call.1.systems (call.1.playbook (selectArm arms call.2)) call.1.operator).2 with
  | error thrown => exact ⟨thrown,rfl⟩
  | ok result => exact absurd ((execute_returns _ _ _).mp ⟨result,executed⟩) invalid

theorem executeWithBandit_valid (present : framework.get contextKey = some arms)
    (found : arms.get (selectArm arms call.2) = some stats)
    (valid : validatePlaybook (call.1.playbook (selectArm arms call.2)) = .ok ()) :
    ∃ result, executeWithBandit contextKey framework call =
      (reward (framework.set contextKey
          (arms.set (selectArm arms call.2) { stats with selections := stats.selections + 1 })) contextKey
          (call.1.playbook (selectArm arms call.2)).id (computeReward call.1.outcome),
        ⟨some (selectArm arms call.2),some (call.1.playbook (selectArm arms call.2)).id,
          some (call.1.playbook (selectArm arms call.2)).id,.ok result⟩) := by
  obtain ⟨result,executed⟩ := (execute_returns call.1.systems _ call.1.operator).mpr valid
  refine ⟨result,?_⟩
  unfold executeWithBandit
  dsimp only
  rw [registerContext_of_get present,select_of_get present found]
  dsimp only
  rw [executed]

theorem selected_exact (present : framework.get contextKey = some arms) (some_arm : arm ∈ arms.keys) :
    (executeWithBandit contextKey framework call).2.selected = some (selectArm arms call.2) := by
  obtain ⟨stats,found⟩ := (OrderedMap.mem_keys _ _).mp (selectArm_mem some_arm call.2)
  by_cases valid : validatePlaybook (call.1.playbook (selectArm arms call.2)) = .ok ()
  · obtain ⟨result,run⟩ := executeWithBandit_valid present found valid
    rw [run]
  · obtain ⟨thrown,run⟩ := executeWithBandit_invalid present found valid
    rw [run]

theorem select_empty (present : framework.get contextKey = some arms) (no_arm : ∀ arm, arm ∉ arms.keys) :
    (executeWithBandit contextKey framework call).2.selected = none := by
  have absent : arms.get (selectArm arms call.2) = none := by
    cases found : arms.get (selectArm arms call.2) with
    | none => rfl
    | some stats => exact absurd ((OrderedMap.mem_keys _ _).mpr ⟨stats,found⟩) (no_arm _)
  unfold executeWithBandit
  dsimp only
  rw [registerContext_of_get present,select,present]
  dsimp only
  rw [absent]

theorem selectable_exact (present : framework.get contextKey = some arms) (some_arm : arm ∈ arms.keys) (offer : Offer) :
    (∀ id ∈ offer.ids, ∃ samples, (executeWithBandit contextKey framework (offer,samples)).2.selected = some id) ↔
      ∀ id ∈ offer.ids, id ∈ arms.keys := by
  constructor
  · intro each id here
    obtain ⟨samples,selected⟩ := each id here
    rw [selected_exact present some_arm] at selected
    rw [← Option.some.inj selected]
    exact selectArm_mem some_arm samples
  · intro each id here
    refine ⟨favouring id,?_⟩
    rw [selected_exact present some_arm,selectArm_favouring (each id here)]

theorem followsSelection_exact (present : framework.get contextKey = some arms) :
    FollowsSelection contextKey framework call ↔ selectArm arms call.2 ∈ call.1.ids ∧
      validatePlaybook (call.1.playbook (selectArm arms call.2)) = .ok () ∧ ∀ id ∈ call.1.ids, id ∈ arms.keys := by
  obtain ⟨first,offered⟩ := ids_nonempty call.1
  by_cases some_arm : ∃ arm, arm ∈ arms.keys
  · obtain ⟨arm,some_arm⟩ := some_arm
    obtain ⟨stats,found⟩ := (OrderedMap.mem_keys _ _).mp (selectArm_mem some_arm call.2)
    have selectable := selectable_exact present some_arm call.1
    by_cases valid : validatePlaybook (call.1.playbook (selectArm arms call.2)) = .ok ()
    · obtain ⟨result,run⟩ := executeWithBandit_valid present found valid
      constructor
      · intro follows
        obtain ⟨arm,selected,executed⟩ := follows.executed
        rw [run] at selected executed
        have same := (Option.some.inj executed).trans (Option.some.inj selected).symm
        exact ⟨(playbook_id _ _).mp same,valid,selectable.mp follows.selectable⟩
      · rintro ⟨offered,_,registered⟩
        refine ⟨⟨selectArm arms call.2,?_,?_⟩,selectable.mpr registered⟩
        · rw [run]
        · rw [run]
          exact congrArg some ((playbook_id _ _).mpr offered)
    · refine iff_of_false (fun follows => ?_) (fun all => valid all.2.1)
      obtain ⟨thrown,run⟩ := executeWithBandit_invalid present found valid
      obtain ⟨arm,_,executed⟩ := follows.executed
      rw [run] at executed
      cases executed
  · have no_arm : ∀ arm, arm ∉ arms.keys := fun arm here => some_arm ⟨arm,here⟩
    refine iff_of_false (fun follows => ?_) (fun all => no_arm first (all.2.2 first offered))
    obtain ⟨arm,selected,_⟩ := follows.executed
    rw [select_empty present no_arm] at selected
    cases selected

end Choosing

section Bookkeeping
variable {contextKey : String} {framework : MultiArmedBanditFramework} {arms : Arms} {call : Offer × Samples}
open ThompsonSamplingBandit MultiArmedBanditFramework

def HasArms (contextKey : String) (names : List String) (framework : MultiArmedBanditFramework) : Prop :=
  ∃ arms, framework.get contextKey = some arms ∧ ∀ arm, arm ∈ arms.keys ↔ arm ∈ names

theorem mem_keys_rewritten {arms : Arms} (found : arms.get arm = some stats) (other : String) (stats' : ArmStats) :
    other ∈ (arms.set arm stats').keys ↔ other ∈ arms.keys := by
  rw [OrderedMap.mem_keys_set]
  constructor
  · rintro (rfl | present)
    · exact (OrderedMap.mem_keys _ _).mpr ⟨stats,found⟩
    · exact present
  · exact .inr

theorem hasArms_rewritten (has : ∀ arm, arm ∈ arms.keys ↔ arm ∈ names) (found : arms.get arm = some stats)
    (framework : MultiArmedBanditFramework) (stats' : ArmStats) :
    HasArms contextKey names (framework.set contextKey (arms.set arm stats')) :=
  ⟨_,OrderedMap.get_set_self _ _ _,fun other => (mem_keys_rewritten found other stats').trans (has other)⟩

theorem hasArms_reward (has : HasArms contextKey names framework) (arm : String) (value : ℤ) :
    HasArms contextKey names (framework.reward contextKey arm value) := by
  obtain ⟨arms,present,same⟩ := has
  rw [reward,present]
  dsimp only
  cases found : arms.get arm with
  | none => exact ⟨arms,present,same⟩
  | some stats => exact hasArms_rewritten same found _ _

theorem hasArms_step (has : HasArms contextKey names framework) (call : Offer × Samples) :
    HasArms contextKey names (executeWithBandit contextKey framework call).1 := by
  obtain ⟨arms,present,same⟩ := has
  unfold executeWithBandit
  dsimp only
  rw [registerContext_of_get present,select,present]
  dsimp only
  cases found : arms.get (selectArm arms call.2) with
  | none => exact ⟨arms,present,same⟩
  | some stats =>
      have chosen : HasArms contextKey names (framework.set contextKey (arms.set (selectArm arms call.2)
          { stats with selections := stats.selections + 1 })) := hasArms_rewritten same found framework _
      dsimp only
      split
      · exact chosen
      · exact hasArms_reward chosen _ _

theorem update_sum (stats : ArmStats) (reward : ℤ) :
    (update stats reward).alpha + (update stats reward).beta = stats.alpha + stats.beta + 1 := by
  unfold update
  split
  · exact Nat.add_right_comm _ _ _
  · exact (Nat.add_assoc _ _ _).symm

theorem update_selections (stats : ArmStats) (reward : ℤ) : (update stats reward).selections = stats.selections := by
  unfold update
  split <;> rfl

def credited (stats : ArmStats) (value : ℤ) : ArmStats :=
  let updated := update { stats with selections := stats.selections + 1 } value
  { updated with rewardSum := updated.rewardSum + value }

theorem getStats_credited (contextKey : String) (framework : MultiArmedBanditFramework) (arms : Arms) (arm : String)
    (stats : ArmStats) (value : ℤ) :
    getStats (reward (framework.set contextKey (arms.set arm { stats with selections := stats.selections + 1 }))
      contextKey arm value) contextKey =
      (arms.set arm { stats with selections := stats.selections + 1 }).set arm (credited stats value) := by
  rw [reward,OrderedMap.get_set_self]
  dsimp only
  rw [OrderedMap.get_set_self]
  dsimp only
  rw [getStats,OrderedMap.get_set_self]
  rfl

theorem executions_snoc (runs : List BanditRun) (run : BanditRun) (arm : String) :
    executions (runs ++ [run]) arm = executions runs arm + if run.executed = some arm then 1 else 0 := by
  simp [executions,List.countP_append,List.countP_cons]

theorem rewards_snoc (runs : List BanditRun) (run : BanditRun) (arm : String) :
    rewards (runs ++ [run]) arm = rewards runs arm + if run.rewarded = some arm then 1 else 0 := by
  simp [rewards,List.countP_append,List.countP_cons]

theorem evidence_credited (found : arms.get arm = some stats) (enough : 2 ≤ stats.alpha + stats.beta) (value : ℤ) :
    (((arms.set arm { stats with selections := stats.selections + 1 }).set arm (credited stats value)).values.map
      (fun stats => stats.alpha + stats.beta - 2)).sum =
      (arms.values.map (fun stats => stats.alpha + stats.beta - 2)).sum + 1 := by
  have first := OrderedMap.sum_values_set arms (fun stats => stats.alpha + stats.beta - 2) arm
    { stats with selections := stats.selections + 1 }
  have second := OrderedMap.sum_values_set (arms.set arm { stats with selections := stats.selections + 1 })
    (fun stats => stats.alpha + stats.beta - 2) arm (credited stats value)
  rw [found,Option.map_some,Option.getD_some] at first
  rw [OrderedMap.get_set_self,Option.map_some,Option.getD_some] at second
  simp only [credited,update_sum] at first second ⊢
  omega

theorem balanced_step {runs : List BanditRun} (balanced : Balanced contextKey (framework,runs))
    (present : framework.get contextKey = some arms) (follows : FollowsSelection contextKey framework call) :
    Balanced contextKey (bookedStep contextKey (framework,runs) call).1 := by
  obtain ⟨offered,valid,registered⟩ := (followsSelection_exact present).mp follows
  have stored : framework.getStats contextKey = arms := by rw [getStats,present]; rfl
  obtain ⟨books,total⟩ := balanced
  dsimp only at books total
  rw [stored] at books total
  obtain ⟨stats,found⟩ := (OrderedMap.mem_keys _ _).mp (registered _ offered)
  obtain ⟨result,run⟩ := executeWithBandit_valid present found valid
  rw [(playbook_id _ _).mpr offered] at run
  have after := getStats_credited contextKey framework arms (selectArm arms call.2) stats
    (computeReward call.1.outcome)
  obtain ⟨selections,evidence⟩ := books _ _ found
  constructor
  · intro arm stats' here
    simp only [bookedStep,run] at here ⊢
    rw [after,OrderedMap.get_set,OrderedMap.get_set] at here
    rw [executions_snoc,rewards_snoc]
    by_cases same : arm = selectArm arms call.2
    · subst arm
      rw [if_pos rfl] at here
      cases here
      simp only [credited,update_selections,update_sum,if_true]
      omega
    · rw [if_neg same,if_neg same] at here
      have other : (some (selectArm arms call.2) : Option String) ≠ some arm := fun equal =>
        same (Option.some.inj equal).symm
      rw [if_neg other]
      exact books arm stats' here
  · simp only [bookedStep,run]
    rw [after,List.length_append,List.length_singleton,← total]
    exact evidence_credited found (by omega) _

theorem balanced_registered (framework : MultiArmedBanditFramework) (absent : framework.get contextKey = none)
    (names : List String) : Balanced contextKey (framework.registerContext contextKey names,[]) := by
  have fresh : ∀ stats ∈ (names.foldl assign .empty).values, stats = ⟨1,1,0,0⟩ :=
    foldl_assign_fresh names .empty (fun stats here => by cases here)
  have stored : (framework.registerContext contextKey names).getStats contextKey = names.foldl assign .empty := by
    rw [getStats,registerContext_new absent]
    rfl
  constructor
  · intro arm stats here
    dsimp only at here
    rw [stored] at here
    rw [fresh stats ((OrderedMap.mem_values _ _).mpr ⟨arm,here⟩)]
    exact ⟨rfl,rfl⟩
  · dsimp only
    rw [stored]
    apply List.sum_eq_zero
    intro count here
    obtain ⟨stats,present,rfl⟩ := List.mem_map.mp here
    rw [fresh stats present]
    rfl

end Bookkeeping

section Runs
variable {contextKey : String} {s : MultiArmedBanditFramework × List BanditRun} {first : Offer}
open ThompsonSamplingBandit MultiArmedBanditFramework

theorem executeWithBandit_registered (offer : Offer) (samples : Samples) :
    executeWithBandit contextKey .empty (offer,samples) =
      executeWithBandit contextKey (registerContext .empty contextKey offer.ids) (offer,samples) := by
  unfold executeWithBandit
  dsimp only
  rw [registerContext_of_get (registerContext_new rfl offer.ids)]

theorem along_registered (calls : List (Offer × Samples)) (samples : Samples) :
    (Along (bookedStep contextKey) (fun s => FollowsSelection contextKey s.1) (.empty,[]) ((first,samples) :: calls) ↔
      Along (bookedStep contextKey) (fun s => FollowsSelection contextKey s.1)
        (registerContext .empty contextKey first.ids,[]) ((first,samples) :: calls)) ∧
    exec (bookedStep contextKey) (.empty,[]) ((first,samples) :: calls) =
      exec (bookedStep contextKey) (registerContext .empty contextKey first.ids,[]) ((first,samples) :: calls) := by
  have same : bookedStep contextKey (.empty,[]) (first,samples) =
      bookedStep contextKey (registerContext .empty contextKey first.ids,[]) (first,samples) := by
    simp only [bookedStep]
    rw [executeWithBandit_registered]
  constructor
  · refine and_congr ⟨fun follows => ?_,fun follows => ?_⟩ (by rw [same])
    · refine ⟨?_,fun id here => ?_⟩
      · rw [← executeWithBandit_registered]
        exact follows.executed
      · obtain ⟨draws,selected⟩ := follows.selectable id here
        exact ⟨draws,by rw [← executeWithBandit_registered]; exact selected⟩
    · refine ⟨?_,fun id here => ?_⟩
      · rw [executeWithBandit_registered]
        exact follows.executed
      · obtain ⟨draws,selected⟩ := follows.selectable id here
        exact ⟨draws,by rw [executeWithBandit_registered]; exact selected⟩
  · rw [exec_cons,exec_cons,same]

theorem steady_run (calls : List (Offer × Samples)) (has : HasArms contextKey first.ids s.1)
    (balanced : Balanced contextKey s)
    (steady : ∀ call ∈ calls, (∀ id, id ∈ call.1.ids ↔ id ∈ first.ids) ∧
      ∀ id ∈ call.1.ids, validatePlaybook (call.1.playbook id) = .ok ()) :
    Along (bookedStep contextKey) (fun s => FollowsSelection contextKey s.1) s calls ∧
      Balanced contextKey (exec (bookedStep contextKey) s calls).1 := by
  induction calls generalizing s with
  | nil => exact ⟨trivial,balanced⟩
  | cons call rest ih =>
      rw [List.forall_mem_cons] at steady
      obtain ⟨⟨same,valid⟩,later⟩ := steady
      have kept := hasArms_step has call
      obtain ⟨arms,present,names⟩ := has
      obtain ⟨id,offered⟩ := ids_nonempty first
      have selected : selectArm arms call.2 ∈ call.1.ids :=
        (same _).mpr ((names _).mp (selectArm_mem ((names id).mpr offered) call.2))
      have follows : FollowsSelection contextKey s.1 call := (followsSelection_exact present).mpr
        ⟨selected,valid _ selected,fun id here => (names id).mpr ((same id).mp here)⟩
      obtain ⟨along,final⟩ := ih kept (balanced_step balanced present follows) later
      exact ⟨⟨follows,along⟩,final⟩

-- One arm favoured throughout: every call has to offer it, with a valid playbook, and
-- offers only arms of the context.
theorem favouring_run (arm : String) (offers : List Offer) (has : HasArms contextKey names s.1) (present : arm ∈ names)
    (follows : Along (bookedStep contextKey) (fun s => FollowsSelection contextKey s.1) s
      (offers.map (fun offer => (offer,favouring arm)))) :
    ∀ offer ∈ offers, arm ∈ offer.ids ∧ validatePlaybook (offer.playbook arm) = .ok () ∧
      ∀ id ∈ offer.ids, id ∈ names := by
  induction offers generalizing s with
  | nil => exact fun offer here => (List.not_mem_nil here).elim
  | cons offer rest ih =>
      have kept := hasArms_step has (offer,favouring arm)
      obtain ⟨arms,stored,same⟩ := has
      obtain ⟨selected,valid,registered⟩ := (followsSelection_exact stored).mp follows.1
      rw [selectArm_favouring ((same arm).mpr present)] at selected valid
      rw [List.forall_mem_cons]
      exact ⟨⟨selected,valid,fun id here => (same id).mp (registered id here)⟩,ih kept follows.2⟩

theorem hasArms_registered (contextKey : String) (names : List String) :
    HasArms contextKey (names.filter (fun id => decide (id ≠ "__proto__"))) (registerContext .empty contextKey names) := by
  refine ⟨_,registerContext_new rfl names,fun arm => ?_⟩
  rw [mem_keys_foldl,List.mem_filter,decide_eq_true_eq]
  simp [OrderedMap.keys,OrderedMap.empty]

theorem filter_plain {names : List String} (plain : "__proto__" ∉ names) :
    names.filter (fun id => decide (id ≠ "__proto__")) = names := by
  rw [List.filter_eq_self]
  intro id here
  exact decide_eq_true (fun same => plain (by rw [← same]; exact here))

theorem plain_of_follows
    (follows : FollowsSelection contextKey (registerContext .empty contextKey first.ids) (first,samples)) :
    "__proto__" ∉ first.ids := by
  obtain ⟨arms,stored,same⟩ := hasArms_registered contextKey first.ids
  obtain ⟨_,_,registered⟩ := (followsSelection_exact stored).mp follows
  intro here
  have kept := (List.mem_filter.mp ((same _).mp (registered _ here))).2
  exact of_decide_eq_true kept rfl

theorem hasArms_plain (plain : "__proto__" ∉ first.ids) :
    HasArms contextKey first.ids (registerContext .empty contextKey first.ids) := by
  have arms := hasArms_registered contextKey first.ids
  rwa [filter_plain plain] at arms

theorem steady_of_booked {rest : List Offer}
    (booked : ∀ calls : List (Offer × Samples), calls.map Prod.fst = first :: rest → Booked contextKey calls) :
    Steady (first :: rest) := by
  intro first' here
  cases Option.mem_some_iff.mp here
  have follows : ∀ arm, Along (bookedStep contextKey) (fun s => FollowsSelection contextKey s.1)
      (registerContext .empty contextKey first.ids,[])
      ((first :: rest).map (fun offer => (offer,favouring arm))) := by
    intro arm
    have calls := booked ((first :: rest).map (fun offer => (offer,favouring arm))) (by simp [Function.comp_def])
    exact (along_registered _ _).1.mp calls.1
  have plain : "__proto__" ∉ first.ids := plain_of_follows (follows "").1
  have favoured := fun arm present => favouring_run arm (first :: rest) (hasArms_plain plain) present (follows arm)
  obtain ⟨other,some_id⟩ := ids_nonempty first
  refine ⟨plain,fun offer here => ⟨fun id => ⟨fun present => ?_,fun present => ?_⟩,fun id present => ?_⟩⟩
  · exact (favoured other some_id offer here).2.2 id present
  · exact (favoured id present offer here).1
  · have listed := (favoured other some_id offer here).2.2 id present
    exact (favoured id listed offer here).2.1

theorem booked_of_steady (calls : List (Offer × Samples)) (steady : Steady (calls.map Prod.fst)) :
    Booked contextKey calls := by
  cases calls with
  | nil => exact ⟨trivial,⟨fun _ _ found => (by cases found),rfl⟩⟩
  | cons call calls =>
      obtain ⟨plain,each⟩ := steady call.1 rfl
      have every : ∀ other ∈ call :: calls, (∀ id, id ∈ other.1.ids ↔ id ∈ call.1.ids) ∧
          ∀ id ∈ other.1.ids, validatePlaybook (other.1.playbook id) = .ok () :=
        fun other here => each other.1 (List.mem_map_of_mem here)
      obtain ⟨along,final⟩ := steady_run (s:=(_,[])) (call :: calls) (hasArms_plain plain)
        (balanced_registered .empty rfl _) every
      obtain ⟨offer,samples⟩ := call
      refine ⟨(along_registered calls samples).1.mpr along,?_⟩
      rw [(along_registered calls samples).2]
      exact final

end Runs

-- Whatever is drawn, the books are right exactly when the same valid playbooks are
-- offered in every call.
theorem bandit_books_iff (contextKey : String) (offers : List Offer) :
    (∀ calls : List (Offer × Samples), calls.map Prod.fst = offers → Booked contextKey calls) ↔ Steady offers := by
  constructor
  · intro booked
    cases offers with
    | nil => exact fun first here => by cases here
    | cons first rest => exact steady_of_booked booked
  · rintro steady calls rfl
    exact booked_of_steady calls steady

def playbook (id : String) : PlaybookSchema := ⟨id,id,[⟨"notify",.notify,none⟩],none⟩

def quiet : Outcomes := ⟨fun _ _ => .ok "done",fun _ _ => .ok (),fun _ => .ok "done"⟩

def offering (ids : List String) (offered : ids ≠ []) : Offer :=
  ⟨ids.map playbook,by simpa using offered,⟨true,false,false⟩,.system,quiet⟩

-- The second call offers a playbook that the context does not know: the bandit
-- selects the first one again, the new one is executed, and its reward is dropped.
theorem changed_candidates_misbooked :
    let calls := [(offering ["isolate"] (by decide),favouring "isolate"),(offering ["reset"] (by decide),favouring "reset")]
    let final := (exec (bookedStep "ransomware") (.empty,[]) calls).1
    final.2.map BanditRun.selected = [some "isolate",some "isolate"] ∧
    final.2.map BanditRun.executed = [some "isolate",some "reset"] ∧
    (final.1.getStats "ransomware").entries = [("isolate",⟨2,1,2,1⟩)] ∧ ¬Booked "ransomware" calls := by
  refine ⟨by decide +kernel,by decide +kernel,by decide +kernel,fun booked => ?_⟩
  have books := (booked.2.arms "isolate" ⟨2,1,2,1⟩ (by decide +kernel)).1
  revert books
  decide +kernel

end PhantomFlow.Soar
