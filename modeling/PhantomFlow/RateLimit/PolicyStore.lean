import PhantomFlow.RateLimit.Manager

namespace PhantomFlow.RateLimit
open Library Library.Machine

-- The policy store with the identity of its objects: the map and the index hold
-- references, an update stores a new object and a toggle writes to the old one.
structure PolicyObjects where
  objects : ℕ → RateLimitPolicy
  next : ℕ
  policies : OrderedMap String ℕ
  priorityIndex : List ℕ

inductive PolicyEdit where
  | addPolicy (policy : RateLimitPolicy)
  | updatePolicy (policyId : String) (updates : PolicyUpdates)
  | removePolicy (policyId : String)
  | togglePolicy (policyId : String) (enabled : Bool)

namespace PolicyObjects
variable (store : PolicyObjects)

def rebuildPriorityIndex : PolicyObjects :=
  { store with
    priorityIndex := store.policies.values.insertionSort (fun a b =>
      (store.objects b).priority ≤ (store.objects a).priority) }

def getPolicy (policyId : String) : Option RateLimitPolicy := (store.policies.get policyId).map store.objects

def put (policyId : String) (policy : RateLimitPolicy) : PolicyObjects :=
  { store with
    objects := Function.update store.objects store.next policy
    next := store.next + 1
    policies := store.policies.set policyId store.next }.rebuildPriorityIndex

def addPolicy (policy : RateLimitPolicy) : PolicyObjects := store.put policy.policyId policy

def updatePolicy (policyId : String) (updates : PolicyUpdates) : Bool × PolicyObjects :=
  match store.policies.get policyId with
  | none => (false,store)
  | some ref => (true,store.put policyId ((store.objects ref).update updates))

def removePolicy (policyId : String) : Bool × PolicyObjects :=
  if store.policies.has policyId
  then (true,{ store with policies := store.policies.delete policyId }.rebuildPriorityIndex)
  else (false,store)

def togglePolicy (policyId : String) (enabled : Bool) : Bool × PolicyObjects :=
  match store.policies.get policyId with
  | none => (false,store)
  | some ref =>
    (true,{ store with objects := Function.update store.objects ref { store.objects ref with enabled } })

-- The edits as `RateLimitManager` makes them: only an addition is validated.
def step : PolicyEdit → PolicyObjects × Bool
  | .addPolicy policy => if validatePolicy policy = [] then (store.addPolicy policy,true) else (store,false)
  | .updatePolicy policyId updates => (store.updatePolicy policyId updates).swap
  | .removePolicy policyId => (store.removePolicy policyId).swap
  | .togglePolicy policyId enabled => (store.togglePolicy policyId enabled).swap

-- The constructor adds the shipped policies and the configured ones without
-- validation.
def create (custom : List RateLimitPolicy) : PolicyObjects :=
  (defaultPolicies ++ custom).foldl addPolicy ⟨fun _ => createGeneralAPIPolicy,0,.empty,[]⟩

end PolicyObjects

-- What the store promises: valid policies under their own ids, and an index that
-- holds the very objects of the map, the highest priority first.
structure Orderly (store : PolicyObjects) : Prop where
  valid : ∀ policyId policy, store.getPolicy policyId = some policy →
    validatePolicy policy = [] ∧ policy.policyId = policyId
  indexed : store.priorityIndex.Perm store.policies.values
  sorted : store.priorityIndex.Pairwise (fun a b => (store.objects b).priority ≤ (store.objects a).priority)

structure Allocated (store : PolicyObjects) : Prop where
  below : ∀ policyId ref, store.policies.get policyId = some ref → ref < store.next
  single : ∀ first second ref, store.policies.get first = some ref → store.policies.get second = some ref →
    first = second

def Careful (store : PolicyObjects) : PolicyEdit → Prop
  | .updatePolicy policyId updates => ∀ policy ∈ store.getPolicy policyId,
      validatePolicy (policy.update updates) = [] ∧ updates.policyId.getD policyId = policyId
  | .addPolicy _ | .removePolicy _ | .togglePolicy _ _ => True

instance (store : PolicyObjects) : (edit : PolicyEdit) → Decidable (Careful store edit)
  | .updatePolicy policyId updates => inferInstanceAs (Decidable (∀ policy ∈ store.getPolicy policyId,
      validatePolicy (policy.update updates) = [] ∧ updates.policyId.getD policyId = policyId))
  | .addPolicy _ | .removePolicy _ | .togglePolicy _ _ => inferInstanceAs (Decidable True)

namespace PolicyObjects
variable {store : PolicyObjects}

theorem rebuild_indexed (store : PolicyObjects) :
    store.rebuildPriorityIndex.priorityIndex.Perm store.policies.values ∧
      store.rebuildPriorityIndex.priorityIndex.Pairwise (fun a b =>
        (store.objects b).priority ≤ (store.objects a).priority) := by
  have : Std.Total (fun a b => (store.objects b).priority ≤ (store.objects a).priority) :=
    ⟨fun a b => le_total _ _⟩
  have : IsTrans ℕ (fun a b => (store.objects b).priority ≤ (store.objects a).priority) :=
    ⟨fun _ _ _ first second => le_trans second first⟩
  exact ⟨List.perm_insertionSort _ _,List.pairwise_insertionSort _ _⟩

theorem put_get (policyId : String) (policy : RateLimitPolicy) (key : String) :
    (store.put policyId policy).policies.get key = if key = policyId then some store.next else store.policies.get key :=
  OrderedMap.get_set _ _ _ _

theorem put_allocated (allocated : Allocated store) (policyId : String) (policy : RateLimitPolicy) :
    Allocated (store.put policyId policy) := by
  have below : ∀ key ref, (store.put policyId policy).policies.get key = some ref →
      (key = policyId ∧ ref = store.next) ∨ (store.policies.get key = some ref ∧ ref < store.next) := by
    intro key ref found
    rw [put_get] at found
    split at found
    · rename_i same; exact Or.inl ⟨same,(Option.some.inj found).symm⟩
    · exact Or.inr ⟨found,allocated.below key ref found⟩
  refine ⟨?_,?_⟩
  · intro key ref found
    change ref < store.next + 1
    rcases below key ref found with ⟨_,rfl⟩ | ⟨_,old⟩ <;> omega
  · intro one two ref first second
    rcases below one ref first with ⟨same,new⟩ | ⟨earlier,old⟩
    · rcases below two ref second with ⟨same',_⟩ | ⟨_,old'⟩
      · rw [same,same']
      · omega
    · rcases below two ref second with ⟨_,new'⟩ | ⟨earlier',_⟩
      · omega
      · exact allocated.single one two ref earlier earlier'

theorem put_getPolicy (allocated : Allocated store) (policyId : String) (policy : RateLimitPolicy) (key : String) :
    (store.put policyId policy).getPolicy key = if key = policyId then some policy else store.getPolicy key := by
  unfold getPolicy
  rw [put_get]
  by_cases same : key = policyId
  · simp [same,put,rebuildPriorityIndex]
  · simp only [same,if_false]
    cases found : store.policies.get key with
    | none => rfl
    | some ref =>
        have other : ref ≠ store.next := Nat.ne_of_lt (allocated.below key ref found)
        simp [put,rebuildPriorityIndex,Function.update_of_ne other]

theorem put_orderly (allocated : Allocated store) (orderly : Orderly store) (policyId : String) (policy : RateLimitPolicy) :
    Orderly (store.put policyId policy) ↔ validatePolicy policy = [] ∧ policy.policyId = policyId := by
  constructor
  · intro kept
    exact kept.valid policyId policy (by rw [put_getPolicy allocated,if_pos rfl])
  · intro sound
    refine ⟨?_,(rebuild_indexed _).1,(rebuild_indexed _).2⟩
    intro key stored found
    rw [put_getPolicy allocated] at found
    split at found
    · rename_i same
      rw [same,← Option.some.inj found]
      exact sound
    · exact orderly.valid key stored found

theorem remaining_get (found : (store.policies.delete policyId).get key = some ref) :
    store.policies.get key = some ref := OrderedMap.get_filter_some found

theorem removePolicy_allocated (allocated : Allocated store) (policyId : String) :
    Allocated (store.removePolicy policyId).2 := by
  unfold removePolicy
  split
  · refine ⟨?_,?_⟩
    · exact fun key ref found => allocated.below key ref (remaining_get found)
    · exact fun one two ref first second => allocated.single one two ref (remaining_get first) (remaining_get second)
  · exact allocated

theorem removePolicy_orderly (orderly : Orderly store) (policyId : String) :
    Orderly (store.removePolicy policyId).2 := by
  unfold removePolicy
  split
  · refine ⟨?_,(rebuild_indexed _).1,(rebuild_indexed _).2⟩
    intro key policy found
    obtain ⟨ref,present,rfl⟩ := Option.map_eq_some_iff.mp found
    exact orderly.valid key _ (by rw [getPolicy,remaining_get present]; rfl)
  · exact orderly

theorem togglePolicy_object (found : store.policies.get policyId = some ref) (enabled : Bool) (other : ℕ) :
    ∃ flag, (store.togglePolicy policyId enabled).2.objects other = { store.objects other with enabled := flag } := by
  simp only [togglePolicy,found]
  by_cases same : other = ref
  · exact ⟨enabled,by simp [same]⟩
  · exact ⟨(store.objects other).enabled,by simp [Function.update_of_ne same]⟩

theorem togglePolicy_rest (found : store.policies.get policyId = some ref) (enabled : Bool) :
    (store.togglePolicy policyId enabled).2.policies = store.policies ∧
      (store.togglePolicy policyId enabled).2.priorityIndex = store.priorityIndex ∧
      (store.togglePolicy policyId enabled).2.next = store.next := by
  simp [togglePolicy,found]

theorem togglePolicy_allocated (allocated : Allocated store) (policyId : String) (enabled : Bool) :
    Allocated (store.togglePolicy policyId enabled).2 := by
  cases found : store.policies.get policyId with
  | none => simp only [togglePolicy,found]; exact allocated
  | some ref =>
      obtain ⟨policies,_,next⟩ := togglePolicy_rest found enabled
      refine ⟨?_,?_⟩
      · rw [policies,next]; exact allocated.below
      · rw [policies]; exact allocated.single

theorem togglePolicy_orderly (orderly : Orderly store) (policyId : String) (enabled : Bool) :
    Orderly (store.togglePolicy policyId enabled).2 := by
  cases found : store.policies.get policyId with
  | none => simp only [togglePolicy,found]; exact orderly
  | some ref =>
      have written := togglePolicy_object found enabled
      obtain ⟨policies,index,_⟩ := togglePolicy_rest found enabled
      refine ⟨?_,?_,?_⟩
      · intro key policy present
        rw [getPolicy,policies] at present
        obtain ⟨stored,here,rfl⟩ := Option.map_eq_some_iff.mp present
        obtain ⟨flag,equal⟩ := written stored
        rw [equal]
        exact orderly.valid key (store.objects stored) (by rw [getPolicy,here]; rfl)
      · rw [index,policies]; exact orderly.indexed
      · rw [index]
        refine orderly.sorted.imp (fun {a b} ordered => ?_)
        obtain ⟨_,first⟩ := written a
        obtain ⟨_,second⟩ := written b
        rw [first,second]
        exact ordered

theorem updatePolicy_allocated (allocated : Allocated store) (policyId : String) (updates : PolicyUpdates) :
    Allocated (store.updatePolicy policyId updates).2 := by
  unfold updatePolicy
  split
  · exact allocated
  · exact put_allocated allocated _ _

theorem updatePolicy_orderly (allocated : Allocated store) (orderly : Orderly store) (policyId : String)
    (updates : PolicyUpdates) :
    Orderly (store.updatePolicy policyId updates).2 ↔ Careful store (.updatePolicy policyId updates) := by
  cases found : store.policies.get policyId with
  | none =>
      simp only [updatePolicy,found,Careful,getPolicy,Option.map_none]
      exact iff_of_true orderly (by simp)
  | some ref =>
      have stored : store.getPolicy policyId = some (store.objects ref) := by rw [getPolicy,found]; rfl
      have own := (orderly.valid policyId _ stored).2
      simp only [updatePolicy,found,Careful,stored]
      rw [put_orderly allocated orderly]
      simp [RateLimitPolicy.update,own]

theorem step_allocated (store : PolicyObjects) (edit : PolicyEdit) (allocated : Allocated store) :
    Allocated (store.step edit).1 := by
  cases edit with
  | addPolicy policy =>
      simp only [step]
      split
      · exact put_allocated allocated _ _
      · exact allocated
  | updatePolicy policyId updates => exact updatePolicy_allocated allocated policyId updates
  | removePolicy policyId => exact removePolicy_allocated allocated policyId
  | togglePolicy policyId enabled => exact togglePolicy_allocated allocated policyId enabled

theorem step_orderly (store : PolicyObjects) (edit : PolicyEdit) (allocated : Allocated store) (orderly : Orderly store) :
    Orderly (store.step edit).1 ↔ Careful store edit := by
  cases edit with
  | addPolicy policy =>
      simp only [step,Careful,iff_true]
      split
      · rename_i valid
        exact (put_orderly allocated orderly _ _).mpr ⟨valid,rfl⟩
      · exact orderly
  | updatePolicy policyId updates => exact updatePolicy_orderly allocated orderly policyId updates
  | removePolicy policyId => exact iff_of_true (removePolicy_orderly orderly policyId) trivial
  | togglePolicy policyId enabled => exact iff_of_true (togglePolicy_orderly orderly policyId enabled) trivial

theorem addPolicies_allocated (policies : List RateLimitPolicy) (allocated : Allocated store) :
    Allocated (policies.foldl addPolicy store) :=
  List.foldlRecOn policies addPolicy allocated (fun _ allocated _ _ => put_allocated allocated _ _)

theorem addPolicies_orderly (policies : List RateLimitPolicy) (allocated : Allocated store) (orderly : Orderly store)
    (valid : ∀ policy ∈ policies, validatePolicy policy = []) : Orderly (policies.foldl addPolicy store) := by
  induction policies generalizing store with
  | nil => exact orderly
  | cons policy rest ih =>
      rw [List.forall_mem_cons] at valid
      exact ih (put_allocated allocated _ _) ((put_orderly allocated orderly _ _).mpr ⟨valid.1,rfl⟩) valid.2

theorem empty_allocated : Allocated ⟨fun _ => createGeneralAPIPolicy,0,.empty,[]⟩ := by
  have nothing : ∀ key ref, (OrderedMap.empty : OrderedMap String ℕ).get key ≠ some ref := by simp
  exact ⟨fun key ref found => absurd found (nothing key ref),fun key _ ref found => absurd found (nothing key ref)⟩

theorem create_allocated (custom : List RateLimitPolicy) : Allocated (create custom) :=
  addPolicies_allocated _ empty_allocated

theorem create_orderly (custom : List RateLimitPolicy) (valid : ∀ policy ∈ custom, validatePolicy policy = []) :
    Orderly (create custom) := by
  apply addPolicies_orderly _ empty_allocated
  · exact ⟨fun _ _ found => (by cases found),.nil,.nil⟩
  · intro policy member
    rcases List.mem_append.mp member with shipped | configured
    · exact defaultPolicies_valid policy shipped
    · exact valid policy configured

end PolicyObjects

structure Represents (store : PolicyObjects) (shared : RateLimitPolicies) : Prop where
  policies : shared.policies = store.policies.map (fun _ => store.objects)
  index : shared.priorityIndex.map store.policies.get = store.priorityIndex.map some

namespace PolicyObjects
variable {store : PolicyObjects} {shared : RateLimitPolicies}

theorem rebuild_represents (same : shared.policies = store.policies.map (fun _ => store.objects)) :
    Represents store.rebuildPriorityIndex shared.rebuildPriorityIndex := by
  refine ⟨same,?_⟩
  have keys : shared.rebuildPriorityIndex.priorityIndex = (store.policies.entries.insertionSort (fun a b =>
      (store.objects b.2).priority ≤ (store.objects a.2).priority)).map Prod.fst := by
    simp only [RateLimitPolicies.rebuildPriorityIndex,same,OrderedMap.map]
    rw [← List.map_insertionSort (fun a b => (store.objects b.2).priority ≤ (store.objects a.2).priority) _ _ _
      (fun _ _ _ _ => Iff.rfl),List.map_map]
    rfl
  have refs : store.rebuildPriorityIndex.priorityIndex = (store.policies.entries.insertionSort (fun a b =>
      (store.objects b.2).priority ≤ (store.objects a.2).priority)).map Prod.snd := by
    simp only [PolicyObjects.rebuildPriorityIndex,OrderedMap.values]
    rw [← List.map_insertionSort (fun a b => (store.objects b.2).priority ≤ (store.objects a.2).priority) _ _ _
      (fun _ _ _ _ => Iff.rfl)]
  rw [keys,refs,List.map_map,List.map_map]
  apply List.map_congr_left
  intro entry member
  exact (OrderedMap.get_exact _ _ _).mpr ((List.mem_insertionSort _).mp member)

theorem put_represents (allocated : Allocated store) (represents : Represents store shared) (policyId : String)
    (policy : RateLimitPolicy) :
    Represents (store.put policyId policy)
      { shared with policies := shared.policies.set policyId policy }.rebuildPriorityIndex := by
  apply rebuild_represents
  have others : store.policies.map (fun _ => Function.update store.objects store.next policy) =
      store.policies.map (fun _ => store.objects) := by
    apply OrderedMap.map_congr
    intro key ref found
    exact Function.update_of_ne (Nat.ne_of_lt (allocated.below key ref found)) _ _
  simp only [OrderedMap.map_set,Function.update_self,others,represents.policies]

theorem represents_get (represents : Represents store shared) (policyId : String) :
    shared.policies.get policyId = store.getPolicy policyId := by
  rw [represents.policies,OrderedMap.get_map]
  rfl

theorem togglePolicy_represents (allocated : Allocated store) (represents : Represents store shared) (policyId : String)
    (enabled : Bool) :
    Represents (store.togglePolicy policyId enabled).2 (shared.togglePolicy policyId enabled).2 ∧
      (store.togglePolicy policyId enabled).1 = (shared.togglePolicy policyId enabled).1 := by
  have reads := represents_get represents policyId
  cases found : store.policies.get policyId with
  | none =>
      rw [getPolicy,found] at reads
      simp only [togglePolicy,found,RateLimitPolicies.togglePolicy,reads,Option.map_none]
      exact ⟨represents,trivial⟩
  | some ref =>
      rw [getPolicy,found] at reads
      simp only [togglePolicy,found,RateLimitPolicies.togglePolicy,reads,Option.map_some]
      refine ⟨⟨?_,represents.index⟩,trivial⟩
      apply OrderedMap.ext_get
      · rw [OrderedMap.keys_set _ _ reads,represents.policies,OrderedMap.keys_map,OrderedMap.keys_map]
      · intro key
        rw [OrderedMap.get_set,OrderedMap.get_map,represents_get represents,getPolicy]
        cases present : store.policies.get key with
        | none =>
            have other : key ≠ policyId := by rintro rfl; rw [found] at present; cases present
            simp [other]
        | some stored =>
            by_cases same : key = policyId
            · subst key
              rw [found] at present
              cases present
              simp
            · have other : stored ≠ ref := by
                rintro rfl
                exact same (allocated.single key policyId stored present found)
              simp [same,Function.update_of_ne other]

theorem removePolicy_represents (represents : Represents store shared) (policyId : String) :
    Represents (store.removePolicy policyId).2 (shared.removePolicy policyId).2 ∧
      (store.removePolicy policyId).1 = (shared.removePolicy policyId).1 := by
  have present : shared.policies.has policyId = store.policies.has policyId := by
    rw [OrderedMap.has,represents_get represents,getPolicy,Option.isSome_map,OrderedMap.has]
  unfold removePolicy RateLimitPolicies.removePolicy
  rw [present]
  split
  · refine ⟨rebuild_represents ?_,rfl⟩
    simp only [represents.policies,OrderedMap.map_delete]
  · exact ⟨represents,rfl⟩

theorem updatePolicy_represents (allocated : Allocated store) (represents : Represents store shared) (policyId : String)
    (updates : PolicyUpdates) :
    Represents (store.updatePolicy policyId updates).2 (shared.updatePolicy policyId updates).2 ∧
      (store.updatePolicy policyId updates).1 = (shared.updatePolicy policyId updates).1 := by
  have reads := represents_get represents policyId
  cases found : store.policies.get policyId with
  | none =>
      rw [getPolicy,found] at reads
      simp only [updatePolicy,found,RateLimitPolicies.updatePolicy,reads,Option.map_none]
      exact ⟨represents,trivial⟩
  | some ref =>
      rw [getPolicy,found] at reads
      simp only [updatePolicy,found,RateLimitPolicies.updatePolicy,reads,Option.map_some]
      exact ⟨put_represents allocated represents _ _,trivial⟩

end PolicyObjects

def PolicyEdit.event : PolicyEdit → ManagerEvent
  | .addPolicy policy => .addPolicy policy
  | .updatePolicy policyId updates => .updatePolicy policyId updates
  | .removePolicy policyId => .removePolicy policyId
  | .togglePolicy policyId enabled => .togglePolicy policyId enabled

theorem edit_represents (zone : LocalTime) (store : PolicyObjects) (w : ManagerWorld) (edit : PolicyEdit)
    (related : Allocated store ∧ Represents store w.manager.policies) :
    (Allocated (store.step edit).1 ∧ Represents (store.step edit).1 (w.step zone edit.event).1.manager.policies) ∧
      ManagerReply.edited (store.step edit).2 = (w.step zone edit.event).2 := by
  obtain ⟨allocated,represents⟩ := related
  have kept := PolicyObjects.step_allocated store edit allocated
  cases edit with
  | addPolicy policy =>
      simp only [PolicyObjects.step,PolicyEdit.event,ManagerWorld.step,ManagerWorld.edit,RateLimitManager.addPolicy] at kept ⊢
      split at kept
      · rename_i valid
        simp only [valid,if_true]
        exact ⟨⟨kept,PolicyObjects.put_represents allocated represents _ _⟩,trivial⟩
      · rename_i invalid
        simp only [invalid,if_false]
        exact ⟨⟨kept,represents⟩,trivial⟩
  | updatePolicy policyId updates =>
      obtain ⟨after,same⟩ := PolicyObjects.updatePolicy_represents allocated represents policyId updates
      rw [← RateLimitManager.updatePolicy_policies] at after
      exact ⟨⟨kept,after⟩,congrArg ManagerReply.edited (same.trans (RateLimitManager.afterEdit_success _ _).symm)⟩
  | removePolicy policyId =>
      obtain ⟨after,same⟩ := PolicyObjects.removePolicy_represents represents policyId
      rw [← RateLimitManager.removePolicy_policies] at after
      exact ⟨⟨kept,after⟩,congrArg ManagerReply.edited (same.trans (RateLimitManager.afterEdit_success _ _).symm)⟩
  | togglePolicy policyId enabled =>
      obtain ⟨after,same⟩ := PolicyObjects.togglePolicy_represents allocated represents policyId enabled
      exact ⟨⟨kept,after⟩,congrArg ManagerReply.edited same⟩

theorem create_represents (config : RateLimitManagerConfig) :
    Represents (.create config.policies) (RateLimitManager.create config).policies := by
  have added : ∀ (policies : List RateLimitPolicy) (store : PolicyObjects) (shared : RateLimitPolicies),
      Allocated store → Represents store shared →
      Represents (policies.foldl PolicyObjects.addPolicy store) (policies.foldl RateLimitPolicies.addPolicy shared) := by
    intro policies
    induction policies with
    | nil => exact fun _ _ _ represents => represents
    | cons policy rest ih =>
        intro store shared allocated represents
        exact ih _ _ (PolicyObjects.put_allocated allocated _ _)
          (PolicyObjects.put_represents allocated represents _ _)
  have start := added (defaultPolicies ++ config.policies) ⟨fun _ => createGeneralAPIPolicy,0,.empty,[]⟩ ⟨.empty,[]⟩
    PolicyObjects.empty_allocated ⟨rfl,rfl⟩
  rw [List.foldl_append (f:=RateLimitPolicies.addPolicy)] at start
  exact start

theorem edits_represent (zone : LocalTime) (config : RateLimitManagerConfig) (redis : Redis) (edits : List PolicyEdit) :
    Represents (exec PolicyObjects.step (.create config.policies) edits).1
      (exec (ManagerWorld.step zone) (.start (.create config) redis) (edits.map PolicyEdit.event)).1.manager.policies ∧
    (exec PolicyObjects.step (.create config.policies) edits).2.map ManagerReply.edited =
      (exec (ManagerWorld.step zone) (.start (.create config) redis) (edits.map PolicyEdit.event)).2 := by
  have start : Allocated (.create config.policies) ∧
      Represents (.create config.policies) (ManagerWorld.start (.create config) redis).manager.policies :=
    ⟨PolicyObjects.create_allocated _,create_represents config⟩
  obtain ⟨⟨_,represents⟩,answers⟩ :=
    exec_translated PolicyEdit.event ManagerReply.edited (edit_represents zone) start edits
  exact ⟨represents,answers⟩

-- The promises hold in every state of a run of edits exactly when every update that
-- finds its policy leaves it valid and under its id.
theorem policy_store_exact (custom : List RateLimitPolicy) (edits : List PolicyEdit)
    (valid : ∀ policy ∈ custom, validatePolicy policy = []) :
    Throughout PolicyObjects.step Orderly (.create custom) edits ↔
      Along PolicyObjects.step Careful (.create custom) edits := by
  have allocated := PolicyObjects.create_allocated custom
  have orderly := PolicyObjects.create_orderly custom valid
  exact throughout_exact PolicyObjects.step_allocated PolicyObjects.step_orderly allocated orderly

theorem policy_store_raised_priority :
    Throughout PolicyObjects.step Orderly (.create [])
      [.togglePolicy "emergency-response" true,.updatePolicy "general-api" { priority := some 20 },
        .removePolicy "vip-users"] := by
  apply (policy_store_exact [] _ (by simp)).mpr
  decide +kernel

-- The update is accepted with a priority that no addition may have, and with an id
-- that is not the key.
theorem update_is_not_validated :
    let store : PolicyObjects := (exec PolicyObjects.step (.create [])
      [.updatePolicy "general-api" { priority := some 99, policyId := some "other" }]).1
    (store.getPolicy "general-api").map validatePolicy = some ["Policy priority must be between 0 and 20"] ∧
    (store.getPolicy "general-api").map RateLimitPolicy.policyId = some "other" ∧ ¬ Orderly store := by
  intro store
  have invalid : (store.getPolicy "general-api").map validatePolicy =
      some ["Policy priority must be between 0 and 20"] := by decide +kernel
  refine ⟨invalid,by decide +kernel,fun orderly => ?_⟩
  obtain ⟨policy,found,errors⟩ := Option.map_eq_some_iff.mp invalid
  rw [(orderly.valid _ policy found).1] at errors
  cases errors

end PhantomFlow.RateLimit
