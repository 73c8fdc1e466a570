import PhantomFlow.RateLimit.LimiterRuns
import PhantomFlow.RateLimit.Manager

namespace PhantomFlow.RateLimit
open Library Library.Machine

def emergencyId : String := "emergency-response"

def RateLimitPolicies.governing (store : RateLimitPolicies) (conditions : RequestConditions) : Option String :=
  store.priorityIndex.find? (fun key => (store.policies.get key).any (·.applies conditions))

def RateLimitPolicy.admits (policy : RateLimitPolicy) (conditions : RequestConditions) : Bool :=
  { policy with enabled := true }.applies conditions

theorem applies_admits (policy : RateLimitPolicy) (conditions : RequestConditions) :
    policy.applies conditions = (policy.enabled && policy.admits conditions) := by
  simp [RateLimitPolicy.admits,RateLimitPolicy.applies,Bool.and_assoc]

theorem findApplicable_governing (store : RateLimitPolicies) (conditions : RequestConditions) :
    (store.findApplicablePolicies conditions).head? = (store.governing conditions).bind store.policies.get := by
  unfold RateLimitPolicies.findApplicablePolicies RateLimitPolicies.getPoliciesByPriority RateLimitPolicies.governing
  induction store.priorityIndex with
  | nil => rfl
  | cons key rest ih =>
      cases found : store.policies.get key with
      | none => simp [found,ih]
      | some policy =>
          cases applied : policy.applies conditions with
          | true => simp [found,applied]
          | false => simp [found,applied,ih]

def alarming (request : RateLimitRequest) : Bool :=
  (request.threatScore.map threatLevelOf).any (fun level => decide (level = .high ∨ level = .critical))

def UnderEmergency (zone : LocalTime) (manager : RateLimitManager) (request : RateLimitRequest) : Prop :=
  manager.policies.governing (extractConditions zone request) = some emergencyId ∧
    some (manager.activePolicy zone request) = manager.policies.policies.get emergencyId

-- Its conditions admit the request, and no policy that applies stands before it in
-- the priority order.
def Unimpeded (zone : LocalTime) (manager : RateLimitManager) (request : RateLimitRequest) : Prop :=
  (∀ policy ∈ manager.policies.policies.get emergencyId, policy.admits (extractConditions zone request) = true) ∧
  ∀ key ∈ manager.policies.priorityIndex.takeWhile (fun key => decide (key ≠ emergencyId)),
    ∀ policy ∈ manager.policies.policies.get key, policy.applies (extractConditions zone request) = false

instance (zone : LocalTime) (manager : RateLimitManager) (request : RateLimitRequest) :
    Decidable (Unimpeded zone manager request) :=
  inferInstanceAs (Decidable (_ ∧ _))

def AtAlarms (holds : RateLimitManager → RateLimitRequest → Prop) (w : ManagerWorld) : ManagerEvent → Prop
  | .checkRateLimit _ request => alarming request = true → holds w.manager request
  | _ => True

instance (holds : RateLimitManager → RateLimitRequest → Prop) [∀ manager request, Decidable (holds manager request)]
    (w : ManagerWorld) : (event : ManagerEvent) → Decidable (AtAlarms holds w event)
  | .checkRateLimit _ request => inferInstanceAs (Decidable (alarming request = true → holds w.manager request))
  | .addPolicy _ | .updatePolicy _ _ | .removePolicy _ | .togglePolicy _ _ | .activateEmergencyMode
  | .deactivateEmergencyMode | .performCleanup | .cleanupExpiredEntries _ _ => inferInstanceAs (Decidable True)

def Listed (store : RateLimitPolicies) : Prop := store.priorityIndex.Perm store.policies.keys

structure Alert (store : RateLimitPolicies) : Prop where
  listed : Listed store
  enabled : ∃ policy, store.policies.get emergencyId = some policy ∧ policy.enabled = true

theorem find?_first {p : α → Bool} [DecidableEq α] {keys : List α} {key : α} (member : key ∈ keys) :
    keys.find? p = some key ↔ p key = true ∧ ∀ other ∈ keys.takeWhile (fun k => decide (k ≠ key)), p other = false := by
  induction keys with
  | nil => cases member
  | cons head rest ih =>
      by_cases same : head = key
      · subst head
        cases chosen : p key with
        | true => simp [chosen]
        | false =>
            refine iff_of_false (fun found => ?_) (by simp)
            rw [List.find?_some found] at chosen
            cases chosen
      · have later : key ∈ rest := by
          rcases List.mem_cons.mp member with equal | later
          · exact absurd equal.symm same
          · exact later
        cases chosen : p head with
        | true => simp [chosen,same]
        | false => simpa [chosen,same] using ih later

theorem emergency_listed (alert : Alert store) : emergencyId ∈ store.priorityIndex := by
  obtain ⟨policy,found,_⟩ := alert.enabled
  exact alert.listed.mem_iff.mpr (List.mem_map_of_mem (f:=Prod.fst) ((OrderedMap.get_exact _ _ _).mp found))

theorem underEmergency_exact (alert : Alert manager.policies) (zone : LocalTime) (request : RateLimitRequest) :
    UnderEmergency zone manager request ↔ Unimpeded zone manager request := by
  obtain ⟨policy,found,enabled⟩ := alert.enabled
  have selected : manager.policies.governing (extractConditions zone request) = some emergencyId ↔
      Unimpeded zone manager request := by
    unfold RateLimitPolicies.governing
    rw [find?_first (emergency_listed alert)]
    simp only [Unimpeded,found,Option.any_some,applies_admits policy,enabled,Bool.true_and,Option.mem_some_iff,forall_eq']
    refine and_congr_right (fun _ => forall₂_congr (fun key _ => ?_))
    cases manager.policies.policies.get key <;> simp
  constructor
  · exact fun under => selected.mp under.1
  · intro unimpeded
    have first := selected.mpr unimpeded
    refine ⟨first,?_⟩
    rw [RateLimitManager.activePolicy,findApplicable_governing,first]
    simp [found]

def Standing : ManagerEvent → Prop
  | .addPolicy policy => policy.policyId = emergencyId → policy.enabled = true
  | .updatePolicy policyId updates => policyId = emergencyId → updates.enabled ≠ some false
  | .removePolicy policyId => policyId ≠ emergencyId
  | .togglePolicy policyId enabled => policyId = emergencyId → enabled = true
  | .deactivateEmergencyMode => False
  | .checkRateLimit _ _ | .activateEmergencyMode | .performCleanup | .cleanupExpiredEntries _ _ => True

section Edits
variable {store : RateLimitPolicies}

theorem rebuild_listed (store : RateLimitPolicies) : Listed store.rebuildPriorityIndex :=
  (List.perm_insertionSort _ _).map Prod.fst

theorem alert_set (alert : Alert store) (key : String) (policy : RateLimitPolicy)
    (standing : key = emergencyId → policy.enabled = true) :
    Alert { store with policies := store.policies.set key policy }.rebuildPriorityIndex := by
  refine ⟨rebuild_listed _,?_⟩
  obtain ⟨emergency,found,enabled⟩ := alert.enabled
  by_cases same : emergencyId = key
  · exact ⟨policy,by rw [same]; exact OrderedMap.get_set_self _ _ _,standing same.symm⟩
  · exact ⟨emergency,(OrderedMap.get_set_other _ _ same).trans found,enabled⟩

theorem toggle_listed (listed : Listed store) (key : String) (enabled : Bool) :
    Listed (store.togglePolicy key enabled).2 := by
  unfold RateLimitPolicies.togglePolicy
  cases found : store.policies.get key with
  | none => exact listed
  | some policy =>
      unfold Listed
      dsimp only
      rw [OrderedMap.keys_set _ _ found]
      exact listed

theorem toggle_get (store : RateLimitPolicies) (key other : String) (enabled : Bool) :
    (store.togglePolicy key enabled).2.policies.get other =
      if other = key then (store.policies.get key).map (fun policy => { policy with enabled })
      else store.policies.get other := by
  unfold RateLimitPolicies.togglePolicy
  cases found : store.policies.get key with
  | none =>
      by_cases same : other = key
      · simp [same,found]
      · simp [same]
  | some policy => simp [OrderedMap.get_set]

theorem alert_toggle (alert : Alert store) (key : String) (enabled : Bool) (standing : key = emergencyId → enabled = true) :
    Alert (store.togglePolicy key enabled).2 := by
  refine ⟨toggle_listed alert.listed key enabled,?_⟩
  obtain ⟨emergency,stored,on⟩ := alert.enabled
  rw [toggle_get]
  by_cases same : emergencyId = key
  · exact ⟨{ emergency with enabled },by simp [← same,stored],standing same.symm⟩
  · exact ⟨emergency,by simp [same,stored],on⟩

theorem alert_remove (alert : Alert store) (key : String) (standing : key ≠ emergencyId) :
    Alert (store.removePolicy key).2 := by
  unfold RateLimitPolicies.removePolicy
  split
  · refine ⟨rebuild_listed _,?_⟩
    obtain ⟨emergency,stored,on⟩ := alert.enabled
    refine ⟨emergency,?_,on⟩
    exact (OrderedMap.get_delete _ _ _).trans ((if_neg (Ne.symm standing)).trans stored)
  · exact alert

theorem alert_update (alert : Alert store) (key : String) (updates : PolicyUpdates)
    (standing : key = emergencyId → updates.enabled ≠ some false) : Alert (store.updatePolicy key updates).2 := by
  unfold RateLimitPolicies.updatePolicy
  cases found : store.policies.get key with
  | none => exact alert
  | some policy =>
      apply alert_set alert
      intro same
      obtain ⟨emergency,stored,on⟩ := alert.enabled
      rw [same,stored] at found
      cases found
      have kept := standing same
      cases given : updates.enabled with
      | none => simp [RateLimitPolicy.update,given,on]
      | some flag =>
          cases flag with
          | true => simp [RateLimitPolicy.update,given]
          | false => exact absurd given kept

end Edits

theorem step_policies (zone : LocalTime) (w : ManagerWorld) (event : ManagerEvent) :
    (w.step zone event).1.manager.policies = match event with
      | .addPolicy policy =>
        if validatePolicy policy = [] then w.manager.policies.addPolicy policy else w.manager.policies
      | .updatePolicy policyId updates => (w.manager.policies.updatePolicy policyId updates).2
      | .removePolicy policyId => (w.manager.policies.removePolicy policyId).2
      | .togglePolicy policyId enabled => (w.manager.policies.togglePolicy policyId enabled).2
      | .activateEmergencyMode => (w.manager.policies.togglePolicy emergencyId true).2
      | .deactivateEmergencyMode => (w.manager.policies.togglePolicy emergencyId false).2
      | .checkRateLimit _ _ | .performCleanup | .cleanupExpiredEntries _ _ => w.manager.policies := by
  cases event with
  | checkRateLimit now request => rfl
  | addPolicy policy =>
      simp only [ManagerWorld.step,ManagerWorld.edit,RateLimitManager.addPolicy]
      split <;> rfl
  | updatePolicy policyId updates => exact RateLimitManager.updatePolicy_policies _ _ _
  | removePolicy policyId => exact RateLimitManager.removePolicy_policies _ _
  | togglePolicy policyId enabled => rfl
  | activateEmergencyMode => rfl
  | deactivateEmergencyMode => rfl
  | performCleanup => rfl
  | cleanupExpiredEntries key now =>
      simp only [ManagerWorld.step,RateLimitManager.cleanupExpiredEntries]
      split <;> rfl

theorem step_listed (zone : LocalTime) (w : ManagerWorld) (event : ManagerEvent)
    (listed : Listed w.manager.policies) : Listed (w.step zone event).1.manager.policies := by
  rw [step_policies]
  cases event with
  | addPolicy policy =>
      dsimp only
      split
      · exact rebuild_listed _
      · exact listed
  | updatePolicy policyId updates =>
      dsimp only [RateLimitPolicies.updatePolicy]
      split
      · exact listed
      · exact rebuild_listed _
  | removePolicy policyId =>
      dsimp only [RateLimitPolicies.removePolicy]
      split
      · exact rebuild_listed _
      · exact listed
  | togglePolicy policyId enabled => exact toggle_listed listed policyId enabled
  | activateEmergencyMode => exact toggle_listed listed emergencyId true
  | deactivateEmergencyMode => exact toggle_listed listed emergencyId false
  | checkRateLimit now request => exact listed
  | performCleanup => exact listed
  | cleanupExpiredEntries key now => exact listed

theorem step_alert (zone : LocalTime) (w : ManagerWorld) (event : ManagerEvent) (alert : Alert w.manager.policies)
    (standing : Standing event) : Alert (w.step zone event).1.manager.policies := by
  rw [step_policies]
  cases event with
  | addPolicy policy =>
      dsimp only
      split
      · exact alert_set alert policy.policyId policy standing
      · exact alert
  | updatePolicy policyId updates => exact alert_update alert policyId updates standing
  | removePolicy policyId => exact alert_remove alert policyId standing
  | togglePolicy policyId enabled => exact alert_toggle alert policyId enabled standing
  | activateEmergencyMode => exact alert_toggle alert emergencyId true (fun _ => rfl)
  | deactivateEmergencyMode => exact standing.elim
  | checkRateLimit now request => exact alert
  | performCleanup => exact alert
  | cleanupExpiredEntries key now => exact alert

theorem create_listed (config : RateLimitManagerConfig) : Listed (RateLimitManager.create config).policies := by
  have added : ∀ (policies : List RateLimitPolicy) (store : RateLimitPolicies), Listed store →
      Listed (policies.foldl RateLimitPolicies.addPolicy store) := fun policies _ listed =>
    List.foldlRecOn policies RateLimitPolicies.addPolicy listed (fun _ _ _ _ => rebuild_listed _)
  exact added config.policies _ (added defaultPolicies _ .nil)

def activated (zone : LocalTime) (config : RateLimitManagerConfig) (redis : Redis) (history : List ManagerEvent) :
    ManagerWorld :=
  (exec (ManagerWorld.step zone) (.start (.create config) redis) (history ++ [.activateEmergencyMode])).1

theorem activated_alert (zone : LocalTime) (config : RateLimitManagerConfig) (redis : Redis) (history : List ManagerEvent)
    (stored : (exec (ManagerWorld.step zone) (.start (.create config) redis) history).1.manager.policies.policies.has
      emergencyId = true) : Alert (activated zone config redis history).manager.policies := by
  have listed := @exec_invariant _ _ _ (ManagerWorld.step zone) (.start (.create config) redis)
    (fun w => Listed w.manager.policies) (step_listed zone) (create_listed config) history
  obtain ⟨policy,found⟩ := Option.isSome_iff_exists.mp stored
  rw [activated,exec_snoc]
  refine ⟨step_listed zone _ _ listed,{ policy with enabled := true },?_,rfl⟩
  rw [step_policies]
  dsimp only
  rw [toggle_get,if_pos rfl,found]
  rfl

def KeepsConditions : ManagerEvent → Prop
  | .addPolicy policy => policy.policyId ≠ emergencyId
  | .updatePolicy policyId updates => policyId = emergencyId → updates.conditions = none
  | _ => True

-- The emergency policy asks for a time pattern that no clock time has.
def Shipped (store : RateLimitPolicies) : Prop :=
  ∀ policy ∈ store.policies.get emergencyId, policy.conditions.timePatterns = some [.emergency]

theorem getTimePattern_ne_emergency (zone : LocalTime) (timestamp : ℤ) : getTimePattern zone timestamp ≠ .emergency := by
  unfold getTimePattern
  dsimp only
  split
  · simp
  · split <;> simp

theorem shipped_impeded (shipped : Shipped manager.policies) (alert : Alert manager.policies) (zone : LocalTime)
    (request : RateLimitRequest) : ¬ Unimpeded zone manager request := by
  intro unimpeded
  obtain ⟨policy,found,_⟩ := alert.enabled
  have admitted := unimpeded.1 policy found
  have patterns := shipped policy found
  have never := getTimePattern_ne_emergency zone request.timestamp
  simp [RateLimitPolicy.admits,RateLimitPolicy.applies,extractConditions,listed,patterns,never] at admitted

theorem toggle_shipped (shipped : Shipped store) (key : String) (enabled : Bool) :
    Shipped (store.togglePolicy key enabled).2 := by
  intro policy found
  rw [Option.mem_def,toggle_get] at found
  split at found
  · rename_i same
    obtain ⟨before,stored,rfl⟩ := Option.map_eq_some_iff.mp found
    rw [← same] at stored
    exact shipped before stored
  · exact shipped policy found

theorem step_shipped (zone : LocalTime) (w : ManagerWorld) (event : ManagerEvent) (shipped : Shipped w.manager.policies)
    (keeps : KeepsConditions event) : Shipped (w.step zone event).1.manager.policies := by
  rw [step_policies]
  cases event with
  | addPolicy added =>
      dsimp only
      split
      · intro policy found
        exact shipped policy ((OrderedMap.get_set_other _ _ (Ne.symm keeps)).symm.trans found)
      · exact shipped
  | updatePolicy policyId updates =>
      dsimp only [RateLimitPolicies.updatePolicy]
      split
      · exact shipped
      · rename_i before stored
        intro policy found
        by_cases same : emergencyId = policyId
        · subst policyId
          have written : before.update updates = policy :=
            Option.some.inj ((OrderedMap.get_set_self _ _ _).symm.trans found)
          rw [← written,RateLimitPolicy.update,keeps rfl]
          exact shipped before stored
        · exact shipped policy ((OrderedMap.get_set_other _ _ same).symm.trans found)
  | removePolicy policyId =>
      dsimp only [RateLimitPolicies.removePolicy]
      split
      · intro policy found
        exact shipped policy (OrderedMap.get_filter_some found)
      · exact shipped
  | togglePolicy policyId enabled => exact toggle_shipped shipped policyId enabled
  | activateEmergencyMode => exact toggle_shipped shipped emergencyId true
  | deactivateEmergencyMode => exact toggle_shipped shipped emergencyId false
  | checkRateLimit now request => exact shipped
  | performCleanup => exact shipped
  | cleanupExpiredEntries key now => exact shipped

section Alarms
variable {zone : LocalTime} {w : ManagerWorld}

theorem atAlarms_exact (event : ManagerEvent) (alert : Alert w.manager.policies) :
    AtAlarms (UnderEmergency zone) w event ↔ AtAlarms (Unimpeded zone) w event := by
  cases event with
  | checkRateLimit now request => exact imp_congr_right (fun _ => underEmergency_exact alert zone request)
  | _ => exact Iff.rfl

theorem atAlarms_shipped (event : ManagerEvent) (alert : Alert w.manager.policies) (shipped : Shipped w.manager.policies) :
    AtAlarms (fun manager request => ¬ UnderEmergency zone manager request) w event := by
  cases event with
  | checkRateLimit now request =>
      intro _ under
      exact shipped_impeded shipped alert zone request ((underEmergency_exact alert zone request).mp under)
  | _ => trivial

end Alarms

-- While emergency mode stands, every high or critical check is made under the
-- emergency policy exactly when nothing impedes it; with the conditions it ships
-- with, none is.
theorem emergency_mode_exact (zone : LocalTime) (config : RateLimitManagerConfig) (redis : Redis)
    (history later : List ManagerEvent)
    (stored : (exec (ManagerWorld.step zone) (.start (.create config) redis) history).1.manager.policies.policies.has
      emergencyId = true) (standing : ∀ event ∈ later, Standing event) :
    (Along (ManagerWorld.step zone) (AtAlarms (UnderEmergency zone)) (activated zone config redis history) later ↔
      Along (ManagerWorld.step zone) (AtAlarms (Unimpeded zone)) (activated zone config redis history) later) ∧
    (Shipped (activated zone config redis history).manager.policies → (∀ event ∈ later, KeepsConditions event) →
      Along (ManagerWorld.step zone) (AtAlarms (fun manager request => ¬ UnderEmergency zone manager request))
        (activated zone config redis history) later) := by
  have alert := activated_alert zone config redis history stored
  constructor
  · exact along_exact (step_alert zone) (fun w event held => atAlarms_exact event held) alert standing
  · intro shipped keeps
    have preserved : ∀ (w : ManagerWorld) (event : ManagerEvent),
        Alert w.manager.policies ∧ Shipped w.manager.policies → Standing event ∧ KeepsConditions event →
        Alert (w.step zone event).1.manager.policies ∧ Shipped (w.step zone event).1.manager.policies := by
      rintro w event ⟨held,kept⟩ ⟨stands,unedited⟩
      exact ⟨step_alert zone w event held stands,step_shipped zone w event kept unedited⟩
    exact along_of_valid preserved (fun w event both => atAlarms_shipped event both.1 both.2) ⟨alert,shipped⟩
      (fun event member => ⟨standing event member,keeps event member⟩)

def plainConfig : RateLimitManagerConfig := ⟨createGeneralAPIPolicy,[],[],[]⟩
def attack : RateLimitRequest := ⟨"client","/api/data","GET","127.0.0.1",none,none,some (9/10),0⟩

theorem emergency_mode_edited :
    Along (ManagerWorld.step noon) (AtAlarms (UnderEmergency noon))
      (activated noon plainConfig .empty
        [.updatePolicy emergencyId { conditions := some { threatLevels := some [.high,.critical] } }])
      [.checkRateLimit 0 attack,.performCleanup,.checkRateLimit 1 attack] := by
  apply (emergency_mode_exact noon plainConfig .empty _ _ (by decide +kernel) (by simp [Standing])).1.mpr
  decide +kernel

-- Activated at noon on a weekday, no stored policy governs the attack.
theorem emergency_never_selected :
    let w := activated noon plainConfig .empty []
    (w.manager.policies.policies.get emergencyId).map RateLimitPolicy.enabled = some true ∧
    alarming attack = true ∧ w.manager.policies.governing (extractConditions noon attack) = none ∧
    ¬ UnderEmergency noon w.manager attack := by
  intro w
  have none' : w.manager.policies.governing (extractConditions noon attack) = none := by decide +kernel
  refine ⟨by decide +kernel,by decide +kernel,none',fun under => ?_⟩
  rw [under.1] at none'
  cases none'

end PhantomFlow.RateLimit
