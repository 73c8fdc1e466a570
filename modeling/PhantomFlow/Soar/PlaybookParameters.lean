import PhantomFlow.Soar.PlaybookBandit
import PhantomFlow.Soar.PlaybookTemplates

namespace PhantomFlow.Soar
open Library

structure ParamStep extends PlaybookActionStep where
  params : Params

structure ParamPlaybook where
  id : String
  name : String
  steps : List ParamStep
  rollback : Option (List ParamStep) := none

def ParamPlaybook.schema (playbook : ParamPlaybook) : PlaybookSchema where
  id := playbook.id
  name := playbook.name
  steps := playbook.steps.map ParamStep.toPlaybookActionStep
  rollback := playbook.rollback.map (fun steps => steps.map ParamStep.toPlaybookActionStep)

def ParamPlaybook.rollbackSteps (playbook : ParamPlaybook) : List ParamStep := playbook.rollback.getD []

structure Invocation where
  type : PlaybookActionType
  params : Params
deriving DecidableEq

def PlaybookActionType.supported : PlaybookActionType → Bool
  | .other _ => false
  | _ => true

-- The systems that the actions and the audit log write to.
structure Connectors where
  action : ℕ → ℕ → Invocation → Except Thrown String
  audit : ℕ → ℕ → Except Thrown Unit
  rollback : ℕ → Invocation → Except Thrown String

-- Everything that happened outside, in order, an action with what its system was called
-- with, if it was called. The audit log gets the parameters as the playbook has them.
inductive Call where
  | acted (step attempt : ℕ) (invocation : Option Invocation) (succeeded : Bool)
  | audited (step : ℕ) (entry : AuditEntry) (params : Params) (succeeded : Bool)
  | rolledBack (step : ℕ) (invocation : Option Invocation) (succeeded : Bool)
deriving DecidableEq

namespace Call

def event : Call → Event
  | .acted step attempt _ succeeded => .acted step attempt succeeded
  | .audited step entry _ succeeded => .audited step entry succeeded
  | .rolledBack step _ succeeded => .rolledBack step succeeded

def acts : Call → Bool
  | .audited _ _ _ _ => false
  | _ => true

def invocation : Call → Option Invocation
  | .acted _ _ invocation _ | .rolledBack _ invocation _ => invocation
  | .audited _ _ _ _ => none

def step (playbook : ParamPlaybook) : Call → Option ParamStep
  | .acted index _ _ _ => playbook.steps[index]?
  | .audited _ _ _ _ => none
  | .rolledBack index _ _ => playbook.rollbackSteps[index]?

end Call

-- The executor with the parameters of its steps.
namespace Resolved

def invoke (system : Invocation → Except Thrown String) (invocation : Invocation) :
    Option Invocation × Except Thrown String :=
  (some invocation,system invocation)

section Execution
variable (inherited : String → ContextValue) (context : ExecutionContext)

-- The parameters are resolved before the type is looked at.
def executeAction (step : ParamStep) (system : Invocation → Except Thrown String) :
    Option Invocation × Except Thrown String :=
  match resolveParams inherited context step.params with
  | .error thrown => (none,.error thrown)
  | .ok params =>
    match step.type with
    | .other name => (none,.error (.error ("Unsupported action type: " ++ name)))
    | type => invoke system ⟨type,params⟩

variable (connectors : Connectors) (playbookId : String) (operator : Operator)

def retryLoop (index : ℕ) (step : ParamStep) : ℕ → ℕ → Option Thrown → List Call × Except Thrown Unit
  | _,0,lastError => ([],.error (thrownAtLast lastError))
  | attempt,remaining + 1,_ =>
    match executeAction inherited context step (connectors.action index attempt) with
    | (invocation,.error thrown) =>
      let rest := retryLoop index step (attempt + 1) remaining (some thrown)
      (.acted index attempt invocation false :: rest.1,rest.2)
    | (invocation,.ok detail) =>
      let entry := auditEntry playbookId operator step.toPlaybookActionStep attempt detail
      match connectors.audit index attempt with
      | .ok () => ([.acted index attempt invocation true,.audited index entry step.params true],.ok ())
      | .error thrown =>
        let rest := retryLoop index step (attempt + 1) remaining (some thrown)
        (.acted index attempt invocation true :: .audited index entry step.params false :: rest.1,rest.2)

def executeWithRetry (index : ℕ) (step : ParamStep) : List Call × Except Thrown Unit :=
  retryLoop inherited context connectors playbookId operator index step 1 (attempts step.toPlaybookActionStep) none

structure Progress where
  calls : List Call
  stepsExecuted : List String
  thrown : Option Thrown

def runSteps (index : ℕ) (stepsExecuted : List String) : List ParamStep → Progress
  | [] => ⟨[],stepsExecuted,none⟩
  | step :: rest =>
    match executeWithRetry inherited context connectors playbookId operator index step with
    | (calls,.ok ()) =>
      let later := runSteps (index + 1) (stepsExecuted ++ [step.id]) rest
      { later with calls := calls ++ later.calls }
    | (calls,.error thrown) => ⟨calls,stepsExecuted,some thrown⟩

def runRollback (steps : List ParamStep) : List Call :=
  steps.mapIdx (fun index step =>
    let tried := executeAction inherited context step (connectors.rollback index)
    .rolledBack index tried.1 tried.2.isOk)

def execute (playbook : ParamPlaybook) : List Call × Except Thrown PlaybookExecutionResult :=
  match validatePlaybook playbook.schema with
  | .error thrown => ([],.error thrown)
  | .ok () =>
    let progress := runSteps inherited context connectors playbook.id operator 0 [] playbook.steps
    match progress.thrown with
    | none =>
      (progress.calls,.ok { success := true, playbookId := playbook.id, stepsExecuted := progress.stepsExecuted })
    | some thrown =>
      (progress.calls ++ runRollback inherited context connectors playbook.rollbackSteps,
        .ok {
          success := false
          playbookId := playbook.id
          stepsExecuted := progress.stepsExecuted
          failedStep := (playbook.steps[progress.stepsExecuted.length]?).map (fun step => step.id)
          error := some (messageOf thrown) })

end Execution
end Resolved

-- Every string among a step's parameters with each placeholder replaced by what the
-- context has under its key, by nothing where it has nothing; the others as they are.
structure ParametersResolved (inherited : String → ContextValue) (context : ExecutionContext) (step : ParamStep)
    (invocation : Invocation) : Prop where
  type : invocation.type = step.type
  names : ∀ name, (invocation.params.get name).isSome ↔ name ≠ "__proto__" ∧ (step.params.get name).isSome
  texts : ∀ name s, name ≠ "__proto__" → step.params.get name = some (.text s) →
    ∃ pieces text, Reads s.toList pieces ∧ rendered inherited context pieces = .ok text ∧
      invocation.params.get name = some (.text (String.ofList text))
  others : ∀ name json, name ≠ "__proto__" → step.params.get name = some (.other json) →
    invocation.params.get name = some (.other json)

def Printable (inherited : String → ContextValue) (context : ExecutionContext) (step : ParamStep) : Prop :=
  ∀ name s, step.params.get name = some (.text s) → ∀ pieces, Reads s.toList pieces →
    ∀ key, .placeholder key ∈ pieces → ∀ thrown, readKey inherited context (String.ofList key) ≠ .throws thrown

section Actions
variable {inherited : String → ContextValue} {context : ExecutionContext} {step : ParamStep}

theorem resolveParams_resolved (resolved : resolveParams inherited context step.params = .ok params) :
    ParametersResolved inherited context step ⟨step.type,params⟩ where
  type := rfl
  names := by
    intro name
    by_cases proto : name = "__proto__"
    · subst name
      rw [resolveEntries_proto resolved]
      exact ⟨fun never => absurd never Bool.false_ne_true,fun both => absurd rfl both.1⟩
    · obtain ⟨present,absent⟩ := resolveEntries_get step.params.distinct resolved proto
      cases found : step.params.get name with
      | none =>
          rw [absent found]
          exact ⟨fun never => absurd never Bool.false_ne_true,fun both => absurd both.2 Bool.false_ne_true⟩
      | some value =>
          obtain ⟨interpolated,_,here⟩ := present value found
          rw [here]
          exact ⟨fun _ => ⟨proto,rfl⟩,fun _ => rfl⟩
  texts := by
    intro name s other found
    obtain ⟨interpolated,done,here⟩ := (resolveEntries_get step.params.distinct resolved other).1 _ found
    obtain ⟨pieces,reads⟩ := reads_exists s.toList
    rw [interpolate,replaceFrom_reads inherited context reads] at done
    cases texts : rendered inherited context pieces with
    | error thrown => rw [texts] at done; cases done
    | ok text =>
        rw [texts] at done
        cases done
        exact ⟨pieces,text,reads,texts,here⟩
  others := by
    intro name json other found
    obtain ⟨interpolated,done,here⟩ := (resolveEntries_get step.params.distinct resolved other).1 _ found
    cases done
    exact here

theorem piece_isOk (piece : Piece) : (piece.rendered inherited context).isOk = true ↔
    ∀ key, piece = .placeholder key → ∀ thrown, readKey inherited context (String.ofList key) ≠ .throws thrown := by
  cases piece with
  | literal c => exact ⟨fun _ key same => (by cases same),fun _ => rfl⟩
  | placeholder key =>
      rw [Piece.rendered,replacement]
      cases read : readKey inherited context (String.ofList key) with
      | nothing => exact ⟨fun _ key' same thrown throws => (by cases same; cases read.symm.trans throws),fun _ => rfl⟩
      | text s => exact ⟨fun _ key' same thrown throws => (by cases same; cases read.symm.trans throws),fun _ => rfl⟩
      | throws thrown => exact ⟨fun never => absurd never Bool.false_ne_true,fun none => absurd read (none key rfl thrown)⟩

theorem interpolate_isOk (s : String) : (interpolate inherited context (.text s)).isOk = true ↔
    ∀ pieces, Reads s.toList pieces → ∀ key, .placeholder key ∈ pieces →
      ∀ thrown, readKey inherited context (String.ofList key) ≠ .throws thrown := by
  have same {pieces : List Piece} (reads : Reads s.toList pieces) : (interpolate inherited context (.text s)).isOk = true ↔
      ∀ key, .placeholder key ∈ pieces → ∀ thrown, readKey inherited context (String.ofList key) ≠ .throws thrown := by
    have mapped : (interpolate inherited context (.text s)).isOk = (rendered inherited context pieces).isOk := by
      rw [interpolate,replaceFrom_reads inherited context reads]
      cases rendered inherited context pieces <;> rfl
    rw [mapped,rendered_isOk]
    constructor
    · intro all key member
      exact (piece_isOk _).mp (all _ member) key rfl
    · intro all piece member
      refine (piece_isOk piece).mpr ?_
      rintro key rfl
      exact all key member
  constructor
  · intro printable pieces reads
    exact (same reads).mp printable
  · intro all
    obtain ⟨pieces,reads⟩ := reads_exists s.toList
    exact (same reads).mpr (all pieces reads)

theorem resolveParams_isOk : (resolveParams inherited context step.params).isOk = true ↔
    Printable inherited context step := by
  rw [resolveParams,resolveEntries_isOk]
  constructor
  · intro all name s found
    exact (interpolate_isOk s).mp (all (name,.text s) ((OrderedMap.get_exact _ _ _).mp found))
  · rintro printable ⟨name,value⟩ member
    cases value with
    | text s => exact (interpolate_isOk s).mpr (printable name s ((OrderedMap.get_exact _ _ _).mpr member))
    | other json => rfl

-- An action is invoked with resolved parameters or not at all, and it is invoked where
-- its type is supported and they have a text.
structure Tried (inherited : String → ContextValue) (context : ExecutionContext) (step : ParamStep)
    (invocation : Option Invocation) : Prop where
  resolved : ∀ invoked, invocation = some invoked → ParametersResolved inherited context step invoked
  invokes : invocation.isSome = true ↔ step.type.supported = true ∧ Printable inherited context step

theorem executeAction_tried (step : ParamStep) (system : Invocation → Except Thrown String) :
    Tried inherited context step (Resolved.executeAction inherited context step system).1 := by
  generalize attempted : Resolved.executeAction inherited context step system = tried
  suffices both : (∀ invoked, tried.1 = some invoked → ParametersResolved inherited context step invoked) ∧
      (tried.1.isSome = true ↔ step.type.supported = true ∧ (resolveParams inherited context step.params).isOk = true) by
    rw [resolveParams_isOk] at both
    exact ⟨both.1,both.2⟩
  subst attempted
  cases resolved : resolveParams inherited context step.params with
  | error thrown =>
      simp only [Resolved.executeAction,resolved]
      exact ⟨fun _ none => (by cases none),
        fun never => absurd never Bool.false_ne_true,fun both => absurd both.2 Bool.false_ne_true⟩
  | ok params =>
      have all := resolveParams_resolved resolved
      cases type : step.type with
      | other name =>
          simp only [Resolved.executeAction,resolved,type]
          exact ⟨fun _ none => (by cases none),
            fun never => absurd never Bool.false_ne_true,fun both => absurd both.1 Bool.false_ne_true⟩
      | firewall | edr | iam | notify =>
          rw [type] at all
          simp only [Resolved.executeAction,resolved,type,Resolved.invoke]
          refine ⟨?_,fun _ => ⟨rfl,rfl⟩,fun _ => rfl⟩
          rintro _ ⟨rfl⟩
          exact all

end Actions

namespace Resolved
variable (inherited : String → ContextValue) (context : ExecutionContext) (connectors : Connectors)
  (playbookId : String) (operator : Operator)

theorem retryLoop_tried (step : ParamStep) (index attempt remaining : ℕ) (lastError : Option Thrown) :
    ∀ call ∈ (retryLoop inherited context connectors playbookId operator index step attempt remaining lastError).1,
      call.acts = true → ∃ a invocation succeeded, call = .acted index a invocation succeeded ∧
        Tried inherited context step invocation := by
  induction remaining generalizing attempt lastError with
  | zero =>
      intro call member
      cases member
  | succ remaining ih =>
      have tried : Tried inherited context step
        (executeAction inherited context step (connectors.action index attempt)).1 := executeAction_tried _ _
      intro call member acts
      rw [retryLoop] at member
      split at member
      · rename_i invocation thrown failed
        rw [failed] at tried
        rcases List.mem_cons.mp member with rfl | others
        · exact ⟨attempt,invocation,false,rfl,tried⟩
        · exact ih _ _ call others acts
      · rename_i invocation detail passed
        rw [passed] at tried
        split at member
        · rcases List.mem_cons.mp member with rfl | others
          · exact ⟨attempt,invocation,true,rfl,tried⟩
          · rw [List.mem_singleton.mp others] at acts
            cases acts
        · rcases List.mem_cons.mp member with rfl | others
          · exact ⟨attempt,invocation,true,rfl,tried⟩
          · rcases List.mem_cons.mp others with rfl | later
            · cases acts
            · exact ih _ _ call later acts

theorem runSteps_tried (steps : List ParamStep) (index : ℕ) (done : List String) :
    ∀ call ∈ (runSteps inherited context connectors playbookId operator index done steps).calls, call.acts = true →
      ∃ k step a invocation succeeded, steps[k]? = some step ∧ call = .acted (index + k) a invocation succeeded ∧
        Tried inherited context step invocation := by
  induction steps generalizing index done with
  | nil =>
      intro call member
      cases member
  | cons step rest ih =>
      have own := retryLoop_tried inherited context connectors playbookId operator step index 1
        (attempts step.toPlaybookActionStep) none
      intro call member acts
      rw [runSteps,executeWithRetry] at member
      split at member
      · rename_i calls passed
        rw [passed] at own
        rcases List.mem_append.mp member with first | later
        · obtain ⟨a,invocation,succeeded,same,tried⟩ := own call first acts
          exact ⟨0,step,a,invocation,succeeded,rfl,same,tried⟩
        · obtain ⟨k,step',a,invocation,succeeded,inside,same,tried⟩ := ih (index + 1) _ call later acts
          refine ⟨k + 1,step',a,invocation,succeeded,inside,?_,tried⟩
          rw [same,Nat.add_assoc,Nat.add_comm 1 k]
      · rename_i calls thrown failed
        rw [failed] at own
        obtain ⟨a,invocation,succeeded,same,tried⟩ := own call member acts
        exact ⟨0,step,a,invocation,succeeded,rfl,same,tried⟩

theorem runRollback_tried (steps : List ParamStep) : ∀ call ∈ runRollback inherited context connectors steps,
    ∃ k step invocation succeeded, steps[k]? = some step ∧ call = .rolledBack k invocation succeeded ∧
      Tried inherited context step invocation := by
  intro call member
  obtain ⟨k,inside,rfl⟩ := List.mem_mapIdx.mp member
  exact ⟨k,steps[k],_,_,List.getElem?_eq_getElem inside,rfl,executeAction_tried _ _⟩

theorem execute_tried (playbook : ParamPlaybook) :
    ∀ call ∈ (execute inherited context connectors operator playbook).1, call.acts = true →
      ∃ step ∈ playbook.steps ++ playbook.rollbackSteps, call.step playbook = some step ∧
        Tried inherited context step call.invocation := by
  intro call member acts
  have stepped : call ∈ (runSteps inherited context connectors playbook.id operator 0 [] playbook.steps).calls →
      ∃ step ∈ playbook.steps ++ playbook.rollbackSteps, call.step playbook = some step ∧
        Tried inherited context step call.invocation := by
    intro here
    obtain ⟨k,step,a,invocation,succeeded,inside,rfl,tried⟩ :=
      runSteps_tried inherited context connectors playbook.id operator playbook.steps 0 [] call here acts
    rw [Nat.zero_add]
    exact ⟨step,List.mem_append_left _ (List.mem_of_getElem? inside),inside,tried⟩
  unfold execute at member
  split at member
  · cases member
  · dsimp only at member
    split at member
    · exact stepped member
    · rcases List.mem_append.mp member with first | later
      · exact stepped first
      · obtain ⟨k,step,invocation,succeeded,inside,rfl,tried⟩ :=
          runRollback_tried inherited context connectors playbook.rollbackSteps call later
        exact ⟨step,List.mem_append_right _ (List.mem_of_getElem? inside),inside,tried⟩

-- Without its parameters a run is a run of the executor.
def outcomes (playbook : ParamPlaybook) : Outcomes where
  action index attempt :=
    match playbook.steps[index]? with
    | some step => (executeAction inherited context step (connectors.action index attempt)).2
    | none => .error .value
  audit := connectors.audit
  rollback index :=
    match playbook.rollbackSteps[index]? with
    | some step => (executeAction inherited context step (connectors.rollback index)).2
    | none => .error .value

section Erased
variable {outcomes : Outcomes} {step : ParamStep}

-- Only the error may differ: a value without a text is met before the type is.
theorem executeAction_erased (step : ParamStep) (system : Invocation → Except Thrown String) :
    (Soar.executeAction step.toPlaybookActionStep (executeAction inherited context step system).2).toOption =
      (executeAction inherited context step system).2.toOption := by
  unfold executeAction
  cases resolveParams inherited context step.params with
  | error thrown => cases type : step.type <;> simp [Soar.executeAction,type,Except.toOption]
  | ok params => cases type : step.type <;> simp [Soar.executeAction,type,Except.toOption]

theorem retryLoop_erased (answers : ∀ a, outcomes.action index a =
      (executeAction inherited context step (connectors.action index a)).2)
    (audits : outcomes.audit = connectors.audit) (attempt remaining : ℕ) (lastError lastError' : Option Thrown) :
    let tried := retryLoop inherited context connectors playbookId operator index step attempt remaining lastError
    let tried' := Soar.retryLoop outcomes playbookId operator index step.toPlaybookActionStep attempt remaining lastError'
    tried.1.map Call.event = tried'.1 ∧ tried.2.isOk = tried'.2.isOk := by
  induction remaining generalizing attempt lastError lastError' with
  | zero => exact ⟨rfl,rfl⟩
  | succ remaining ih =>
      have same := executeAction_erased inherited context step (connectors.action index attempt)
      rw [← answers] at same
      rw [retryLoop,Soar.retryLoop,audits]
      cases acted : executeAction inherited context step (connectors.action index attempt) with
      | mk invocation outcome =>
          rw [answers,acted] at same
          rw [answers,acted]
          cases outcome with
          | error thrown =>
              cases acted' : Soar.executeAction step.toPlaybookActionStep (.error thrown) with
              | ok detail => rw [acted'] at same; cases same
              | error thrown' =>
                  obtain ⟨calls,ended⟩ := ih (attempt + 1) (some thrown) (some thrown')
                  exact ⟨congrArg (List.cons _) calls,ended⟩
          | ok detail =>
              cases acted' : Soar.executeAction step.toPlaybookActionStep (.ok detail) with
              | error thrown' => rw [acted'] at same; cases same
              | ok detail' =>
                  rw [acted'] at same
                  cases same
                  cases connectors.audit index attempt with
                  | ok done => exact ⟨rfl,rfl⟩
                  | error thrown =>
                      obtain ⟨calls,ended⟩ := ih (attempt + 1) (some thrown) (some thrown)
                      exact ⟨congrArg (List.cons _) (congrArg (List.cons _) calls),ended⟩

theorem runSteps_erased (steps : List ParamStep) (index : ℕ) (done : List String)
    (answers : ∀ k step, steps[k]? = some step → ∀ a, outcomes.action (index + k) a =
      (executeAction inherited context step (connectors.action (index + k) a)).2)
    (audits : outcomes.audit = connectors.audit) :
    let progress := runSteps inherited context connectors playbookId operator index done steps
    let progress' := Soar.runSteps outcomes playbookId operator index done (steps.map ParamStep.toPlaybookActionStep)
    progress.calls.map Call.event = progress'.events ∧ progress.stepsExecuted = progress'.stepsExecuted ∧
      progress.thrown.isSome = progress'.thrown.isSome := by
  induction steps generalizing index done with
  | nil => exact ⟨rfl,rfl,rfl⟩
  | cons step rest ih =>
      obtain ⟨calls,ended⟩ := retryLoop_erased inherited context connectors playbookId operator
        (answers 0 step rfl) audits 1 (attempts step.toPlaybookActionStep) none none
      obtain ⟨later,executed,thrown⟩ := ih (index + 1) (done ++ [step.id]) (by
        intro k step' inside a
        have there := answers (k + 1) step' inside a
        rwa [← Nat.add_assoc,Nat.add_right_comm] at there)
      rw [List.map_cons,runSteps,Soar.runSteps,executeWithRetry,Soar.executeWithRetry]
      cases tried : retryLoop inherited context connectors playbookId operator index step 1
          (attempts step.toPlaybookActionStep) none with
      | mk made outcome =>
          cases tried' : Soar.retryLoop outcomes playbookId operator index step.toPlaybookActionStep 1
              (attempts step.toPlaybookActionStep) none with
          | mk made' outcome' =>
              rw [Nat.add_zero,tried,tried'] at calls ended
              cases outcome with
              | ok _ =>
                  cases outcome' with
                  | error _ => cases ended
                  | ok _ =>
                      refine ⟨?_,executed,thrown⟩
                      simp only [List.map_append,calls,later]
              | error _ =>
                  cases outcome' with
                  | ok _ => cases ended
                  | error _ => exact ⟨calls,rfl,rfl⟩

theorem runRollback_erased (steps : List ParamStep) (answers : ∀ k step, steps[k]? = some step → outcomes.rollback k =
      (executeAction inherited context step (connectors.rollback k)).2) :
    (runRollback inherited context connectors steps).map Call.event =
      Soar.runRollback outcomes (steps.map ParamStep.toPlaybookActionStep) := by
  apply List.ext_getElem
  · simp [runRollback,Soar.runRollback]
  · intro k inside _
    have bound : k < steps.length := by simpa [runRollback] using inside
    have same := executeAction_erased inherited context steps[k] (connectors.rollback k)
    have answer := answers k steps[k] (List.getElem?_eq_getElem bound)
    rw [← answer] at same
    have ended : (Soar.executeAction steps[k].toPlaybookActionStep (outcomes.rollback k)).isOk =
        (outcomes.rollback k).isOk := by
      cases first : Soar.executeAction steps[k].toPlaybookActionStep (outcomes.rollback k) <;>
        cases second : outcomes.rollback k <;> rw [first,second] at same <;> first | rfl | cases same
    rw [answer] at ended
    simp [runRollback,Soar.runRollback,Call.event,ended,answer]

end Erased

def withoutError (result : PlaybookExecutionResult) : PlaybookExecutionResult := { result with error := none }

theorem execute_erased (playbook : ParamPlaybook) :
    let run := execute inherited context connectors operator playbook
    let run' := Soar.execute (outcomes inherited context connectors playbook) playbook.schema operator
    run.1.map Call.event = run'.1 ∧ run.2.map withoutError = run'.2.map withoutError := by
  have actions : ∀ k step, playbook.steps[k]? = some step → ∀ a,
      (outcomes inherited context connectors playbook).action (0 + k) a =
        (executeAction inherited context step (connectors.action (0 + k) a)).2 := by
    intro k step inside a
    simp only [outcomes,Nat.zero_add,inside]
  have undone : ∀ k step, playbook.rollbackSteps[k]? = some step →
      (outcomes inherited context connectors playbook).rollback k =
        (executeAction inherited context step (connectors.rollback k)).2 := by
    intro k step inside
    simp only [outcomes,inside]
  obtain ⟨calls,executed,thrown⟩ :=
    runSteps_erased inherited context connectors playbook.id operator playbook.steps 0 [] actions rfl
  have rollback := runRollback_erased inherited context connectors playbook.rollbackSteps undone
  have schema : playbook.schema.rollback.getD [] = playbook.rollbackSteps.map ParamStep.toPlaybookActionStep := by
    change (playbook.rollback.map _).getD [] = (playbook.rollback.getD []).map _
    cases playbook.rollback <;> rfl
  intro run run'
  simp only [run,run',execute,Soar.execute,schema]
  cases validatePlaybook playbook.schema with
  | error thrown => exact ⟨rfl,rfl⟩
  | ok _ =>
      change _ = (Soar.runSteps _ playbook.schema.id operator 0 [] playbook.schema.steps).events at calls
      change _ = (Soar.runSteps _ playbook.schema.id operator 0 [] playbook.schema.steps).stepsExecuted at executed
      change _ = (Soar.runSteps _ playbook.schema.id operator 0 [] playbook.schema.steps).thrown.isSome at thrown
      generalize runSteps inherited context connectors playbook.id operator 0 [] playbook.steps = progress at *
      generalize Soar.runSteps _ playbook.schema.id operator 0 [] playbook.schema.steps = progress' at *
      obtain ⟨made,done,ended⟩ := progress
      obtain ⟨made',done',ended'⟩ := progress'
      simp only at calls executed thrown
      subst calls executed
      cases ended with
      | none =>
          cases ended' with
          | none => exact ⟨rfl,rfl⟩
          | some _ => cases thrown
      | some _ =>
          cases ended' with
          | none => cases thrown
          | some _ =>
              constructor
              · simp only [List.map_append,rollback]
              · simp [withoutError,ParamPlaybook.schema,Except.map]
                rfl

end Resolved

-- The second argument of `execute`.
inductive ContextOrOperator where
  | absent
  | operator (operator : Operator)
  | context (context : ExecutionContext)

def ContextOrOperator.contextOf : ContextOrOperator → ExecutionContext
  | .context given => given
  | _ => .empty

def ContextOrOperator.operatorOf (maybeOperator : Option Operator) : ContextOrOperator → Operator
  | .absent => .system
  | .operator given => given
  | .context _ => maybeOperator.getD .system

inductive EntryPoint where
  | execute (playbook : ParamPlaybook) (contextOrOperator : ContextOrOperator) (maybeOperator : Option Operator)
  | executeWithBandit (framework : MultiArmedBanditFramework) (contextKey : String) (samples : Samples)
      (first : ParamPlaybook) (rest : List ParamPlaybook) (operator : Operator)

namespace EntryPoint

-- The playbook that is executed, where there is one, and the context it is given: the
-- bandit passes on none.
def playbook : EntryPoint → Option ParamPlaybook
  | .execute playbook _ _ => some playbook
  | .executeWithBandit framework contextKey samples first rest _ =>
    let candidates := first :: rest
    match (framework.registerContext contextKey (candidates.map ParamPlaybook.id)).select contextKey samples with
    | .error _ => none
    | .ok (selectedId,_) => some ((candidates.find? (fun playbook => decide (playbook.id = selectedId))).getD first)

def context : EntryPoint → ExecutionContext
  | .execute _ contextOrOperator _ => contextOrOperator.contextOf
  | .executeWithBandit _ _ _ _ _ _ => .empty

def operator : EntryPoint → Operator
  | .execute _ contextOrOperator maybeOperator => contextOrOperator.operatorOf maybeOperator
  | .executeWithBandit _ _ _ _ _ given => given

variable (inherited : String → ContextValue) (connectors : Connectors) (entry : EntryPoint)

def callsOf (playbook : ParamPlaybook) : List Call :=
  (Resolved.execute inherited entry.context connectors entry.operator playbook).1

-- Whatever a system is called with are the parameters of the step, resolved in the
-- context of the entry point; and it is called, unless the type is not supported or a
-- value has no text.
theorem parameters_resolved : ∀ playbook, entry.playbook = some playbook →
    ∀ call ∈ entry.callsOf inherited connectors playbook, call.acts = true →
      ∃ step ∈ playbook.steps ++ playbook.rollbackSteps, call.step playbook = some step ∧
        Tried inherited entry.context step call.invocation := by
  intro playbook _
  exact Resolved.execute_tried inherited entry.context connectors entry.operator playbook

def Provided (context : ExecutionContext) (step : ParamStep) : Prop :=
  ∀ name s, step.params.get name = some (.text s) → ∀ pieces, Reads s.toList pieces →
    ∀ key, .placeholder key ∈ pieces → context.has (String.ofList key) = true

def OnlyProvided : Prop := ∀ playbook, entry.playbook = some playbook →
  ∀ call ∈ entry.callsOf inherited connectors playbook, ∀ invocation, call.invocation = some invocation →
    ∃ step, call.step playbook = some step ∧ Provided entry.context step

end EntryPoint

def blockSource : ParamStep where
  id := "fw-block-source"
  type := .firewall
  params := .ofList [("sourceIp",.text "\x7b\x7bsrc_ip\x7d\x7d")]

def bruteForceResponse : ParamPlaybook where
  id := "brute_force_response"
  name := "Brute Force Response"
  steps := [blockSource]
  rollback := some []

def reachable : Connectors := ⟨fun _ _ _ => .ok "",fun _ _ => .ok (),fun _ _ => .ok ""⟩

theorem parameters_resolved_source :
    let context : ExecutionContext := .ofList [("src_ip",.text "10.0.0.7")]
    let invocation : Invocation := ⟨.firewall,.ofList [("sourceIp",.text "10.0.0.7")]⟩
    ∃ step ∈ bruteForceResponse.steps ++ bruteForceResponse.rollbackSteps,
      (Call.acted 0 1 (some invocation) true).step bruteForceResponse = some step ∧
        Tried (fun _ => .nothing) context step (some invocation) := by
  intro context invocation
  exact EntryPoint.parameters_resolved (fun _ => .nothing) reachable
    (.execute bruteForceResponse (.context context) none) bruteForceResponse rfl
    (.acted 0 1 (some invocation) true) (by decide) rfl

-- Without a context the firewall is told to block the empty address.
theorem empty_address_blocked :
    ((EntryPoint.execute bruteForceResponse .absent none).callsOf (fun _ => .nothing) reachable
        bruteForceResponse).filterMap Call.invocation = [⟨.firewall,.ofList [("sourceIp",.text "")]⟩] ∧
    ¬ EntryPoint.OnlyProvided (fun _ => .nothing) reachable (.execute bruteForceResponse .absent none) := by
  constructor
  · decide
  · intro provided
    let invocation : Invocation := ⟨.firewall,.ofList [("sourceIp",.text "")]⟩
    obtain ⟨step,about,keys⟩ := provided bruteForceResponse rfl (.acted 0 1 (some invocation) true) (by decide)
      invocation rfl
    cases about
    have named : IsKey "src_ip".toList := ⟨by decide,List.all_eq_true.mp (by decide)⟩
    have reads : Reads "\x7b\x7bsrc_ip\x7d\x7d".toList [.placeholder "src_ip".toList] := .placeholder named .nil
    exact absurd (keys "sourceIp" _ rfl _ reads _ List.mem_cons_self) (by decide)

end PhantomFlow.Soar
