import Mathlib.Data.Rat.Floor

namespace PhantomFlow.Soar

inductive PlaybookActionType where
  | firewall | edr | iam | notify
  | other (name : String)
deriving DecidableEq

def PlaybookActionType.name : PlaybookActionType → String
  | .firewall => "firewall"
  | .edr => "edr"
  | .iam => "iam"
  | .notify => "notify"
  | .other name => name

structure PlaybookActionStep where
  id : String
  type : PlaybookActionType
  retries : Option ℚ := none
deriving DecidableEq

structure PlaybookSchema where
  id : String
  name : String
  steps : List PlaybookActionStep
  rollback : Option (List PlaybookActionStep) := none
deriving DecidableEq

inductive Operator where
  | system | human
deriving DecidableEq

inductive Thrown where
  | error (message : String)
  | value
deriving DecidableEq

structure AuditEntry where
  playbookId : String
  action : String
  result : String
  operator : Operator
  attempt : ℕ
deriving DecidableEq

structure PlaybookExecutionResult where
  success : Bool
  playbookId : String
  stepsExecuted : List String
  failedStep : Option String := none
  error : Option String := none
deriving DecidableEq

-- What the connected systems answer: the action and the audit write of each attempt
-- of each step, and the actions of the rollback.
structure Outcomes where
  action : ℕ → ℕ → Except Thrown String
  audit : ℕ → ℕ → Except Thrown Unit
  rollback : ℕ → Except Thrown String

inductive Event where
  | acted (step attempt : ℕ) (succeeded : Bool)
  | audited (step : ℕ) (entry : AuditEntry) (succeeded : Bool)
  | rolledBack (step : ℕ) (succeeded : Bool)
deriving DecidableEq

def validatePlaybook (playbook : PlaybookSchema) : Except Thrown Unit :=
  if playbook.id = "" ∨ playbook.name = "" then .error (.error "Playbook requires id and name.")
  else if playbook.steps = [] then .error (.error "Playbook requires at least one action step.")
  else .ok ()

def executeAction (step : PlaybookActionStep) (answer : Except Thrown String) : Except Thrown String :=
  match step.type with
  | .other name => .error (.error ("Unsupported action type: " ++ name))
  | _ => answer

-- The number of turns of the loop that counts attempts from 1 up to `retries`.
def attempts (step : PlaybookActionStep) : ℕ := ⌊step.retries.getD 1⌋.toNat

def thrownAtLast : Option Thrown → Thrown
  | some (.error message) => .error message
  | _ => .error "Action failed after retries"

def auditEntry (playbookId : String) (operator : Operator) (step : PlaybookActionStep) (attempt : ℕ)
    (detail : String) : AuditEntry :=
  ⟨playbookId,step.type.name ++ ":" ++ step.id,detail,operator,attempt⟩

section Execution
variable (outcomes : Outcomes) (playbookId : String) (operator : Operator)

-- The action and its audit write share the try block of one attempt.
def retryLoop (index : ℕ) (step : PlaybookActionStep) : ℕ → ℕ → Option Thrown → List Event × Except Thrown Unit
  | _,0,lastError => ([],.error (thrownAtLast lastError))
  | attempt,remaining + 1,_ =>
    match executeAction step (outcomes.action index attempt) with
    | .error thrown =>
      let rest := retryLoop index step (attempt + 1) remaining (some thrown)
      (.acted index attempt false :: rest.1,rest.2)
    | .ok detail =>
      let entry := auditEntry playbookId operator step attempt detail
      match outcomes.audit index attempt with
      | .ok () => ([.acted index attempt true,.audited index entry true],.ok ())
      | .error thrown =>
        let rest := retryLoop index step (attempt + 1) remaining (some thrown)
        (.acted index attempt true :: .audited index entry false :: rest.1,rest.2)

def executeWithRetry (index : ℕ) (step : PlaybookActionStep) : List Event × Except Thrown Unit :=
  retryLoop outcomes playbookId operator index step 1 (attempts step) none

structure Progress where
  events : List Event
  stepsExecuted : List String
  thrown : Option Thrown

def runSteps (index : ℕ) (stepsExecuted : List String) : List PlaybookActionStep → Progress
  | [] => ⟨[],stepsExecuted,none⟩
  | step :: rest =>
    match executeWithRetry outcomes playbookId operator index step with
    | (events,.ok ()) =>
      let later := runSteps (index + 1) (stepsExecuted ++ [step.id]) rest
      { later with events := events ++ later.events }
    | (events,.error thrown) => ⟨events,stepsExecuted,some thrown⟩

end Execution

def runRollback (outcomes : Outcomes) (steps : List PlaybookActionStep) : List Event :=
  steps.mapIdx (fun index step => .rolledBack index (executeAction step (outcomes.rollback index)).isOk)

def messageOf : Thrown → String
  | .error message => message
  | .value => "Unknown execution error"

def execute (outcomes : Outcomes) (playbook : PlaybookSchema) (operator : Operator) :
    List Event × Except Thrown PlaybookExecutionResult :=
  match validatePlaybook playbook with
  | .error thrown => ([],.error thrown)
  | .ok () =>
    let progress := runSteps outcomes playbook.id operator 0 [] playbook.steps
    match progress.thrown with
    | none => (progress.events,.ok { success := true, playbookId := playbook.id, stepsExecuted := progress.stepsExecuted })
    | some thrown =>
      (progress.events ++ runRollback outcomes (playbook.rollback.getD []),
        .ok {
          success := false
          playbookId := playbook.id
          stepsExecuted := progress.stepsExecuted
          failedStep := (playbook.steps[progress.stepsExecuted.length]?).map PlaybookActionStep.id
          error := some (messageOf thrown) })

end PhantomFlow.Soar
