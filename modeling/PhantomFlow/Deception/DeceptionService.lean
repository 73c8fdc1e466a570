import Mathlib.Data.Rat.Defs
import PhantomFlow.Library.Machine
import PhantomFlow.Library.OrderedMap

namespace PhantomFlow.Deception
open Library Library.Machine

inductive TrapKind where
  | honeypot | decoyFile | credentialTrap
  deriving DecidableEq

def TrapKind.name : TrapKind → String
  | .honeypot => "honeypot"
  | .decoyFile => "decoy_file"
  | .credentialTrap => "credential_trap"

-- The value of a field that a caller may write: `other` is anything that is neither
-- a text, a number nor a date.
inductive FieldValue where
  | text (value : String)
  | number (value : ℚ)
  | date (time : ℤ)
  | other
  deriving DecidableEq

abbrev Fields := OrderedMap String FieldValue

structure DeceptionConfig where
  enabled : Bool
  honeypotEndpoints : List String
  fakeCredentials : List String
  decoyFiles : List String

structure TrapConfig where
  type : FieldValue
  path : Option String := none
  credential : Option String := none
  filename : Option String := none

structure DeceptionService where
  config : DeceptionConfig
  activeTraps : OrderedMap String Fields

def DeceptionConfig.listed (config : DeceptionConfig) : TrapKind → List String
  | .honeypot => config.honeypotEndpoints
  | .decoyFile => config.decoyFiles
  | .credentialTrap => config.fakeCredentials

namespace DeceptionService
variable (service : DeceptionService) (now : ℤ)

def create (config : DeceptionConfig) : DeceptionService := ⟨config,.empty⟩

-- The three setup functions differ in the list and in the type they write.
def setup (kind : TrapKind) : DeceptionService :=
  { service with
    activeTraps := (service.config.listed kind).foldl (fun traps id => traps.set id
      (.ofList [("type",.text kind.name),("created",.date now),("accessCount",.number 0)])) service.activeTraps }

def setupHoneypots : DeceptionService := service.setup now .honeypot

def createDecoyFiles : DeceptionService := service.setup now .decoyFile

def setupCredentialTraps : DeceptionService := service.setup now .credentialTrap

def initializeTraps : DeceptionService :=
  if service.config.enabled then ((service.setupHoneypots now).createDecoyFiles now).setupCredentialTraps now
  else service

def isHoneypotEndpoint (path : String) : Bool := decide (path ∈ service.config.honeypotEndpoints)

def isDecoyFile (filename : String) : Bool := decide (filename ∈ service.config.decoyFiles)

def isFakeCredential (credential : String) : Bool := decide (credential ∈ service.config.fakeCredentials)

def trapId (config : TrapConfig) : String :=
  (config.path.filter (· != "")).getD ((config.credential.filter (· != "")).getD
    ((config.filename.filter (· != "")).getD ("trap_" ++ toString now)))

def createTrap (config : TrapConfig) : DeceptionService :=
  { service with
    activeTraps := service.activeTraps.set (trapId now config)
      (.ofList [("type",config.type),("accessCount",.number 0),("created",.date now)]) }

def updateTrap (id : String) (updates : Fields) : Except String DeceptionService :=
  match service.activeTraps.get id with
  | none => .error ("Trap " ++ id ++ " not found")
  | some existing =>
    .ok { service with
      activeTraps := service.activeTraps.set id
        (updates.entries.foldl (fun trap field => trap.set field.1 field.2) existing) }

def deleteTrap (id : String) : Except String DeceptionService :=
  if service.activeTraps.has id then .ok { service with activeTraps := service.activeTraps.delete id }
  else .error ("Trap " ++ id ++ " not found")

def getActiveTraps : OrderedMap String Fields := service.activeTraps

end DeceptionService

inductive TrapOperation where
  | initialized (now : ℤ)
  | createTrap (now : ℤ) (config : TrapConfig)
  | updateTrap (id : String) (updates : Fields)
  | deleteTrap (id : String)

-- An unknown trap is refused and nothing changes. What `createTrap` and `deleteTrap`
-- then write to Redis, and whether that fails, touches no trap.
def trapStep (service : DeceptionService) : TrapOperation → DeceptionService × Except String Unit
  | .initialized now => (service.initializeTraps now,.ok ())
  | .createTrap now config => (service.createTrap now config,.ok ())
  | .updateTrap id updates => match service.updateTrap id updates with
    | .ok updated => (updated,.ok ())
    | .error message => (service,.error message)
  | .deleteTrap id => match service.deleteTrap id with
    | .ok updated => (updated,.ok ())
    | .error message => (service,.error message)

def recognises (service : DeceptionService) : TrapKind → String → Bool
  | .honeypot,id => service.isHoneypotEndpoint id
  | .decoyFile,id => service.isDecoyFile id
  | .credentialTrap,id => service.isFakeCredential id

def typeOf (service : DeceptionService) (id : String) : Option FieldValue :=
  (service.getActiveTraps.get id).bind (fun trap => trap.get "type")

-- The two views of the traps: what is recognised is what is active with that type.
def Agree (service : DeceptionService) : Prop :=
  ∀ (kind : TrapKind) (id : String), recognises service kind id = true ↔ typeOf service id = some (.text kind.name)

def started (before : Bool) : TrapOperation → Bool
  | .initialized _ => true
  | _ => before

def AgreeOnceStarted (s : DeceptionService × Bool) : Prop := s.2 = true → Agree s.1

def SetsUpAgreement (service : DeceptionService) : Prop :=
  (∀ one two id, id ∈ service.config.listed one → id ∈ service.config.listed two → one = two) ∧
    ∀ (kind : TrapKind) (id : String), typeOf service id = some (.text kind.name) →
      ∃ listed, id ∈ service.config.listed listed

-- A trap is only written with the type under which the configuration lists it, or
-- with none of the three types where it is not listed, and no listed trap is deleted.
def KeepsToConfiguration (s : DeceptionService × Bool) : TrapOperation → Prop
  | .initialized _ => s.2 = false → SetsUpAgreement s.1
  | .createTrap now config => s.2 = true →
    ∀ kind : TrapKind, recognises s.1 kind (DeceptionService.trapId now config) = true ↔ config.type = .text kind.name
  | .updateTrap id updates => s.2 = true → s.1.activeTraps.has id = true →
    ∀ type, updates.get "type" = some type → ∀ kind : TrapKind, recognises s.1 kind id = true ↔ type = .text kind.name
  | .deleteTrap id => s.2 = true → s.1.activeTraps.has id = true → ∀ kind, recognises s.1 kind id = false

variable {id : String}

theorem TrapKind.name_injective {one two : TrapKind} (same : one.name = two.name) : one = two := by
  cases one <;> cases two <;> simp_all [name]

theorem recognises_eq (service : DeceptionService) (kind : TrapKind) (id : String) :
    recognises service kind id = decide (id ∈ service.config.listed kind) := by
  cases kind <;> rfl

theorem typeOf_setup (service : DeceptionService) (now : ℤ) (kind : TrapKind) (id : String) :
    typeOf (service.setup now kind) id =
      if id ∈ service.config.listed kind then some (.text kind.name) else typeOf service id := by
  simp only [typeOf,DeceptionService.getActiveTraps,DeceptionService.setup,OrderedMap.get_foldl_set_all]
  split
  · rfl
  · rfl

theorem typeOf_initializeTraps {service : DeceptionService} (enabled : service.config.enabled = true) (now : ℤ)
    (id : String) :
    typeOf (service.initializeTraps now) id =
      if id ∈ service.config.listed .credentialTrap then some (.text TrapKind.credentialTrap.name)
      else if id ∈ service.config.listed .decoyFile then some (.text TrapKind.decoyFile.name)
      else if id ∈ service.config.listed .honeypot then some (.text TrapKind.honeypot.name)
      else typeOf service id := by
  rw [DeceptionService.initializeTraps,if_pos enabled,DeceptionService.setupCredentialTraps,typeOf_setup,
    DeceptionService.createDecoyFiles,typeOf_setup,DeceptionService.setupHoneypots,typeOf_setup]
  rfl

theorem initializeTraps_config (service : DeceptionService) (now : ℤ) :
    (service.initializeTraps now).config = service.config := by
  unfold DeceptionService.initializeTraps
  split
  · rfl
  · rfl

theorem typeOf_listed {service : DeceptionService} (enabled : service.config.enabled = true) (now : ℤ)
    (single : ∀ one two, id ∈ service.config.listed one → id ∈ service.config.listed two → one = two)
    (listed : id ∈ service.config.listed kind) :
    typeOf (service.initializeTraps now) id = some (.text kind.name) := by
  have others : ∀ other, other ≠ kind → id ∉ service.config.listed other :=
    fun other differs here => differs (single other kind here listed)
  rw [typeOf_initializeTraps enabled]
  cases kind with
  | credentialTrap => rw [if_pos listed]
  | decoyFile => rw [if_neg (others .credentialTrap (by simp)),if_pos listed]
  | honeypot =>
      rw [if_neg (others .credentialTrap (by simp)),if_neg (others .decoyFile (by simp)),if_pos listed]

theorem typeOf_unlisted {service : DeceptionService} (enabled : service.config.enabled = true) (now : ℤ)
    (unlisted : ∀ kind, id ∉ service.config.listed kind) :
    typeOf (service.initializeTraps now) id = typeOf service id := by
  rw [typeOf_initializeTraps enabled,if_neg (unlisted _),if_neg (unlisted _),if_neg (unlisted _)]

theorem Agree.listed_single {service : DeceptionService} (agree : Agree service) (id : String) (one two : TrapKind)
    (first : id ∈ service.config.listed one) (second : id ∈ service.config.listed two) : one = two := by
  have typed := (agree one id).mp (by rw [recognises_eq]; exact decide_eq_true first)
  have typed' := (agree two id).mp (by rw [recognises_eq]; exact decide_eq_true second)
  rw [typed] at typed'
  simp only [Option.some.injEq,FieldValue.text.injEq] at typed'
  exact TrapKind.name_injective typed'

theorem recognises_initializeTraps (service : DeceptionService) (now : ℤ) (kind : TrapKind) (id : String) :
    recognises (service.initializeTraps now) kind id = recognises service kind id := by
  rw [recognises_eq,recognises_eq,initializeTraps_config]

theorem initializeTraps_agree_iff {service : DeceptionService} (enabled : service.config.enabled = true) (now : ℤ) :
    Agree (service.initializeTraps now) ↔ SetsUpAgreement service := by
  constructor
  · intro agree
    have single : ∀ one two id, id ∈ service.config.listed one → id ∈ service.config.listed two → one = two := by
      intro one two id
      rw [← initializeTraps_config service now]
      exact agree.listed_single id one two
    refine ⟨single,?_⟩
    intro kind id typed
    by_contra none
    have unlisted : ∀ other, id ∉ service.config.listed other := fun other here => none ⟨other,here⟩
    have seen := (agree kind id).mpr (by rw [typeOf_unlisted enabled now unlisted]; exact typed)
    rw [recognises_initializeTraps,recognises_eq,decide_eq_true_eq] at seen
    exact unlisted kind seen
  · rintro ⟨single,old⟩ kind id
    rw [recognises_initializeTraps,recognises_eq,decide_eq_true_eq]
    constructor
    · exact fun listed => typeOf_listed enabled now (fun one two => single one two id) listed
    · intro typed
      by_cases some : ∃ other, id ∈ service.config.listed other
      · obtain ⟨other,listed⟩ := some
        rw [typeOf_listed enabled now (fun one two => single one two id) listed] at typed
        simp only [Option.some.injEq,FieldValue.text.injEq] at typed
        rw [← TrapKind.name_injective typed]
        exact listed
      · have unlisted : ∀ other, id ∉ service.config.listed other := fun other here => some ⟨other,here⟩
        rw [typeOf_unlisted enabled now unlisted] at typed
        exact absurd (old kind id typed) some

theorem Agree.initializeTraps {service : DeceptionService} (agree : Agree service) (now : ℤ) :
    Agree (service.initializeTraps now) := by
  cases enabled : service.config.enabled with
  | true =>
      rw [initializeTraps_agree_iff enabled]
      refine ⟨fun one two id => agree.listed_single id one two,?_⟩
      intro kind id typed
      have seen := (agree kind id).mpr typed
      rw [recognises_eq,decide_eq_true_eq] at seen
      exact ⟨kind,seen⟩
  | false =>
      rw [DeceptionService.initializeTraps,enabled]
      exact agree

theorem agree_after_write {service : DeceptionService} (agree : Agree service) {traps : OrderedMap String Fields}
    (id : String)
    (others : ∀ other, other ≠ id → typeOf { service with activeTraps := traps } other = typeOf service other) :
    Agree { service with activeTraps := traps } ↔
      ∀ kind : TrapKind, recognises service kind id = true ↔
        typeOf { service with activeTraps := traps } id = some (.text kind.name) := by
  have same : ∀ kind other, recognises { service with activeTraps := traps } kind other = recognises service kind other :=
    fun kind other => by rw [recognises_eq,recognises_eq]
  constructor
  · intro all kind
    have here := all kind id
    rwa [same] at here
  · intro here kind other
    rw [same]
    by_cases at_id : other = id
    · rw [at_id]
      exact here kind
    · rw [others other at_id]
      exact agree kind other

theorem typeOf_set (service : DeceptionService) (id other : String) (trap : Fields) :
    typeOf { service with activeTraps := service.activeTraps.set id trap } other =
      if other = id then trap.get "type" else typeOf service other := by
  simp only [typeOf,DeceptionService.getActiveTraps,OrderedMap.get_set]
  split
  · rfl
  · rfl

theorem createTrap_agree_iff {service : DeceptionService} (agree : Agree service) (now : ℤ) (config : TrapConfig) :
    Agree (service.createTrap now config) ↔
      ∀ kind : TrapKind,
        recognises service kind (DeceptionService.trapId now config) = true ↔ config.type = .text kind.name := by
  rw [DeceptionService.createTrap,agree_after_write agree (DeceptionService.trapId now config)]
  · apply forall_congr'
    intro kind
    rw [typeOf_set,if_pos rfl]
    have written : (OrderedMap.ofList [("type",config.type),("accessCount",.number 0),("created",.date now)] :
        Fields).get "type" = some config.type := rfl
    rw [written,Option.some.injEq]
  · intro other differs
    rw [typeOf_set,if_neg differs]

theorem updateTrap_agree_iff {service : DeceptionService} (agree : Agree service) (updates : Fields)
    (existing : service.activeTraps.get id = some trap)
    (updated : service.updateTrap id updates = .ok after) :
    Agree after ↔
      ∀ type, updates.get "type" = some type →
        ∀ kind : TrapKind, recognises service kind id = true ↔ type = .text kind.name := by
  simp only [DeceptionService.updateTrap,existing,Except.ok.injEq] at updated
  rw [← updated,agree_after_write agree id]
  · simp only [typeOf_set,if_pos,OrderedMap.get_assign]
    cases change : updates.get "type" with
    | none =>
        have kept : typeOf service id = trap.get "type" := by
          rw [typeOf,DeceptionService.getActiveTraps,existing]
          rfl
        simp only [Option.none_or,← kept]
        constructor
        · intro _ _ impossible
          cases impossible
        · exact fun _ kind => agree kind id
    | some type =>
        simp only [Option.some_or,Option.some.injEq]
        exact ⟨fun all _ same kind => same ▸ all kind,fun all => all type rfl⟩
  · intro other differs
    rw [typeOf_set,if_neg differs]

theorem deleteTrap_agree_iff {service : DeceptionService} (agree : Agree service)
    (deleted : service.deleteTrap id = .ok after) : Agree after ↔ ∀ kind, recognises service kind id = false := by
  unfold DeceptionService.deleteTrap at deleted
  split at deleted
  · cases deleted
    rw [agree_after_write agree id]
    · apply forall_congr'
      intro kind
      simp [typeOf,DeceptionService.getActiveTraps,OrderedMap.get_delete]
    · intro other differs
      simp [typeOf,DeceptionService.getActiveTraps,OrderedMap.get_delete,differs]
  · cases deleted

theorem trapStep_updateTrap {service : DeceptionService} (agree : Agree service) (id : String) (updates : Fields) :
    Agree (trapStep service (.updateTrap id updates)).1 ↔
      (service.activeTraps.has id = true → ∀ type, updates.get "type" = some type →
        ∀ kind : TrapKind, recognises service kind id = true ↔ type = .text kind.name) := by
  cases stored : service.activeTraps.get id with
  | none =>
      have refused : service.updateTrap id updates = .error ("Trap " ++ id ++ " not found") := by
        simp [DeceptionService.updateTrap,stored]
      simp only [trapStep,refused,OrderedMap.has_of_get_none stored]
      constructor
      · intro _ impossible
        cases impossible
      · exact fun _ => agree
  | some trap =>
      cases updated : service.updateTrap id updates with
      | error message => simp [DeceptionService.updateTrap,stored] at updated
      | ok after =>
          simp only [trapStep,updated,OrderedMap.has_of_get stored,forall_true_left]
          exact updateTrap_agree_iff agree updates stored updated

theorem trapStep_deleteTrap {service : DeceptionService} (agree : Agree service) (id : String) :
    Agree (trapStep service (.deleteTrap id)).1 ↔
      (service.activeTraps.has id = true → ∀ kind, recognises service kind id = false) := by
  cases present : service.activeTraps.has id with
  | false =>
      have refused : service.deleteTrap id = .error ("Trap " ++ id ++ " not found") := by
        simp [DeceptionService.deleteTrap,present]
      simp only [trapStep,refused]
      constructor
      · intro _ impossible
        cases impossible
      · exact fun _ => agree
  | true =>
      cases deleted : service.deleteTrap id with
      | error message => simp [DeceptionService.deleteTrap,present] at deleted
      | ok after =>
          simp only [trapStep,deleted,forall_true_left]
          exact deleteTrap_agree_iff agree deleted

theorem trapStep_config (service : DeceptionService) (op : TrapOperation) :
    (trapStep service op).1.config = service.config := by
  cases op with
  | initialized now => exact initializeTraps_config service now
  | createTrap now config => rfl
  | updateTrap id updates =>
      simp only [trapStep,DeceptionService.updateTrap]
      cases service.activeTraps.get id with
      | none => rfl
      | some trap => rfl
  | deleteTrap id =>
      simp only [trapStep,DeceptionService.deleteTrap]
      cases service.activeTraps.has id with
      | false => rfl
      | true => rfl

def EnabledUntilStarted (s : DeceptionService × Bool) : Prop := s.2 = false → s.1.config.enabled = true

theorem trapStep_enabled (s : DeceptionService × Bool) (op : TrapOperation) (enabled : EnabledUntilStarted s) :
    EnabledUntilStarted (withLedger trapStep started s op).1 := by
  intro waiting
  have before : s.2 = false := by
    cases op with
    | initialized now => cases waiting
    | createTrap now config => exact waiting
    | updateTrap id updates => exact waiting
    | deleteTrap id => exact waiting
  change (trapStep s.1 op).1.config.enabled = true
  rw [trapStep_config]
  exact enabled before

theorem trapStep_agree_iff (s : DeceptionService × Bool) (op : TrapOperation) (enabled : EnabledUntilStarted s)
    (agree : AgreeOnceStarted s) :
    AgreeOnceStarted (withLedger trapStep started s op).1 ↔ KeepsToConfiguration s op := by
  obtain ⟨service,begun⟩ := s
  cases op with
  | initialized now =>
      change (true = true → Agree (service.initializeTraps now)) ↔ (begun = false → SetsUpAgreement service)
      cases begun with
      | false => simp [initializeTraps_agree_iff (enabled rfl)]
      | true =>
          have kept := (agree rfl).initializeTraps now
          simp [kept]
  | createTrap now config =>
      change (begun = true → Agree (service.createTrap now config)) ↔ (begun = true → _)
      exact imp_congr_right fun on => createTrap_agree_iff (agree on) now config
  | updateTrap id updates => exact imp_congr_right fun on => trapStep_updateTrap (agree on) id updates
  | deleteTrap id => exact imp_congr_right fun on => trapStep_deleteTrap (agree on) id

theorem create_agree_iff (config : DeceptionConfig) :
    Agree (.create config) ↔ ∀ kind, config.listed kind = [] := by
  constructor
  · intro agree kind
    rw [List.eq_nil_iff_forall_not_mem]
    intro id listed
    have typed := (agree kind id).mp (by rw [recognises_eq]; exact decide_eq_true listed)
    cases typed
  · intro empty kind id
    rw [recognises_eq]
    simp [DeceptionService.create,empty,typeOf,DeceptionService.getActiveTraps]

-- With `begun` the two views are compared from the construction on, without it from
-- the first initialization on. That of a disabled service sets nothing up, so there
-- the comparison always starts at the construction.
theorem traps_agree_iff (config : DeceptionConfig) (begun : Bool) (ops : List TrapOperation) :
    Throughout (withLedger trapStep started) AgreeOnceStarted (.create config,begun || !config.enabled) ops ↔
      ((begun || !config.enabled) = true → ∀ kind, config.listed kind = []) ∧
        Along (withLedger trapStep started) KeepsToConfiguration (.create config,begun || !config.enabled) ops := by
  have start : AgreeOnceStarted (.create config,begun || !config.enabled) ↔
      ((begun || !config.enabled) = true → ∀ kind, config.listed kind = []) :=
    imp_congr_right fun _ => create_agree_iff config
  have waiting : EnabledUntilStarted (.create config,begun || !config.enabled) := by
    intro later
    simp only [Bool.or_eq_false_iff,Bool.not_eq_false'] at later
    exact later.2
  rw [← start]
  constructor
  · intro all
    exact ⟨all.initial,(throughout_exact trapStep_enabled trapStep_agree_iff waiting all.initial).mp all⟩
  · rintro ⟨initial,conditions⟩
    exact (throughout_exact trapStep_enabled trapStep_agree_iff waiting initial).mpr conditions

def serverDeception : DeceptionConfig where
  enabled := true
  honeypotEndpoints := ["/admin","/api/admin","/internal","/debug"]
  fakeCredentials := ["admin:admin123","root:password","test:test123"]
  decoyFiles := ["config.json","database.sql","secrets.txt"]

-- A honeypot that is deleted is still recognised, and a created one is not.
theorem deleted_and_created_traps_disagree :
    let after := (exec trapStep (.create serverDeception)
      [.initialized 0,.deleteTrap "/admin",.createTrap 1 { type := .text "honeypot",path := some "/backup" }]).1
    (after.isHoneypotEndpoint "/admin" = true ∧ after.getActiveTraps.get "/admin" = none) ∧
      after.isHoneypotEndpoint "/backup" = false ∧ typeOf after "/backup" = some (.text "honeypot") := by
  decide

end PhantomFlow.Deception
