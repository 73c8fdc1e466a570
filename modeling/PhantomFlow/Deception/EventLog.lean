import PhantomFlow.Deception.DeceptionService
import PhantomFlow.Library.JsNumber
import PhantomFlow.Library.RedisList
import PhantomFlow.Markov.BehavioralStateManager

namespace PhantomFlow.Deception
open Library Library.Machine

inductive DeceptionEventType where
  | honeypot_access
  | credential_trap
  | decoy_file_access
  deriving DecidableEq

inductive ThreatLevel where
  | low
  | medium
  | high
  | critical
  deriving DecidableEq

-- The details of an access, by the fields that are read; `bodyKeys` counts the keys of
-- a body, where there is one.
structure AccessDetails where
  path : Option String := none
  credential : Option String := none
  filename : Option String := none
  userAgent : Option String := none
  ipAddress : Option String := none
  requestMethod : Option String := none
  bodyKeys : Option ℕ := none
  deriving DecidableEq

structure DeceptionEvent where
  id : String
  type : DeceptionEventType
  ipAddress : String
  userAgent : String
  timestamp : Stamp
  details : AccessDetails
  threatLevel : ThreatLevel
  deriving DecidableEq

def DeceptionEvent.throughJson (event : DeceptionEvent) : DeceptionEvent :=
  { event with timestamp := event.timestamp.throughJson }

structure TriggerData where
  ipAddress : String
  userAgent : String
  details : AccessDetails
  deriving DecidableEq

-- `details.userAgent?.toLowerCase().includes(word)`
def mentions (text : Option String) (word : String) : Bool :=
  text.any (fun value => Markov.includes (Markov.lowered value) word)

def calculateThreatLevel (details : AccessDetails) : ThreatLevel :=
  let score := (if mentions details.userAgent "bot" then 2 else 0) + (if mentions details.userAgent "curl" then 3 else 0) +
    (if mentions details.userAgent "python" then 3 else 0) +
    (if details.ipAddress.any (fun ip => Markov.startsWith ip "192.168.") then 1 else 0) +
    (if details.requestMethod = some "POST" then 1 else 0) + (if 0 < details.bodyKeys.getD 0 then 1 else 0)
  if score ≥ 5 then .critical else if score ≥ 3 then .high else if score ≥ 1 then .medium else .low

structure Recording where
  id : String
  now : ℤ
  type : String
  data : TriggerData
  deriving DecidableEq

section Recorders
variable (id : String) (now : ℤ) (ipAddress userAgent : String) (details : AccessDetails)

def recordHoneypotAccess (path : String) : DeceptionEvent × String :=
  (⟨id,.honeypot_access,ipAddress,userAgent,.date now,details,calculateThreatLevel details⟩,path)

def recordCredentialTrap (credential : String) : DeceptionEvent × String :=
  (⟨id,.credential_trap,ipAddress,userAgent,.date now,details,.critical⟩,credential)

def recordDecoyFileAccess (filename : String) : DeceptionEvent × String :=
  (⟨id,.decoy_file_access,ipAddress,userAgent,.date now,details,calculateThreatLevel details⟩,filename)

end Recorders

-- `details.path || '/unknown'`
def orText (text : Option String) (default' : String) : String := (text.filter (fun value => value ≠ "")).getD default'

def triggerEvent (call : Recording) : DeceptionEvent × String :=
  let data := call.data
  if call.type = "honeypot_access" then
    recordHoneypotAccess call.id call.now data.ipAddress data.userAgent data.details (orText data.details.path "/unknown")
  else if call.type = "credential_trap" then
    recordCredentialTrap call.id call.now data.ipAddress data.userAgent data.details (orText data.details.credential "unknown")
  else if call.type = "decoy_file_access" then
    recordDecoyFileAccess call.id call.now data.ipAddress data.userAgent data.details (orText data.details.filename "unknown")
  else recordHoneypotAccess call.id call.now data.ipAddress data.userAgent data.details "/manual"

-- The commands that the calls send for the list of events, in the order in which they
-- arrive. Without a connection a command has no effect and a read falls back to nothing.
inductive LogCommand where
  | lpush (call : Recording) (connected : Bool)
  | ltrim (connected : Bool)
  | lrange (limit : ℤ) (connected : Bool)
  deriving DecidableEq

section Log
variable {L : Type} (redis : ListServer L DeceptionEvent)

-- The list `deception:events`, each entry as its text says it.
def logStep (log : L) : LogCommand → L × Option (List DeceptionEvent)
  | .lpush call connected => (if connected then redis.lpush log (triggerEvent call).1.throughJson else log,none)
  | .ltrim connected => (if connected then redis.ltrim log 0 999 else log,none)
  | .lrange limit connected => (log,some (if connected then (redis.lrange log 0 (limit - 1)).reverse else []))

end Log

def recordedEvents (commands : List LogCommand) : List DeceptionEvent :=
  (commands.filterMap (fun command => match command with
    | .lpush call true => some (triggerEvent call).1.throughJson
    | _ => none)).reverse

theorem recordedEvents_snoc (commands : List LogCommand) (command : LogCommand) :
    recordedEvents (commands ++ [command]) = recordedEvents [command] ++ recordedEvents commands := by
  unfold recordedEvents
  rw [List.filterMap_append,List.reverse_append]

section Log
variable {L : Type} {redis : ListServer L DeceptionEvent}

theorem log_kept (lawful : redis.Lawful) (commands : List LogCommand) :
    Kept 1000 (recordedEvents commands) (redis.entries (exec (logStep redis) redis.empty commands).1) := by
  induction commands using List.reverseRecOn with
  | nil =>
      change Kept 1000 [] (redis.entries redis.empty)
      rw [lawful.entries_empty]
      exact kept_nil 1000
  | append_singleton commands command ih =>
      rw [exec_snoc,recordedEvents_snoc]
      cases command with
      | lpush call connected =>
          cases connected with
          | false => exact ih
          | true =>
              change Kept 1000 (_ :: recordedEvents commands) (redis.entries (redis.lpush _ _))
              rw [lawful.entries_lpush]
              exact ih.push _
      | ltrim connected =>
          cases connected with
          | false => exact ih
          | true =>
              change Kept 1000 (recordedEvents commands) (redis.entries (redis.ltrim _ 0 999))
              rw [lawful.ltrim_head _ 999 (by decide)]
              exact ih.cut
      | lrange limit connected => exact ih

-- In whatever order the pushes and trims of concurrent recorders arrive, and whichever
-- of them are lost, a read of up to 1000 events gives exactly the newest recorded ones,
-- the oldest of them first; a longer read gives no fewer, and nothing that is not among
-- them.
theorem newest_events_reported (lawful : redis.Lawful) (commands : List LogCommand) (limit : ℕ) (some' : 0 < limit) :
    ∃ answer, (logStep redis (exec (logStep redis) redis.empty commands).1 (.lrange limit true)).2 = some answer ∧
      (limit ≤ 1000 → answer = ((recordedEvents commands).take limit).reverse) ∧
      answer <:+ (recordedEvents commands).reverse ∧ min 1000 (min limit (recordedEvents commands).length) ≤ answer.length ∧
        answer.length ≤ limit := by
  have kept := log_kept lawful commands
  have read : redis.lrange (exec (logStep redis) redis.empty commands).1 0 (limit - 1) =
      (redis.entries (exec (logStep redis) redis.empty commands).1).take limit := by
    rw [lawful.lrange_head _ _ (by omega)]
    congr 1
    omega
  obtain ⟨least,among⟩ := kept.short
  refine ⟨_,congrArg (fun list => some (List.reverse list)) read,?_,?_,?_⟩
  · intro small
    rw [kept.newest small]
  · exact List.reverse_suffix.mpr ((List.take_prefix _ _).trans among)
  · rw [List.length_reverse,List.length_take]
    omega

end Log

-- Two recorders whose pushes both arrive before either trim.
def twoRecorders : List LogCommand :=
  [.lpush ⟨"deception_1",1000,"honeypot_access",⟨"10.0.0.1","curl/8",{ path := some "/admin" }⟩⟩ true,
    .lpush ⟨"deception_2",1001,"credential_trap",⟨"10.0.0.2","",{}⟩⟩ true,.ltrim true,.ltrim true]

theorem newest_events_reported_two :
    (logStep .plain (exec (logStep .plain) [] twoRecorders).1 (.lrange 2 true)).2 =
      some ((recordedEvents twoRecorders).take 2).reverse := by
  obtain ⟨answer,read,newest,_⟩ := newest_events_reported ListServer.plain_lawful twoRecorders 2 (by decide)
  exact read.trans (congrArg some (newest (by decide)))

end PhantomFlow.Deception
