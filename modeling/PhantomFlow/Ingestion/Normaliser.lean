import PhantomFlow.Library.JsCase
import PhantomFlow.Library.Json
import PhantomFlow.Library.OrderedMap

namespace PhantomFlow.Ingestion
open Library

inductive EventSeverity where
  | low | medium | high | critical
deriving DecidableEq

-- What the table answers with: one of the severities, or something that every object
-- inherits, by its name.
inductive SeverityField where
  | severity (level : EventSeverity)
  | inherited (name : String)
deriving DecidableEq

-- A payload by its own properties. None of the names that are read is inherited.
abbrev Payload := OrderedMap String Json

structure NormalizationInput where
  source : String
  payload : Option Payload

structure EventMetadata where
  originalKeys : List String
  normalizedAt : String

structure UnifiedEventSchema where
  eventId : String
  source : String
  srcIp : String
  dstIp : Option String
  timestamp : String
  eventType : String
  severity : SeverityField
  rawPayload : Payload
  userId : Option String
  host : Option String
  metadata : EventMetadata

structure Ambient where
  randomUUID : String
  nowIso : String
  identified : randomUUID ≠ ""
  dated : nowIso ≠ ""

def severityMap : List (String × EventSeverity) :=
  [("info",.low),("low",.low),("medium",.medium),("high",.high),("critical",.critical),
    ("warn",.medium),("warning",.medium),("error",.high)]

def objectProperties : List String :=
  ["constructor","__defineGetter__","__defineSetter__","hasOwnProperty","__lookupGetter__","__lookupSetter__",
    "isPrototypeOf","propertyIsEnumerable","toString","valueOf","__proto__","toLocaleString"]

section Normalising
variable (tables : CaseTables) (numbers : NumberText)

def asString (value : Option Json) (fallback : String) : String :=
  match value with
  | some (.string s) => s
  | some (.number n) => numbers.numberString n
  | some (.bool b) => toString b
  | _ => fallback

def lowerCase (text : String) : String := String.ofList (tables.toLowerCase text.toList)

-- A text that is empty gives way to the next.
def orText (first second : String) : String := if first = "" then second else first

def orMissing (text : String) : Option String := if text = "" then none else some text

def severityOf (payload : Payload) : Option Json :=
  Json.or (Json.or (payload.get "severity") (payload.get "level")) (payload.get "priority")

def normalizeSeverity (payload : Payload) : SeverityField :=
  let raw := lowerCase tables (asString numbers (severityOf payload) "low")
  match severityMap.lookup raw with
  | some level => .severity level
  | none => if raw ∈ objectProperties then .inherited raw else .severity .low

def normalizeEvent (ambient : Ambient) (input : NormalizationInput) : UnifiedEventSchema :=
  let payload := input.payload.getD .empty
  let text name := asString numbers (payload.get name) ""
  let srcIp :=
    orText (orText (orText (orText (orText (text "src_ip") (text "srcIp")) (text "source_ip")) (text "client_ip"))
      (text "ip")) "0.0.0.0"
  let dstIp :=
    orText (orText (orText (text "dst_ip") (text "dstIp")) (text "destination_ip")) (text "target_ip")
  let ts :=
    asString numbers (Json.or (Json.or (payload.get "timestamp") (payload.get "time")) (payload.get "event_time"))
      ambient.nowIso
  let eventType :=
    orText (orText (orText (text "event_type") (text "eventType")) (text "action"))
      (asString numbers (payload.get "type") "unknown")
  { eventId := asString numbers (Json.or (payload.get "event_id") (payload.get "id")) ambient.randomUUID
    source := input.source
    srcIp := srcIp
    dstIp := orMissing dstIp
    timestamp := ts
    eventType := eventType
    severity := normalizeSeverity tables numbers payload
    rawPayload := payload
    userId := orMissing (asString numbers (Json.or (payload.get "user_id") (payload.get "userId")) "")
    host :=
      orMissing (asString numbers (Json.or (Json.or (payload.get "host") (payload.get "hostname")) (payload.get "device")) "")
    metadata := { originalKeys := payload.keys, normalizedAt := ambient.nowIso } }

end Normalising

section Schema
variable {tables : CaseTables} {numbers : NumberText} {ambient : Ambient}

theorem orText_empty : orText first second = "" ↔ first = "" ∧ second = "" := by
  unfold orText
  split
  · rename_i empty
    exact (and_iff_right empty).symm
  · rename_i present
    exact ⟨fun empty => absurd empty present,fun both => absurd both.1 present⟩

theorem numberString_nonempty (n : JsNumber ℚ) : numbers.numberString n ≠ "" := by
  cases n with
  | finite q =>
      obtain ⟨c,_,rest,text⟩ := numbers.starts q
      intro empty
      change numbers.text q = "" at empty
      rw [empty] at text
      cases text
  | posInf => exact fun empty => absurd (show "Infinity" = "" from empty) (by decide)
  | negInf => exact fun empty => absurd (show "-Infinity" = "" from empty) (by decide)
  | nan => exact fun empty => absurd (show "NaN" = "" from empty) (by decide)

theorem lowerCase_ascii (ascii : text.toList.all (fun c => decide (c.toNat < 128)) = true) :
    lowerCase tables text = String.ofList (asciiLower text.toList) :=
  congrArg String.ofList (CaseTables.lowerIn_ascii ascii false false)

theorem lowerCase_unlisted (text : String) (ascii : text.toList.all (fun c => decide (c.toNat < 128)) = true)
    (unlisted : String.ofList (asciiLower text.toList) ∉ objectProperties) :
    lowerCase tables text ∉ objectProperties := by
  rwa [lowerCase_ascii ascii]

theorem numeral_unlisted (q : ℚ) : lowerCase tables (numbers.text q) ∉ objectProperties := by
  obtain ⟨c,member,rest,text⟩ := numbers.starts q
  have ascii : ['-','0','1','2','3','4','5','6','7','8','9'].all (fun c => decide (c.toNat < 128)) = true := by decide
  have apart : ['-','0','1','2','3','4','5','6','7','8','9'].all (fun c =>
      objectProperties.all (fun name => decide (name.toList.head? ≠ some c.toLower))) = true := by decide
  have small := of_decide_eq_true (List.all_eq_true.mp ascii c member)
  intro inherited
  apply of_decide_eq_true (List.all_eq_true.mp (List.all_eq_true.mp apart c member) _ inherited)
  change (String.ofList (tables.lowerIn false (numbers.text q).toList false)).toList.head? = _
  rw [String.toList_ofList,text,CaseTables.lowerIn,CaseTables.lowerChar_ascii small]
  rfl

theorem asString_plain {value : Option Json} (other : ∀ s, value ≠ some (.string s)) :
    lowerCase tables (asString numbers value "low") ∉ objectProperties := by
  unfold asString
  split
  · rename_i s
    exact absurd rfl (other s)
  · rename_i n
    cases n with
    | finite q => exact numeral_unlisted q
    | posInf => exact lowerCase_unlisted "Infinity" (by decide) (by decide)
    | negInf => exact lowerCase_unlisted "-Infinity" (by decide) (by decide)
    | nan => exact lowerCase_unlisted "NaN" (by decide) (by decide)
  · rename_i b
    cases b with
    | true => exact lowerCase_unlisted "true" (by decide) (by decide)
    | false => exact lowerCase_unlisted "false" (by decide) (by decide)
  · exact lowerCase_unlisted "low" (by decide) (by decide)

theorem asString_empty (numbers : NumberText) (value : Option Json) (nonempty : fallback ≠ "") :
    asString numbers value fallback = "" ↔ value = some (.string "") := by
  unfold asString
  split
  · rename_i s
    exact ⟨fun empty => by rw [empty],fun same => by cases same; rfl⟩
  · rename_i n
    exact ⟨fun empty => absurd empty (numberString_nonempty n),fun same => by cases same⟩
  · rename_i b
    cases b with
    | true => exact ⟨fun empty => absurd empty (by decide),fun same => by cases same⟩
    | false => exact ⟨fun empty => absurd empty (by decide),fun same => by cases same⟩
  · rename_i notString _ _
    exact ⟨fun empty => absurd empty nonempty,fun same => absurd same (notString "")⟩

theorem normalizeSeverity_listed (payload : Payload) :
    (∃ level, normalizeSeverity tables numbers payload = .severity level) ↔
      lowerCase tables (asString numbers (severityOf payload) "low") ∉ objectProperties := by
  generalize read : lowerCase tables (asString numbers (severityOf payload) "low") = raw
  unfold normalizeSeverity
  rw [read]
  dsimp only
  cases found : severityMap.lookup raw with
  | some level =>
      -- No name of the table is inherited.
      obtain ⟨before,after,split,_⟩ := List.lookup_eq_some_iff.mp found
      have listed : raw ∈ severityMap.map Prod.fst := by
        rw [split,List.map_append,List.map_cons]
        exact List.mem_append_right _ List.mem_cons_self
      have apart : ∀ name ∈ severityMap.map Prod.fst, name ∉ objectProperties := by decide
      exact ⟨fun _ => apart raw listed,fun _ => ⟨level,rfl⟩⟩
  | none =>
      by_cases inherited : raw ∈ objectProperties
      · simp [inherited]
      · simp [inherited]

-- The severity is one of the four, and the fields that name an event are not empty.
structure SatisfiesSchema (event : UnifiedEventSchema) : Prop where
  severity : ∃ level, event.severity = .severity level
  eventId : event.eventId ≠ ""
  srcIp : event.srcIp ≠ ""
  timestamp : event.timestamp ≠ ""
  eventType : event.eventType ≠ ""

theorem severity_iff (tables : CaseTables) (numbers : NumberText) (payload : Payload) : (∃ level, normalizeSeverity tables numbers payload = .severity level) ↔
    ∀ s, severityOf payload = some (.string s) → lowerCase tables s ∉ objectProperties := by
  rw [normalizeSeverity_listed]
  constructor
  · intro listed s string
    rw [string] at listed
    exact listed
  · intro listed
    by_cases string : ∃ s, severityOf payload = some (.string s)
    · obtain ⟨s,string⟩ := string
      rw [string]
      exact listed s string
    · exact asString_plain (fun s same => string ⟨s,same⟩)

end Schema

theorem schema_exact (tables : CaseTables) (numbers : NumberText) (ambient : Ambient) (source : String) (payload : Payload) :
    SatisfiesSchema (normalizeEvent tables numbers ambient ⟨source,some payload⟩) ↔
      (∀ s, Json.or (Json.or (payload.get "severity") (payload.get "level")) (payload.get "priority") = some (.string s) →
        lowerCase tables s ∉ objectProperties) ∧
      Json.or (payload.get "event_id") (payload.get "id") ≠ some (.string "") ∧
      Json.or (Json.or (payload.get "timestamp") (payload.get "time")) (payload.get "event_time") ≠ some (.string "") ∧
      ¬ (asString numbers (payload.get "event_type") "" = "" ∧ asString numbers (payload.get "eventType") "" = "" ∧
        asString numbers (payload.get "action") "" = "" ∧ payload.get "type" = some (.string "")) := by
  have severity : (∃ level, (normalizeEvent tables numbers ambient ⟨source,some payload⟩).severity = .severity level) ↔
      ∀ s, severityOf payload = some (.string s) → lowerCase tables s ∉ objectProperties := by
    rw [show (normalizeEvent tables numbers ambient ⟨source,some payload⟩).severity =
      normalizeSeverity tables numbers payload from rfl]
    exact severity_iff tables numbers payload
  unfold severityOf at severity
  have eventType : (normalizeEvent tables numbers ambient ⟨source,some payload⟩).eventType = "" ↔
      asString numbers (payload.get "event_type") "" = "" ∧ asString numbers (payload.get "eventType") "" = "" ∧
        asString numbers (payload.get "action") "" = "" ∧ payload.get "type" = some (.string "") := by
    unfold normalizeEvent
    rw [orText_empty,orText_empty,orText_empty,and_assoc,and_assoc]
    have type := asString_empty numbers (payload.get "type") (show "unknown" ≠ "" by decide)
    exact and_congr_right' (and_congr_right' (and_congr_right' type))
  have srcIp : (normalizeEvent tables numbers ambient ⟨source,some payload⟩).srcIp ≠ "" := by
    unfold normalizeEvent
    rw [Ne,orText_empty]
    exact fun both => absurd both.2 (by decide)
  constructor
  · intro event
    refine ⟨severity.mp event.severity,?_,?_,?_⟩
    · exact fun empty => event.eventId ((asString_empty numbers _ ambient.identified).mpr empty)
    · exact fun empty => event.timestamp ((asString_empty numbers _ ambient.dated).mpr empty)
    · exact fun empty => event.eventType (eventType.mpr empty)
  · intro conditions
    obtain ⟨listed,identified,dated,typed⟩ := conditions
    refine ⟨severity.mpr listed,?_,srcIp,?_,?_⟩
    · exact fun empty => identified ((asString_empty numbers _ ambient.identified).mp empty)
    · exact fun empty => dated ((asString_empty numbers _ ambient.dated).mp empty)
    · exact fun empty => typed (eventType.mp empty)

def midnight : Ambient where
  randomUUID := "6f1c2f0e-0000-4000-8000-000000000000"
  nowIso := "2024-01-02T00:00:00.000Z"
  identified := by decide
  dated := by decide

-- A severity that every object has as a property is answered with that property, and an
-- empty identifier is kept.
theorem constructor_severity :
    (normalizeEvent .ascii .zero midnight ⟨"splunk",some (.ofList [("severity",.string "Constructor")])⟩).severity =
        .inherited "constructor" ∧
      ¬ SatisfiesSchema (normalizeEvent .ascii .zero midnight ⟨"splunk",some (.ofList [("severity",.string "Constructor")])⟩) ∧
      ¬ SatisfiesSchema (normalizeEvent .ascii .zero midnight ⟨"splunk",some (.ofList [("id",.string "")])⟩) := by
  refine ⟨rfl,?_,?_⟩
  · intro event
    obtain ⟨level,listed⟩ := event.severity
    cases listed
  · intro event
    exact event.eventId rfl

end PhantomFlow.Ingestion
