import PhantomFlow.Library.JsNumber
import PhantomFlow.Library.Machine

namespace PhantomFlow.Metrics
open Library

-- The values validation tells apart; an `other` is an object, a function or a symbol.
inductive JsValue where
  | text (value : String)
  | number (value : JsNumber ℚ)
  | boolean (value : Bool)
  | date (time : Option ℤ)
  | null
  | undefined
  | other (identity : ℕ)
  deriving DecidableEq

def JsValue.isTruthy : JsValue → Bool
  | .text value => value != ""
  | .number value => value != .finite 0 && value != .nan
  | .boolean value => value
  | .null | .undefined => false
  | .date _ | .other _ => true

-- `tags` and `fields` are the own entries of the object, `none` when they are not one.
structure TimeSeriesPoint where
  measurement : JsValue
  tags : Option (List (String × JsValue))
  fields : Option (List (String × JsValue))
  timestamp : JsValue
  deriving DecidableEq

structure InfluxDBWriteResult where
  success : Bool
  pointsWritten : ℕ
  errors : List String
  deriving DecidableEq

-- `String(value)`, which throws for some objects, and the time a text stands for.
structure Script where
  stringOf : JsValue → Except String String
  timeOf : String → Option ℤ

section Validation
variable (script : Script)

def numberOf (time : Option ℤ) : JsValue :=
  match time with
  | some milliseconds => .number (.finite milliseconds)
  | none => .number .nan

def sanitizedTag (entry : String × JsValue) : Except String (String × JsValue) :=
  match entry.2 with
  | .text value => .ok (entry.1,.text value)
  | value => (script.stringOf value).map (fun text => (entry.1,.text text))

def sanitizedField (entry : String × JsValue) : Except String (Option (String × JsValue)) :=
  match entry.2 with
  | .number _ | .text _ | .boolean _ => .ok (some entry)
  | .null | .undefined => .ok none
  | value => (script.stringOf value).map (fun text => some (entry.1,.text text))

def validTimestamp (now : ℤ) (timestamp : JsValue) : Option JsValue :=
  if timestamp.isTruthy then
    match timestamp with
    | .text value => some (numberOf (script.timeOf value))
    | .date time => some (numberOf time)
    | .number value => some (.number value)
    | _ => none
  else some (.number (.finite now))

def isName : JsValue → Bool
  | .text value => value != ""
  | _ => false

def validatePoint (now : ℤ) (point : TimeSeriesPoint) : Except String TimeSeriesPoint :=
  if isName point.measurement = false then .error "measurement is required and must be a string"
  else match point.tags with
    | none => .error "tags are required and must be an object"
    | some tags =>
      match point.fields with
      | none => .error "fields are required and must be an object"
      | some fields =>
        match tags.mapM (sanitizedTag script),fields.mapM (sanitizedField script) with
        | .error message,_ | .ok _,.error message => .error ("validation error - " ++ message)
        | .ok sanitizedTags,.ok sanitizedFields =>
          match validTimestamp script now point.timestamp with
          | none => .error "invalid timestamp format"
          | some timestamp =>
            .ok ⟨point.measurement,some sanitizedTags,some sanitizedFields.reduceOption,timestamp⟩

def validatePoints (now : ℤ) (points : List TimeSeriesPoint) : List TimeSeriesPoint × List String :=
  (points.filterMap (fun point => (validatePoint script now point).toOption),
   points.zipIdx.filterMap (fun entry =>
    match validatePoint script now entry.1 with
    | .ok _ => none
    | .error message => some ("Point " ++ toString entry.2 ++ ": " ++ message)))

def isValid (point : TimeSeriesPoint) : Bool := (validatePoint script 0 point).toOption.isSome

theorem validatePoint_isValid (now : ℤ) (point : TimeSeriesPoint) :
    (validatePoint script now point).toOption.isSome = isValid script point := by
  have timestamps : (validTimestamp script now point.timestamp).isSome = (validTimestamp script 0 point.timestamp).isSome := by
    unfold validTimestamp
    split <;> rfl
  unfold isValid validatePoint
  split
  · rfl
  · split
    · rfl
    · split
      · rfl
      · split
        · rfl
        · rfl
        · cases first : validTimestamp script now point.timestamp with
          | none =>
              cases second : validTimestamp script 0 point.timestamp with
              | none => rfl
              | some _ => rw [first,second] at timestamps; cases timestamps
          | some _ =>
              cases second : validTimestamp script 0 point.timestamp with
              | none => rw [first,second] at timestamps; cases timestamps
              | some _ => rfl

end Validation

-- The service with what its host holds for it: the timers set and neither cleared nor
-- fired, the writes not yet answered, and the points the database has taken.
structure MetricsIngestionService where
  batchSize : ℚ
  pendingPoints : List TimeSeriesPoint
  batchTimer : Option ℕ
  timers : List ℕ
  timersSet : ℕ
  writes : List (List TimeSeriesPoint)
  written : List TimeSeriesPoint

-- A call either returns at once or waits for the write it has started.
inductive Answer where
  | returned (result : InfluxDBWriteResult)
  | ingested (success : Bool)
  | awaiting
  | nothing
  deriving DecidableEq

namespace MetricsIngestionService

def create (batchSize : ℚ) : MetricsIngestionService := ⟨batchSize,[],none,[],0,[],[]⟩

variable (script : Script) (service : MetricsIngestionService)

def clearBatchTimer : MetricsIngestionService :=
  match service.batchTimer with
  | none => service
  | some timer => { service with batchTimer := none, timers := service.timers.filter (· ≠ timer) }

def setBatchTimer : MetricsIngestionService :=
  match service.batchTimer with
  | some _ => service
  | none => { service with
      batchTimer := some service.timersSet
      timers := service.timers ++ [service.timersSet]
      timersSet := service.timersSet + 1 }

def nothingWritten : InfluxDBWriteResult := ⟨true,0,[]⟩

-- An empty buffer returns before the timer is touched.
def flushBatch (now : ℤ) : MetricsIngestionService × Answer :=
  if service.pendingPoints.length = 0 then (service,.returned nothingWritten)
  else
    let validatedPoints := (validatePoints script now service.pendingPoints).1
    let emptied := { service.clearBatchTimer with pendingPoints := [] }
    if validatedPoints.length = 0 then (emptied,.returned nothingWritten)
    else ({ emptied with writes := emptied.writes ++ [validatedPoints] },.awaiting)

def batchIngest (now : ℤ) (points : List TimeSeriesPoint) : MetricsIngestionService × Answer :=
  let pushed := { service with pendingPoints := service.pendingPoints ++ points }
  if pushed.batchSize ≤ pushed.pendingPoints.length then pushed.flushBatch script now
  else (pushed.setBatchTimer,.returned nothingWritten)

-- The five public functions copy the four properties of each point and differ in
-- their log lines only.
def ingestMetrics (now : ℤ) (data : List TimeSeriesPoint) : MetricsIngestionService × Answer :=
  let result := service.batchIngest script now
    (data.map (fun point => ⟨point.measurement,point.tags,point.fields,point.timestamp⟩))
  (result.1,match result.2 with
    | .returned written => .ingested written.success
    | answer => answer)

def ingestPerformanceMetrics := ingestMetrics script service
def ingestThreatData := ingestMetrics script service
def ingestUserBehavior := ingestMetrics script service
def ingestSystemHealth := ingestMetrics script service
def ingestRateLimitData := ingestMetrics script service

-- The timer fires: it is no longer live, and its callback flushes.
def timeout (now : ℤ) (timer : ℕ) : MetricsIngestionService × Answer :=
  if timer ∈ service.timers
  then ((({ service with timers := service.timers.filter (· ≠ timer) } : MetricsIngestionService).flushBatch script now).1,
    .nothing)
  else (service,.nothing)

-- The answer to one of the writes under way. A failed batch goes nowhere.
def writeDone (index : ℕ) (outcome : Except String Unit) : MetricsIngestionService × Answer :=
  match service.writes[index]? with
  | none => (service,.nothing)
  | some points =>
    let answered := { service with writes := service.writes.eraseIdx index }
    match outcome with
    | .ok _ => ({ answered with written := answered.written ++ points },.returned ⟨true,points.length,[]⟩)
    | .error message => (answered,.returned ⟨false,0,[message]⟩)

end MetricsIngestionService

inductive MetricKind where
  | performance | threat | behavior | health | rateLimit
  deriving DecidableEq

inductive IngestionEvent where
  | batchIngest (now : ℤ) (points : List TimeSeriesPoint)
  | ingest (kind : MetricKind) (now : ℤ) (data : List TimeSeriesPoint)
  | flush (now : ℤ)
  | timeout (now : ℤ) (timer : ℕ)
  | writeDone (index : ℕ) (outcome : Except String Unit)
  | setBatchSize (size : ℚ)

def ingestionStep (script : Script) (service : MetricsIngestionService) : IngestionEvent → MetricsIngestionService × Answer
  | .batchIngest now points => service.batchIngest script now points
  | .ingest .performance now data => service.ingestPerformanceMetrics script now data
  | .ingest .threat now data => service.ingestThreatData script now data
  | .ingest .behavior now data => service.ingestUserBehavior script now data
  | .ingest .health now data => service.ingestSystemHealth script now data
  | .ingest .rateLimit now data => service.ingestRateLimitData script now data
  | .flush now => service.flushBatch script now
  | .timeout now timer => service.timeout script now timer
  | .writeDone index outcome => service.writeDone index outcome
  | .setBatchSize size => ({ service with batchSize := size },.nothing)

theorem ingest_service (script : Script) (service : MetricsIngestionService) (kind : MetricKind) (now : ℤ)
    (data : List TimeSeriesPoint) :
    (ingestionStep script service (.ingest kind now data)).1 = (service.batchIngest script now data).1 := by
  cases kind <;>
    simp [ingestionStep,MetricsIngestionService.ingestPerformanceMetrics,MetricsIngestionService.ingestThreatData,
      MetricsIngestionService.ingestUserBehavior,MetricsIngestionService.ingestSystemHealth,
      MetricsIngestionService.ingestRateLimitData,MetricsIngestionService.ingestMetrics]

theorem flushBatch_points (script : Script) (service : MetricsIngestionService) (now : ℤ) :
    let flushed := (service.flushBatch script now).1
    flushed.pendingPoints = [] ∧ flushed.written = service.written ∧
    flushed.writes.flatten = service.writes.flatten ++ (validatePoints script now service.pendingPoints).1 ∧
    ∀ batch ∈ flushed.writes, batch ∈ service.writes ∨ batch ≠ [] := by
  have cleared : service.clearBatchTimer.written = service.written ∧ service.clearBatchTimer.writes = service.writes := by
    unfold MetricsIngestionService.clearBatchTimer
    split <;> exact ⟨rfl,rfl⟩
  unfold MetricsIngestionService.flushBatch
  split
  · rename_i empty
    rw [List.length_eq_zero_iff] at empty
    exact ⟨empty,rfl,by simp [empty,validatePoints],fun _ member => Or.inl member⟩
  · dsimp only
    split
    · rename_i none
      rw [List.length_eq_zero_iff] at none
      exact ⟨rfl,cleared.1,by simp [cleared.2,none],fun _ member => Or.inl (by rwa [← cleared.2])⟩
    · rename_i some
      refine ⟨rfl,cleared.1,by simp [cleared.2],?_⟩
      intro batch member
      rw [cleared.2,List.mem_append,List.mem_singleton] at member
      rcases member with before | rfl
      · exact Or.inl before
      · exact Or.inr (fun empty => some (by rw [empty]; rfl))

theorem setBatchTimer_points (service : MetricsIngestionService) :
    service.setBatchTimer.pendingPoints = service.pendingPoints ∧ service.setBatchTimer.written = service.written ∧
      service.setBatchTimer.writes = service.writes := by
  unfold MetricsIngestionService.setBatchTimer
  split <;> exact ⟨rfl,rfl,rfl⟩

def plainScript : Script := ⟨fun _ => .ok "",fun _ => none⟩

def load : TimeSeriesPoint := ⟨.text "load",some [],some [("value",.number (.finite 1))],.number (.finite 7)⟩

end PhantomFlow.Metrics
