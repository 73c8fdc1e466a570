import PhantomFlow.Library.JsNumber
import PhantomFlow.Library.Machine

namespace PhantomFlow.Learning
open Library Library.Machine

structure LearningConfig where
  retrainInterval : JsNumber ℚ
  minDataPoints : JsNumber ℚ

structure TrainingData where
  features : List ℚ
  label : ℚ

-- The await at which a `retrainModel` that has set the flag is waiting: in
-- `createAndTrainModel`, for the predictions and for the labels of the evaluation,
-- then in the two saves.
inductive TrainingStage where
  | fitting | predictions | labels | savingPerformance | savingModel
  deriving DecidableEq

structure TrainingRun where
  stage : TrainingStage
  features : List (List ℚ)
  labels : List ℚ
  deriving DecidableEq

-- `storing` counts the calls of `addTrainingData` that wait for Redis, and `runs`
-- holds the trainings that have begun and not yet come to their `finally`.
structure AdaptiveLearningService where
  config : LearningConfig
  trainingData : List TrainingData
  isTraining : Bool
  lastRetrain : Option ℤ
  storing : ℕ
  runs : List TrainingRun

namespace AdaptiveLearningService
variable (service : AdaptiveLearningService)

def create (config : LearningConfig) (loaded : List TrainingData) : AdaptiveLearningService :=
  ⟨config,loaded,false,none,0,[]⟩

def dataPoints : JsNumber ℚ := .finite service.trainingData.length

def prepareTrainingData : List (List ℚ) × List ℚ :=
  (service.trainingData.map TrainingData.features,service.trainingData.map TrainingData.label)

def retrainModel : AdaptiveLearningService :=
  if service.isTraining then service
  else if service.dataPoints.lt service.config.minDataPoints then service
  else
    let prepared := service.prepareTrainingData
    { service with
      isTraining := true
      runs := service.runs ++ [⟨.fitting,prepared.1,prepared.2⟩] }

def timeSinceLastRetrain (now : ℤ) : JsNumber ℚ :=
  match service.lastRetrain with
  | some last => .finite ((now - last : ℤ) / 60000)
  | none => .posInf

def checkRetrainNeeded (now : ℤ) : AdaptiveLearningService :=
  if service.isTraining then service
  else if service.config.retrainInterval.le (service.timeSinceLastRetrain now) then service.retrainModel
  else service

def addTrainingData (data : TrainingData) : AdaptiveLearningService :=
  { service with trainingData := service.trainingData ++ [data],storing := service.storing + 1 }

-- `addTrainingData` after its await; a store that failed was logged.
def storedTrainingData (now : ℤ) : AdaptiveLearningService :=
  if 0 < service.storing then
    let resumed := { service with storing := service.storing - 1 }
    if service.config.minDataPoints.le service.dataPoints then resumed.checkRetrainNeeded now else resumed
  else service

def finishRun (i : ℕ) : AdaptiveLearningService :=
  { service with isTraining := false,runs := service.runs.eraseIdx i }

def advanceRun (i : ℕ) (run : TrainingRun) (stage : TrainingStage) : AdaptiveLearningService :=
  { service with runs := service.runs.set i { run with stage := stage } }

-- The i-th training goes on after its await. The saves catch what they throw.
def resumeRun (i : ℕ) (succeeded : Bool) (now : ℤ) : AdaptiveLearningService :=
  match service.runs[i]? with
  | none => service
  | some run => match run.stage with
    | .fitting => if succeeded then service.advanceRun i run .predictions else service.finishRun i
    | .predictions => if succeeded then service.advanceRun i run .labels else service.finishRun i
    | .labels => if succeeded then service.advanceRun i run .savingPerformance else service.finishRun i
    | .savingPerformance => service.advanceRun i run .savingModel
    | .savingModel => { service with lastRetrain := some now }.finishRun i

def stop : AdaptiveLearningService := { service with isTraining := false }

end AdaptiveLearningService

inductive LearningEvent where
  | addTrainingData (data : TrainingData)
  | storedTrainingData (now : ℤ)
  | retrainModel
  | periodicCheck (now : ℤ)
  | resumeRun (run : ℕ) (succeeded : Bool) (now : ℤ)
  | stop

def learningStep (service : AdaptiveLearningService) : LearningEvent → AdaptiveLearningService × Unit
  | .addTrainingData data => (service.addTrainingData data,())
  | .storedTrainingData now => (service.storedTrainingData now,())
  | .retrainModel => (service.retrainModel,())
  | .periodicCheck now => (service.checkRetrainNeeded now,())
  | .resumeRun i succeeded now => (service.resumeRun i succeeded now,())
  | .stop => (service.stop,())

-- What counts as a training: the whole of it from the flag to its `finally`, or its
-- call of `createAndTrainModel` alone.
def inProgress (whole : Bool) (run : TrainingRun) : Bool := whole || decide (run.stage = .fitting)

structure OneTraining (whole : Bool) (service : AdaptiveLearningService) : Prop where
  single : service.runs.countP (inProgress false) ≤ 1
  flagged : service.isTraining = true ↔ ∃ run ∈ service.runs, inProgress whole run = true

-- Nobody stops the service during a training. The flag also covers the evaluation, so
-- it agrees with `createAndTrainModel` alone as long as no call of that succeeds.
def StoppedWhenIdle (whole : Bool) (service : AdaptiveLearningService) : LearningEvent → Prop
  | .stop => service.runs = []
  | .resumeRun i succeeded _ =>
    whole = false → ∀ run, service.runs[i]? = some run → run.stage = .fitting → succeeded = false
  | .addTrainingData _ | .storedTrainingData _ | .retrainModel | .periodicCheck _ => True

inductive Alone (whole : Bool) (service : AdaptiveLearningService) : Prop where
  | idle (none : service.runs = []) (clear : service.isTraining = false)
  | training (run : TrainingRun) (one : service.runs = [run]) (set : service.isTraining = true)
    (counted : inProgress whole run = true)

theorem Alone.one_training {service : AdaptiveLearningService} (alone : Alone whole service) :
    OneTraining whole service := by
  cases alone with
  | idle none clear => exact ⟨by simp [none],by simp [none,clear]⟩
  | training run one set counted =>
      refine ⟨?_,by simp [one,set,counted]⟩
      rw [one]
      exact List.countP_le_length

theorem retrainModel_alone {service : AdaptiveLearningService} (alone : Alone whole service) :
    Alone whole service.retrainModel := by
  cases alone with
  | training run one set counted =>
      rw [AdaptiveLearningService.retrainModel,if_pos set]
      exact .training run one set counted
  | idle none clear =>
      rw [AdaptiveLearningService.retrainModel,clear,if_neg (by simp)]
      split
      · exact .idle none clear
      · refine .training _ (by simp only [none]; rfl) rfl ?_
        simp [inProgress]

theorem checkRetrainNeeded_alone {service : AdaptiveLearningService} (alone : Alone whole service) (now : ℤ) :
    Alone whole (service.checkRetrainNeeded now) := by
  unfold AdaptiveLearningService.checkRetrainNeeded
  split
  · exact alone
  · split
    · exact retrainModel_alone alone
    · exact alone

theorem Alone.of_same {service other : AdaptiveLearningService} (alone : Alone whole service)
    (runs : other.runs = service.runs) (flag : other.isTraining = service.isTraining) : Alone whole other := by
  cases alone with
  | idle none clear => exact .idle (runs.trans none) (flag.trans clear)
  | training run one set counted => exact .training run (runs.trans one) (flag.trans set) counted

theorem storedTrainingData_alone {service : AdaptiveLearningService} (alone : Alone whole service) (now : ℤ) :
    Alone whole (service.storedTrainingData now) := by
  unfold AdaptiveLearningService.storedTrainingData
  split
  · have resumed : Alone whole { service with storing := service.storing - 1 } := alone.of_same rfl rfl
    split
    · exact checkRetrainNeeded_alone resumed now
    · exact resumed
  · exact alone

theorem finishRun_alone {service : AdaptiveLearningService} (one : service.runs = [run]) :
    Alone whole (service.finishRun 0) := by
  refine .idle ?_ rfl
  simp [AdaptiveLearningService.finishRun,one]

theorem advanceRun_alone {service : AdaptiveLearningService} (one : service.runs = [run])
    (set : service.isTraining = true) (stage : TrainingStage) : Alone true (service.advanceRun 0 run stage) := by
  refine .training { run with stage := stage } ?_ set rfl
  simp [AdaptiveLearningService.advanceRun,one]

theorem resumeRun_zero {service : AdaptiveLearningService} (alone : Alone whole service)
    (found : service.runs[i]? = some run) :
    i = 0 ∧ service.runs = [run] ∧ service.isTraining = true ∧ inProgress whole run = true := by
  cases alone with
  | idle none clear => simp [none] at found
  | training only one set counted =>
      rw [one,List.getElem?_singleton] at found
      split at found
      · rename_i first
        cases found
        exact ⟨first,one,set,counted⟩
      · cases found

theorem resumeRun_cases {service : AdaptiveLearningService} (found : service.runs[i]? = some run) (succeeded : Bool)
    (now : ℤ) :
    (∃ stage, service.resumeRun i succeeded now = service.advanceRun i run stage) ∨
      ∃ last, service.resumeRun i succeeded now = { service with lastRetrain := last }.finishRun i := by
  simp only [AdaptiveLearningService.resumeRun,found]
  split
  · cases succeeded with
    | false => exact .inr ⟨service.lastRetrain,rfl⟩
    | true => exact .inl ⟨.predictions,rfl⟩
  · cases succeeded with
    | false => exact .inr ⟨service.lastRetrain,rfl⟩
    | true => exact .inl ⟨.labels,rfl⟩
  · cases succeeded with
    | false => exact .inr ⟨service.lastRetrain,rfl⟩
    | true => exact .inl ⟨.savingPerformance,rfl⟩
  · exact .inl ⟨.savingModel,rfl⟩
  · exact .inr ⟨some now,rfl⟩

theorem resumeRun_whole {service : AdaptiveLearningService} (alone : Alone true service) (i : ℕ) (succeeded : Bool)
    (now : ℤ) : Alone true (service.resumeRun i succeeded now) := by
  cases found : service.runs[i]? with
  | none =>
      rw [AdaptiveLearningService.resumeRun,found]
      exact alone
  | some run =>
      obtain ⟨rfl,one,set,_⟩ := resumeRun_zero alone found
      rcases resumeRun_cases found succeeded now with ⟨stage,next⟩ | ⟨last,next⟩
      · rw [next]
        exact advanceRun_alone one set stage
      · rw [next]
        exact finishRun_alone one

theorem fitting_of_counted {run : TrainingRun} (counted : inProgress false run = true) : run.stage = .fitting := by
  simpa [inProgress] using counted

theorem resumeRun_fitting {service : AdaptiveLearningService} (alone : Alone false service)
    (found : service.runs[i]? = some run) (succeeded : Bool) (now : ℤ) :
    service.resumeRun i succeeded now =
      if succeeded then service.advanceRun 0 run .predictions else service.finishRun 0 := by
  obtain ⟨rfl,_,_,counted⟩ := resumeRun_zero alone found
  rw [AdaptiveLearningService.resumeRun,found]
  simp only [fitting_of_counted counted]

theorem resumeRun_alone_iff {service : AdaptiveLearningService} (alone : Alone whole service) (i : ℕ)
    (succeeded : Bool) (now : ℤ) :
    (StoppedWhenIdle whole service (.resumeRun i succeeded now) → Alone whole (service.resumeRun i succeeded now)) ∧
      (OneTraining whole (service.resumeRun i succeeded now) →
        StoppedWhenIdle whole service (.resumeRun i succeeded now)) := by
  cases whole with
  | true => exact ⟨fun _ => resumeRun_whole alone i succeeded now,fun _ impossible => nomatch impossible⟩
  | false =>
      cases found : service.runs[i]? with
      | none =>
          refine ⟨fun _ => ?_,fun _ _ run here => ?_⟩
          · rw [AdaptiveLearningService.resumeRun,found]
            exact alone
          · rw [found] at here
            cases here
      | some run =>
          obtain ⟨_,one,set,counted⟩ := resumeRun_zero alone found
          rw [resumeRun_fitting alone found]
          constructor
          · intro allowed
            rw [allowed rfl run found (fitting_of_counted counted)]
            exact finishRun_alone one
          · intro good _ other here fitting
            cases succeeded with
            | false => rfl
            | true =>
                -- The flag stays and nothing is fitted any more.
                obtain ⟨left,member,still⟩ := good.flagged.mp set
                simp [AdaptiveLearningService.advanceRun,one] at member
                rw [member] at still
                cases still

theorem stop_alone_iff {service : AdaptiveLearningService} (alone : Alone whole service) :
    (service.runs = [] → Alone whole service.stop) ∧ (OneTraining whole service.stop → service.runs = []) := by
  constructor
  · intro none
    exact .idle none rfl
  · intro good
    cases alone with
    | idle none clear => exact none
    | training run one set counted =>
        have flag : service.stop.isTraining = true := good.flagged.mpr ⟨run,by
          change run ∈ service.runs
          simp [one],counted⟩
        cases flag

theorem learningStep_alone (service : AdaptiveLearningService) (event : LearningEvent) (alone : Alone whole service) :
    (StoppedWhenIdle whole service event → Alone whole (learningStep service event).1) ∧
      (OneTraining whole (learningStep service event).1 → StoppedWhenIdle whole service event) := by
  cases event with
  | addTrainingData data => exact ⟨fun _ => alone.of_same rfl rfl,fun _ => trivial⟩
  | storedTrainingData now => exact ⟨fun _ => storedTrainingData_alone alone now,fun _ => trivial⟩
  | retrainModel => exact ⟨fun _ => retrainModel_alone alone,fun _ => trivial⟩
  | periodicCheck now => exact ⟨fun _ => checkRetrainNeeded_alone alone now,fun _ => trivial⟩
  | resumeRun i succeeded now => exact resumeRun_alone_iff alone i succeeded now
  | stop => exact stop_alone_iff alone

theorem one_training_iff (whole : Bool) (config : LearningConfig) (loaded : List TrainingData)
    (events : List LearningEvent) :
    Throughout learningStep (OneTraining whole) (.create config loaded) events ↔
      Along learningStep (StoppedWhenIdle whole) (.create config loaded) events := by
  have start : Alone whole (.create config loaded) := .idle rfl rfl
  apply throughout_exact_while _ _ start start.one_training
  · intro service event alone
    obtain ⟨keeps,needs⟩ := learningStep_alone service event alone
    exact ⟨needs,fun allowed => (keeps allowed).one_training⟩
  · intro service event alone
    exact (learningStep_alone service event alone).1

def stoppedDuringTraining : AdaptiveLearningService :=
  (exec learningStep (.create ⟨.finite 60,.finite 1⟩ [⟨[0],1⟩]) [.retrainModel,.stop]).1

-- After `stop` the flag is down while the model is still being fitted, and the next
-- periodic check fits a second one beside it.
theorem stopped_training_overlaps :
    (stoppedDuringTraining.isTraining = false ∧ stoppedDuringTraining.runs.countP (inProgress false) = 1) ∧
      ¬ OneTraining true (learningStep stoppedDuringTraining (.periodicCheck 0)).1 := by
  refine ⟨⟨rfl,rfl⟩,?_⟩
  intro good
  exact absurd good.single (by decide)

end PhantomFlow.Learning
