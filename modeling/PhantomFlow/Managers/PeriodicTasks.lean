import PhantomFlow.Library.Intervals
import PhantomFlow.Library.JsNumber
import PhantomFlow.Library.Machine

namespace PhantomFlow.Managers
open Library Library.Machine

inductive TimerKind where
  | persistence | cleanup | metrics
  deriving DecidableEq

-- What the managers' configurations say about their timers. An interval is read by
-- `parseInt`, which gives `NaN` for a malformed text.
structure ManagerConfig where
  persistenceInterval : JsNumber ℚ
  cleanupInterval : JsNumber ℚ
  enableMetrics : Bool

structure PartialConfig where
  persistenceInterval : Option (JsNumber ℚ) := none
  cleanupInterval : Option (JsNumber ℚ) := none
  enableMetrics : Option Bool := none

def ManagerConfig.merge (config : ManagerConfig) (changes : PartialConfig) : ManagerConfig where
  persistenceInterval := changes.persistenceInterval.getD config.persistenceInterval
  cleanupInterval := changes.cleanupInterval.getD config.cleanupInterval
  enableMetrics := changes.enableMetrics.getD config.enableMetrics

def ManagerConfig.wants (config : ManagerConfig) : TimerKind → Bool
  | .persistence => (JsNumber.finite 0).lt config.persistenceInterval
  | .cleanup => (JsNumber.finite 0).lt config.cleanupInterval
  | .metrics => config.enableMetrics

structure PeriodicTasks where
  config : ManagerConfig
  timer : TimerKind → Option ℕ
  intervals : Intervals TimerKind

namespace PeriodicTasks
variable (tasks : PeriodicTasks)

def create (config : ManagerConfig) : PeriodicTasks := ⟨config,fun _ => none,.none⟩

-- The handle of a timer that is already running is overwritten.
def start (kind : TimerKind) : PeriodicTasks :=
  if tasks.config.wants kind then
    { tasks with
      timer := Function.update tasks.timer kind (some tasks.intervals.next)
      intervals := tasks.intervals.setInterval kind }
  else tasks

def clear (kind : TimerKind) : PeriodicTasks :=
  match tasks.timer kind with
  | some handle => { tasks with intervals := tasks.intervals.clearInterval handle }
  | none => tasks

def startPeriodicTasks : PeriodicTasks := ((tasks.start .persistence).start .cleanup).start .metrics

def restart (changes : PartialConfig) : PeriodicTasks :=
  ((({ tasks with config := tasks.config.merge changes } : PeriodicTasks).clear .persistence).clear
    .cleanup).startPeriodicTasks

def stop : PeriodicTasks := ((tasks.clear .persistence).clear .cleanup).clear .metrics

end PeriodicTasks

-- The moments at which the managers touch their timers: `initialize` once its data
-- are loaded, the other two when they are called. It may be overtaken by a shutdown
-- while they are loading. An initialization that throws does so before that moment;
-- loading catches what it throws, so only a tracker whose configuration is refused
-- makes one throw.
inductive ManagerEvent where
  | initialized (overtaken : Bool)
  | initializeFailed
  | updateConfiguration (changes : PartialConfig)
  | shutdown

namespace SketchManager

def initializeTasks (tasks : PeriodicTasks) : PeriodicTasks := tasks.startPeriodicTasks

def updateConfiguration (tasks : PeriodicTasks) (changes : PartialConfig) : PeriodicTasks := tasks.restart changes

def shutdown (tasks : PeriodicTasks) : PeriodicTasks := tasks.stop

def step (tasks : PeriodicTasks) : ManagerEvent → PeriodicTasks × Unit
  | .initialized _ => (initializeTasks tasks,())
  | .initializeFailed => (tasks,())
  | .updateConfiguration changes => (updateConfiguration tasks changes,())
  | .shutdown => (shutdown tasks,())

end SketchManager

namespace HyperLogLogManager

def initializeTasks (tasks : PeriodicTasks) : PeriodicTasks := tasks.startPeriodicTasks

def updateConfiguration (tasks : PeriodicTasks) (changes : PartialConfig) : PeriodicTasks := tasks.restart changes

def shutdown (tasks : PeriodicTasks) : PeriodicTasks := tasks.stop

def step (tasks : PeriodicTasks) : ManagerEvent → PeriodicTasks × Unit
  | .initialized _ => (initializeTasks tasks,())
  | .initializeFailed => (tasks,())
  | .updateConfiguration changes => (updateConfiguration tasks changes,())
  | .shutdown => (shutdown tasks,())

end HyperLogLogManager

-- At most one timer of each kind runs, and none after a shutdown until the manager is
-- initialized by a later call.
structure OneOfEach (s : PeriodicTasks × Bool) : Prop where
  single : ∀ kind, s.1.intervals.running kind ≤ 1
  silent : s.2 = true → ∀ kind, s.1.intervals.running kind = 0

def stopped (before : Bool) : ManagerEvent → Bool
  | .initialized overtaken => overtaken && before
  | .initializeFailed | .updateConfiguration _ => before
  | .shutdown => true

-- Nothing is started that is running, and nothing at all after a shutdown. A
-- configuration update stops the timers of two kinds first.
def StartsNothingTwice (s : PeriodicTasks × Bool) : ManagerEvent → Prop
  | .initialized overtaken =>
    (∀ kind, s.1.config.wants kind = true → s.1.intervals.running kind = 0) ∧
      ((overtaken && s.2) = true → ∀ kind, s.1.config.wants kind = false)
  | .updateConfiguration changes =>
    ((s.1.config.merge changes).wants .metrics = true → s.1.intervals.running .metrics = 0) ∧
      (s.2 = true → ∀ kind, (s.1.config.merge changes).wants kind = false)
  | .initializeFailed | .shutdown => True

namespace PeriodicTasks
variable {tasks : PeriodicTasks}

def Tracked (tasks : PeriodicTasks) : Prop := tasks.intervals.Remembered tasks.timer

@[simp] theorem start_config (tasks : PeriodicTasks) (kind : TimerKind) : (tasks.start kind).config = tasks.config := by
  unfold start
  split <;> rfl

@[simp] theorem clear_config (tasks : PeriodicTasks) (kind : TimerKind) : (tasks.clear kind).config = tasks.config := by
  unfold clear
  split <;> rfl

theorem running_start (tasks : PeriodicTasks) (kind other : TimerKind) :
    (tasks.start kind).intervals.running other =
      tasks.intervals.running other + if kind = other ∧ tasks.config.wants kind = true then 1 else 0 := by
  unfold start
  split
  · rename_i wanted
    simp only [Intervals.running_setInterval,wanted,and_true]
  · rename_i unwanted
    simp [unwanted]

theorem tracked_start (tracked : tasks.Tracked)
    (absent : tasks.config.wants kind = true → tasks.intervals.running kind = 0) : (tasks.start kind).Tracked := by
  unfold start
  split
  · rename_i wanted
    exact tracked.setInterval (absent wanted)
  · exact tracked

theorem tracked_clear (tracked : tasks.Tracked) (kind : TimerKind) : (tasks.clear kind).Tracked := by
  unfold clear
  split
  · exact tracked.clearInterval _
  · exact tracked

theorem running_clear (tracked : tasks.Tracked) (kind other : TimerKind) :
    (tasks.clear kind).intervals.running other = if other = kind then 0 else tasks.intervals.running other := by
  unfold clear
  split
  · rename_i handle given
    exact tracked.running_clearInterval given other
  · rename_i unset
    split
    · rename_i same
      rw [same]
      exact tracked.forgotten unset
    · rfl

theorem running_startPeriodicTasks (tasks : PeriodicTasks) (kind : TimerKind) :
    tasks.startPeriodicTasks.intervals.running kind =
      tasks.intervals.running kind + if tasks.config.wants kind = true then 1 else 0 := by
  unfold startPeriodicTasks
  rw [running_start,running_start,running_start]
  cases kind <;> simp

theorem tracked_startPeriodicTasks (tracked : tasks.Tracked)
    (absent : ∀ kind, tasks.config.wants kind = true → tasks.intervals.running kind = 0) :
    tasks.startPeriodicTasks.Tracked := by
  unfold startPeriodicTasks
  have first := tracked_start tracked (absent .persistence)
  have second : ((tasks.start .persistence).start .cleanup).Tracked := by
    apply tracked_start first
    intro wanted
    rw [running_start]
    simpa using absent .cleanup (by simpa using wanted)
  apply tracked_start second
  intro wanted
  rw [running_start,running_start]
  simpa using absent .metrics (by simpa using wanted)

theorem running_restart (tracked : tasks.Tracked) (changes : PartialConfig) (kind : TimerKind) :
    (tasks.restart changes).intervals.running kind =
      (if kind = .metrics then tasks.intervals.running kind else 0) +
        if (tasks.config.merge changes).wants kind = true then 1 else 0 := by
  unfold restart
  have merged : ({ tasks with config := tasks.config.merge changes } : PeriodicTasks).Tracked := tracked
  rw [running_startPeriodicTasks,running_clear (tracked_clear merged _),running_clear merged]
  cases kind <;> simp

theorem tracked_restart (tracked : tasks.Tracked)
    (absent : (tasks.config.merge changes).wants .metrics = true → tasks.intervals.running .metrics = 0) :
    (tasks.restart changes).Tracked := by
  have merged : ({ tasks with config := tasks.config.merge changes } : PeriodicTasks).Tracked := tracked
  apply tracked_startPeriodicTasks (tracked_clear (tracked_clear merged _) _)
  intro kind wanted
  rw [running_clear (tracked_clear merged _),running_clear merged]
  cases kind with
  | persistence => rfl
  | cleanup => rfl
  | metrics => exact absent (by simpa using wanted)

theorem running_stop (tracked : tasks.Tracked) (kind : TimerKind) : tasks.stop.intervals.running kind = 0 := by
  unfold stop
  have first := tracked_clear tracked .persistence
  rw [running_clear (tracked_clear first _),running_clear first,running_clear tracked]
  cases kind <;> rfl

theorem tracked_stop (tracked : tasks.Tracked) : tasks.stop.Tracked :=
  tracked_clear (tracked_clear (tracked_clear tracked _) _) _

end PeriodicTasks

section Runs
variable {s : PeriodicTasks × Bool}
open PeriodicTasks

-- What every state has on the way, as long as nothing has been started twice.
structure Sound (s : PeriodicTasks × Bool) : Prop where
  tracked : s.1.Tracked
  silent : s.2 = true → ∀ kind, s.1.intervals.running kind = 0

theorem Sound.oneOfEach (sound : Sound s) : OneOfEach s := ⟨sound.tracked.atMostOne,sound.silent⟩

theorem sound_create (config : ManagerConfig) : Sound (.create config,false) :=
  ⟨Intervals.remembered_none,fun impossible => by cases impossible⟩

theorem sound_initialized (sound : Sound s) (once : StartsNothingTwice s (.initialized overtaken)) :
    Sound (s.1.startPeriodicTasks,overtaken && s.2) := by
  refine ⟨tracked_startPeriodicTasks sound.tracked once.1,fun off kind => ?_⟩
  rw [running_startPeriodicTasks,once.2 off kind,sound.silent (Bool.and_eq_true_iff.mp off).2 kind]
  simp

theorem sound_restart (sound : Sound s) (once : StartsNothingTwice s (.updateConfiguration changes)) :
    Sound (s.1.restart changes,s.2) := by
  refine ⟨tracked_restart sound.tracked once.1,fun off kind => ?_⟩
  rw [running_restart sound.tracked,once.2 off kind,sound.silent off kind]
  simp

theorem sound_stop (sound : Sound s) : Sound (s.1.stop,true) :=
  ⟨tracked_stop sound.tracked,fun _ => running_stop sound.tracked⟩

theorem oneOfEach_initialized (one : OneOfEach (s.1.startPeriodicTasks,overtaken && s.2)) :
    StartsNothingTwice s (.initialized overtaken) := by
  refine ⟨fun kind wanted => ?_,fun off kind => ?_⟩
  · have bound := one.single kind
    rw [running_startPeriodicTasks,if_pos wanted] at bound
    omega
  · have none := one.silent off kind
    rw [running_startPeriodicTasks] at none
    cases wanted : s.1.config.wants kind with
    | false => rfl
    | true => simp [wanted] at none

theorem oneOfEach_restart (sound : Sound s) (one : OneOfEach (s.1.restart changes,s.2)) :
    StartsNothingTwice s (.updateConfiguration changes) := by
  refine ⟨fun wanted => ?_,fun off kind => ?_⟩
  · have bound := one.single .metrics
    rw [running_restart sound.tracked,if_pos rfl,if_pos wanted] at bound
    omega
  · have none := one.silent off kind
    rw [running_restart sound.tracked] at none
    cases wanted : (s.1.config.merge changes).wants kind with
    | false => rfl
    | true => simp [wanted] at none

theorem sketch_exact (sound : Sound s) (event : ManagerEvent) :
    (OneOfEach (withLedger SketchManager.step stopped s event).1 ↔ StartsNothingTwice s event) ∧
      (StartsNothingTwice s event → Sound (withLedger SketchManager.step stopped s event).1) := by
  cases event with
  | initialized overtaken =>
      have kept : StartsNothingTwice s (.initialized overtaken) → Sound (s.1.startPeriodicTasks,overtaken && s.2) :=
        sound_initialized sound
      exact ⟨⟨oneOfEach_initialized,fun once => (kept once).oneOfEach⟩,kept⟩
  | initializeFailed => exact ⟨iff_of_true sound.oneOfEach trivial,fun _ => sound⟩
  | updateConfiguration changes =>
      have kept : StartsNothingTwice s (.updateConfiguration changes) → Sound (s.1.restart changes,s.2) :=
        sound_restart sound
      exact ⟨⟨oneOfEach_restart sound,fun once => (kept once).oneOfEach⟩,kept⟩
  | shutdown =>
      have kept := sound_stop sound
      exact ⟨iff_of_true kept.oneOfEach trivial,fun _ => kept⟩

theorem manager_exact {step : PeriodicTasks → ManagerEvent → PeriodicTasks × Unit}
    (same : step = SketchManager.step) (config : ManagerConfig) (events : List ManagerEvent) :
    Throughout (withLedger step stopped) OneOfEach (.create config,false) events ↔
      Along (withLedger step stopped) StartsNothingTwice (.create config,false) events := by
  subst same
  exact throughout_exact_while (fun s event sound => (sketch_exact sound event).1)
    (fun s event sound => (sketch_exact sound event).2) (sound_create config) (sound_create config).oneOfEach

end Runs

-- In both managers the timers stay single exactly when nothing is started that is
-- running: a configuration update does not stop the metrics timer, and neither it nor
-- an initialization under way asks whether the manager has been shut down.
theorem timers_single_iff (config : ManagerConfig) (events : List ManagerEvent) :
    (Throughout (withLedger SketchManager.step stopped) OneOfEach (.create config,false) events ↔
      Along (withLedger SketchManager.step stopped) StartsNothingTwice (.create config,false) events) ∧
    (Throughout (withLedger HyperLogLogManager.step stopped) OneOfEach (.create config,false) events ↔
      Along (withLedger HyperLogLogManager.step stopped) StartsNothingTwice (.create config,false) events) :=
  ⟨manager_exact rfl config events,manager_exact rfl config events⟩

def production : ManagerConfig := ⟨.finite 300000,.finite 900000,true⟩

-- Two updates that change nothing leave three metrics timers, of which the shutdown
-- stops one.
theorem updates_leak_timers :
    let events : List ManagerEvent := [.initialized false,.updateConfiguration {},.updateConfiguration {},.shutdown]
    (exec SketchManager.step (.create production) events).1.intervals.running .metrics = 2 ∧
    (exec HyperLogLogManager.step (.create production) events).1.intervals.running .metrics = 2 ∧
    ¬Throughout (withLedger SketchManager.step stopped) OneOfEach (.create production,false) events ∧
    ¬Throughout (withLedger HyperLogLogManager.step stopped) OneOfEach (.create production,false) events := by
  have leaked : (exec SketchManager.step (.create production)
      [.initialized false,.updateConfiguration {},.updateConfiguration {},.shutdown]).1.intervals.running .metrics = 2 := by
    decide +kernel
  refine ⟨leaked,leaked,fun all => ?_,fun all => ?_⟩
  · have none := all.final.silent rfl .metrics
    cases leaked.symm.trans none
  · have none := all.final.silent rfl .metrics
    cases leaked.symm.trans none

end PhantomFlow.Managers
