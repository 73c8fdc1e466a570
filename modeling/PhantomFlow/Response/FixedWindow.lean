import PhantomFlow.Response.ActionIsolation

namespace PhantomFlow.Response
open Library Library.Machine

namespace FixedWindow

-- What a fixed window is: the client's current one, and how many calls it has let
-- through so far. Clients are told apart by their keys.
structure Window where
  start : ℤ
  admitted : ℕ
  deriving DecidableEq

abbrev Ledger := String → Option Window
abbrev LimitCall := ActionExecutionContext × HttpResponse

variable (config : ResponseActionConfig) (settings : RateLimitSettings)

def Window.ends (window : Window) : ℚ := window.start + settings.window

-- A call at or after the end of the last window begins a new one.
def current (ledger : Ledger) (context : ActionExecutionContext) : Window :=
  ((ledger context.key).filter (fun window => decide ((context.now : ℚ) < window.ends settings))).getD ⟨context.now,0⟩

def Refuses (ledger : Ledger) (context : ActionExecutionContext) : Prop :=
  settings.requests ≤ (current settings ledger context).admitted

instance (ledger : Ledger) (context : ActionExecutionContext) : Decidable (Refuses settings ledger context) :=
  inferInstanceAs (Decidable (_ ≤ _))

def record (ledger : Ledger) (call : LimitCall) : Ledger :=
  let window := current settings ledger call.1
  Function.update ledger call.1.key
    (some (if Refuses settings ledger call.1 then window else { window with admitted := window.admitted + 1 }))

def counting := withLedger (RateLimitAction.call config) (record settings)

def start : BaseResponseAction × Ledger := (⟨.empty,.empty⟩,fun _ => none)

def letThrough (result : ActionExecutionResult) : Bool :=
  result.metadata.any (fun metadata => match metadata with
    | .counted blocked _ _ => !blocked
    | _ => false)

def Lawful (s : BaseResponseAction × Ledger) (call : LimitCall) : Prop :=
  let run := RateLimitAction.execute s.1 config call.1 call.2
  (letThrough run.result = false ↔ Refuses settings s.2 call.1) ∧
    (letThrough run.result = false → call.2.headersSent = false → ∃ retryAfter, 0 < retryAfter ∧
      run.response.sent = [.rateLimitExceeded retryAfter settings.requests (settings.window / 1000)])

-- The client's entry is still there although its window has ended: the clean-up
-- waits for as long again.
def MeetsFinished (action : BaseResponseAction) (context : ActionExecutionContext) : Prop :=
  (action.rateLimitStore.get context.key).any (fun entry =>
    decide (entry.resetTime ≤ (context.now : ℚ) ∧ (context.now : ℚ) ≤ entry.resetTime + settings.window)) = true

def Overstays (action : BaseResponseAction) (context : ActionExecutionContext) : Prop :=
  (action.rateLimitStore.get context.key).any (fun entry =>
    decide ((entry.resetTime ≤ (context.now : ℚ) ∧ (context.now : ℚ) ≤ entry.resetTime + settings.window) ∧
      settings.requests ≤ entry.count)) = true

structure Tracks (now : ℤ) (action : BaseResponseAction) (ledger : Ledger) : Prop where
  counted : ∀ key entry, action.rateLimitStore.get key = some entry →
    ∃ window, ledger key = some window ∧ entry = ⟨window.admitted,window.ends settings⟩
  forgotten : ∀ key window, action.rateLimitStore.get key = none → ledger key = some window →
    window.ends settings < now

section Step
variable {config settings} {action : BaseResponseAction} {ledger : Ledger} {context : ActionExecutionContext}

theorem Tracks.mono (tracks : Tracks settings now action ledger) (after : now ≤ later) :
    Tracks settings later action ledger :=
  ⟨tracks.counted,fun key window none known =>
    lt_of_lt_of_le (tracks.forgotten key window none known) (Int.cast_le.mpr after)⟩

theorem current_live (action : BaseResponseAction) (context : ActionExecutionContext) :
    RateLimitAction.current action settings context =
      (OrderedMap.live RateLimitEntry.resetTime action.rateLimitStore context.key (context.now - settings.window)).getD
        ⟨0,context.now + settings.window⟩ :=
  congrArg (fun entry => entry.getD (⟨0,context.now + settings.window⟩ : RateLimitEntry))
    (OrderedMap.get_expire _ _ _ _)

-- The three things a call can find: no entry, or one that is cleaned away now; the
-- entry of a window that has ended; the entry of the running one.
theorem tracked_cases (tracks : Tracks settings context.now action ledger) (positive : 0 < settings.window) :
    (RateLimitAction.current action settings context = ⟨0,context.now + settings.window⟩ ∧
        current settings ledger context = ⟨context.now,0⟩ ∧ ¬ MeetsFinished settings action context) ∨
      (∃ entry, action.rateLimitStore.get context.key = some entry ∧
        RateLimitAction.current action settings context = entry ∧ current settings ledger context = ⟨context.now,0⟩ ∧
        entry.resetTime ≤ context.now ∧ context.now ≤ entry.resetTime + settings.window) ∨
      (∃ window, current settings ledger context = window ∧ (context.now : ℚ) < window.ends settings ∧
        RateLimitAction.current action settings context = ⟨window.admitted,window.ends settings⟩ ∧
        ¬ MeetsFinished settings action context) := by
  rw [current_live]
  unfold OrderedMap.live current MeetsFinished
  cases found : action.rateLimitStore.get context.key with
  | none =>
      refine .inl ⟨rfl,?_,Bool.false_ne_true⟩
      cases known : ledger context.key with
      | none => rfl
      | some window =>
          have ended := tracks.forgotten _ _ found known
          simp [Option.filter,not_lt_of_ge (le_of_lt ended)]
  | some entry =>
      obtain ⟨window,known,same⟩ := tracks.counted _ _ found
      have reset : entry.resetTime = window.ends settings := by rw [same]
      rw [known]
      by_cases running : (context.now : ℚ) < window.ends settings
      · have live : ¬ entry.resetTime < context.now - settings.window := by rw [reset]; linarith
        refine .inr (.inr ⟨window,?_,running,?_,?_⟩)
        · simp [Option.filter,running]
        · rw [← same]
          simp [Option.filter,live]
        · simp [reset,running]
      · have ended := le_of_not_gt running
        by_cases cleaned : entry.resetTime < context.now - settings.window
        · refine .inl ⟨?_,?_,?_⟩
          · simp [Option.filter,cleaned]
          · simp [Option.filter,running]
          · simp only [Option.any_some,decide_eq_true_eq,not_and]
            intro _ kept
            linarith
        · refine .inr (.inl ⟨entry,rfl,?_,?_,?_,?_⟩)
          · simp [Option.filter,cleaned]
          · simp [Option.filter,running]
          · rw [reset]; exact ended
          · linarith

theorem letThrough_iff (configured : config.rateLimit = some settings) (action : BaseResponseAction)
    (context : ActionExecutionContext) (res : HttpResponse) :
    letThrough (RateLimitAction.execute action config context res).result = false ↔
      settings.requests ≤ (RateLimitAction.current action settings context).count := by
  simp only [RateLimitAction.execute,configured]
  split
  · rename_i full
    refine iff_of_true ?_ full
    cases res.send (.rateLimitExceeded ⌈((RateLimitAction.current action settings context).resetTime - context.now) / 1000⌉
      settings.requests (settings.window / 1000)) with
    | error message => rfl
    | ok response => rfl
  · rename_i room
    exact iff_of_false Bool.false_ne_true.symm room

theorem reports (configured : config.rateLimit = some settings)
    (full : settings.requests ≤ (RateLimitAction.current action settings context).count) (fresh : res.headersSent = false) :
    (RateLimitAction.execute action config context res).response.sent =
      [.rateLimitExceeded ⌈((RateLimitAction.current action settings context).resetTime - context.now) / 1000⌉
        settings.requests (settings.window / 1000)] := by
  have unsent : res.sent = [] := by simpa [HttpResponse.headersSent] using fresh
  simp only [RateLimitAction.execute,configured,if_pos full,HttpResponse.send,fresh,Bool.false_eq_true,if_false,completed,
    unsent,List.nil_append]

theorem lawful_of_running (configured : config.rateLimit = some settings) {window : Window}
    (same : RateLimitAction.current action settings context = ⟨window.admitted,window.ends settings⟩)
    (known : current settings ledger context = window) (running : (context.now : ℚ) < window.ends settings)
    (res : HttpResponse) : Lawful config settings (action,ledger) (context,res) := by
  constructor
  · rw [letThrough_iff configured,same,Refuses,known]
  · intro refused fresh
    have full := (letThrough_iff configured action context res).mp refused
    refine ⟨_,?_,reports configured full fresh⟩
    rw [same]
    apply Int.ceil_pos.mpr
    apply div_pos
    · exact sub_pos.mpr running
    · norm_num

theorem lawful_step (configured : config.rateLimit = some settings) (one : 1 ≤ settings.requests)
    (positive : 0 < settings.window) (tracks : Tracks settings context.now action ledger) (res : HttpResponse) :
    Lawful config settings (action,ledger) (context,res) ↔ ¬ Overstays settings action context := by
  have begins : (context.now : ℚ) < (⟨context.now,0⟩ : Window).ends settings := by
    rw [Window.ends]
    linarith
  have implied : Overstays settings action context → MeetsFinished settings action context := by
    intro overstays
    obtain ⟨entry,found,checked⟩ := (Option.any_eq_true _ _).mp overstays
    exact (Option.any_eq_true _ _).mpr ⟨entry,found,decide_eq_true (of_decide_eq_true checked).1⟩
  rcases tracked_cases tracks positive with ⟨same,known,clear⟩ | finished | ⟨window,known,running,same,clear⟩
  · exact iff_of_true (lawful_of_running configured same known begins res) (fun overstays => clear (implied overstays))
  · obtain ⟨entry,found,same,known,ended⟩ := finished
    have admits : ¬ Refuses settings ledger context := by
      rw [Refuses,known]
      intro none
      have : settings.requests ≤ 0 := by exact_mod_cast none
      linarith
    have overstays : Overstays settings action context ↔ settings.requests ≤ entry.count := by
      rw [Overstays,found]
      simp [ended]
    rw [overstays,← same,← letThrough_iff configured action context res]
    constructor
    · intro lawful refused
      exact admits (lawful.1.mp refused)
    · intro through
      exact ⟨iff_of_false through admits,fun refused => absurd refused through⟩
  · exact iff_of_true (lawful_of_running configured same known running res) (fun overstays => clear (implied overstays))

theorem current_tracked (tracks : Tracks settings context.now action ledger) (positive : 0 < settings.window)
    (clear : ¬ MeetsFinished settings action context) :
    RateLimitAction.current action settings context =
      ⟨(current settings ledger context).admitted,(current settings ledger context).ends settings⟩ := by
  rcases tracked_cases tracks positive with ⟨same,known,_⟩ | ⟨entry,found,_,_,ended⟩ | ⟨window,known,_,same,_⟩
  · rw [same,known]
    rfl
  · exact absurd ((Option.any_eq_true _ _).mpr ⟨entry,found,decide_eq_true ended⟩) clear
  · rw [same,known]

theorem tracks_expired (tracks : Tracks settings now action ledger) (positive : 0 < settings.window) :
    Tracks settings now
      { action with rateLimitStore := OrderedMap.expire RateLimitEntry.resetTime action.rateLimitStore (now - settings.window) }
      ledger := by
  constructor
  · intro key entry found
    exact tracks.counted key entry (OrderedMap.get_filter_some found)
  · intro key window none known
    cases stored : action.rateLimitStore.get key with
    | none => exact tracks.forgotten key window stored known
    | some entry =>
        obtain ⟨window',known',same⟩ := tracks.counted key entry stored
        rw [known] at known'
        cases known'
        change (OrderedMap.expire _ _ _).get key = Option.none at none
        rw [OrderedMap.get_expire,OrderedMap.live,stored,same] at none
        by_cases cleaned : window.ends settings < now - settings.window
        · linarith
        · simp [Option.filter,not_lt.mp cleaned] at none

theorem tracks_set (tracks : Tracks settings now action ledger) (key : String) (window : Window) :
    Tracks settings now
      { action with rateLimitStore := action.rateLimitStore.set key ⟨window.admitted,window.ends settings⟩ }
      (Function.update ledger key (some window)) := by
  constructor
  · intro key' entry found
    rw [OrderedMap.get_set] at found
    by_cases same : key' = key
    · rw [if_pos same] at found
      cases found
      exact ⟨window,by rw [same,Function.update_self],rfl⟩
    · rw [if_neg same] at found
      rw [Function.update_of_ne same]
      exact tracks.counted key' entry found
  · intro key' window' none known
    rw [OrderedMap.get_set] at none
    by_cases same : key' = key
    · rw [if_pos same] at none
      cases none
    · rw [if_neg same] at none
      rw [Function.update_of_ne same] at known
      exact tracks.forgotten key' window' none known

theorem tracks_step (configured : config.rateLimit = some settings) (one : 1 ≤ settings.requests)
    (positive : 0 < settings.window) (tracks : Tracks settings context.now action ledger)
    (clear : ¬ MeetsFinished settings action context) (res : HttpResponse) :
    Tracks settings context.now (RateLimitAction.execute action config context res).action
      (record settings ledger (context,res)) := by
  have same := current_tracked tracks positive clear
  have expired := tracks_expired tracks positive
  have stores := limit_stores configured action context res
  rw [same] at stores
  dsimp only at stores
  unfold record
  dsimp only
  by_cases full : Refuses settings ledger context
  · rw [if_pos (show settings.requests ≤ _ from full)] at stores
    rw [if_pos full]
    -- The window is full, so it is the one on record.
    have known : ledger context.key = some (current settings ledger context) := by
      have admitted : (current settings ledger context).admitted ≠ 0 := by
        intro zero
        rw [Refuses,zero] at full
        have : settings.requests ≤ 0 := by exact_mod_cast full
        linarith
      unfold current at admitted ⊢
      cases kept : (ledger context.key).filter
          (fun window => decide ((context.now : ℚ) < Window.ends settings window)) with
      | none => rw [kept] at admitted; exact absurd rfl admitted
      | some window => exact (Option.filter_eq_some_iff.mp kept).1
    have unchanged : Function.update ledger context.key (some (current settings ledger context)) = ledger := by
      rw [← known]
      exact Function.update_eq_self _ _
    rw [unchanged]
    exact ⟨by rw [stores]; exact expired.counted,by rw [stores]; exact expired.forgotten⟩
  · rw [if_neg (show ¬ settings.requests ≤ _ from full)] at stores
    rw [if_neg full]
    have next := tracks_set expired context.key
      { current settings ledger context with admitted := (current settings ledger context).admitted + 1 }
    exact ⟨by rw [stores]; exact next.counted,by rw [stores]; exact next.forgotten⟩

end Step

section Runs
variable {config settings}

theorem tracks_start (settings : RateLimitSettings) (now : ℤ) : Tracks settings now start.1 start.2 := by
  constructor
  · intro key entry found
    cases found
  · intro key window none known
    cases known

theorem lawful_along (configured : config.rateLimit = some settings) (one : 1 ≤ settings.requests)
    (positive : 0 < settings.window) {calls : List LimitCall} {s : BaseResponseAction × Ledger}
    (tracks : Tracks settings now s.1 s.2) (after : ∀ call ∈ calls, now ≤ call.1.now)
    (ordered : calls.Pairwise (fun one two => one.1.now ≤ two.1.now))
    (clear : Along (counting config settings) (fun s call => ¬ MeetsFinished settings s.1 call.1) s calls) :
    Along (counting config settings) (Lawful config settings) s calls ∧
      ∀ later, (∀ call ∈ calls, call.1.now ≤ later) → now ≤ later →
        Tracks settings later (exec (counting config settings) s calls).1.1 (exec (counting config settings) s calls).1.2 := by
  induction calls generalizing s now with
  | nil => exact ⟨trivial,fun later _ next => tracks.mono next⟩
  | cons call rest ih =>
      obtain ⟨first,_⟩ := List.forall_mem_cons.mp after
      obtain ⟨others,tail⟩ := List.pairwise_cons.mp ordered
      have here := tracks.mono first
      have lawful := (lawful_step configured one positive here call.2).mpr (fun overstays => by
        obtain ⟨entry,found,checked⟩ := (Option.any_eq_true _ _).mp overstays
        exact clear.1 ((Option.any_eq_true _ _).mpr ⟨entry,found,decide_eq_true (of_decide_eq_true checked).1⟩))
      have next := tracks_step configured one positive here clear.1 call.2
      obtain ⟨along,final⟩ := ih next others tail clear.2
      refine ⟨⟨lawful,along⟩,?_⟩
      intro later all _
      obtain ⟨own,all⟩ := List.forall_mem_cons.mp all
      exact final later all own

theorem fixed_window_exact (config : ResponseActionConfig) (settings : RateLimitSettings)
    (configured : config.rateLimit = some settings) (one : 1 ≤ settings.requests) (positive : 0 < settings.window)
    (calls : List LimitCall) (call : LimitCall) (ordered : InOrder ((calls ++ [call]).map Prod.fst))
    (clear : Along (counting config settings) (fun s call => ¬ MeetsFinished settings s.1 call.1) start calls) :
    Along (counting config settings) (Lawful config settings) start calls ∧
      (Lawful config settings (exec (counting config settings) start calls).1 call ↔
        ¬ Overstays settings (exec (counting config settings) start calls).1.1 call.1) := by
  rw [InOrder,List.pairwise_map] at ordered
  obtain ⟨before,_,upTo⟩ := List.pairwise_append.mp ordered
  have last : ∀ earlier ∈ calls, earlier.1.now ≤ call.1.now := fun earlier listed =>
    upTo earlier listed call (List.mem_singleton_self call)
  cases calls with
  | nil => exact ⟨trivial,lawful_step configured one positive (tracks_start settings call.1.now) call.2⟩
  | cons first rest =>
      have after : ∀ later ∈ first :: rest, first.1.now ≤ later.1.now :=
        List.forall_mem_cons.mpr ⟨le_refl _,(List.pairwise_cons.mp before).1⟩
      obtain ⟨along,final⟩ := lawful_along configured one positive (tracks_start settings first.1.now) after before clear
      exact ⟨along,lawful_step configured one positive
        (final call.1.now last (last first List.mem_cons_self)) call.2⟩

def secondly : RateLimitSettings := ⟨1,1000,none⟩
def callAt (now : ℤ) : LimitCall := (⟨now,"10.0.0.1","a",""⟩,.fresh)

theorem fixed_window_exact_first :
    Along (counting { rateLimit := some secondly } secondly) (Lawful { rateLimit := some secondly } secondly) start [callAt 0] ∧
      (Lawful { rateLimit := some secondly } secondly
          (exec (counting { rateLimit := some secondly } secondly) start [callAt 0]).1 (callAt 500) ↔
        ¬ Overstays secondly (exec (counting { rateLimit := some secondly } secondly) start [callAt 0]).1.1 (callAt 500).1) :=
  fixed_window_exact { rateLimit := some secondly } secondly rfl (le_refl 1) (by norm_num [secondly]) [callAt 0] (callAt 500)
    (by unfold InOrder; decide) ⟨by unfold MeetsFinished; decide,trivial⟩

-- The second call comes when the window of the first has just ended.
theorem refused_after_window :
    ¬ ∀ (config : ResponseActionConfig) (settings : RateLimitSettings), config.rateLimit = some settings →
      1 ≤ settings.requests → 0 < settings.window → ∀ calls : List LimitCall, InOrder (calls.map Prod.fst) →
        Along (counting config settings) (Lawful config settings) start calls := by
  intro all
  have lawful := all { rateLimit := some secondly } secondly rfl (le_refl 1) (by norm_num [secondly])
    [callAt 0,callAt 1000] (by unfold InOrder; decide)
  have refused : letThrough (RateLimitAction.execute
      (counting { rateLimit := some secondly } secondly start (callAt 0)).1.1 { rateLimit := some secondly }
      (callAt 1000).1 (callAt 1000).2).result = false := by decide +kernel
  have refuses := lawful.2.1.1.mp refused
  revert refuses
  decide +kernel

end Runs
end FixedWindow
end PhantomFlow.Response
