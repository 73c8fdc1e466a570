import PhantomFlow.Library.Machine
import PhantomFlow.Library.OrderedMap

namespace PhantomFlow.Network.RateLimiters
open Library Library.Machine

structure MonitoringConfig where
  rateLimitRPS : ℤ
  rateLimitBurst : ℤ

-- The package `rate` with its pointers to limiters: `NewLimiter`, by the number of its
-- call, `Limit()` and `Burst()`. Nothing in the monitor sets another limit.
structure RateLibrary (L : Type) where
  newLimiter : ℕ → ℤ → ℤ → L
  limit : L → ℤ
  burst : L → ℤ

-- Every call allocates a limiter of its own, which tells what it was made with.
structure RateLibrary.Lawful {L : Type} (rate : RateLibrary L) : Prop where
  fresh : ∀ one two limit limit' burst burst',
    rate.newLimiter one limit burst = rate.newLimiter two limit' burst' → one = two
  limit_new : ∀ call limit burst, rate.limit (rate.newLimiter call limit burst) = limit
  burst_new : ∀ call limit burst, rate.burst (rate.newLimiter call limit burst) = burst

structure NetworkMonitor (L : Type) where
  config : MonitoringConfig
  rateLimiters : OrderedMap String L
  -- The goroutines that have found no limiter under the read lock and wait for the
  -- write lock.
  waiting : ℕ → Option String
  allocated : ℕ

-- One critical section of `rateLimiterMux` each.
inductive Section where
  | lookup (goroutine : ℕ) (ip : String)
  | insert (goroutine : ℕ)
  | performCleanup

inductive Output (L : Type) where
  | limiter (ip : String) (limiter : L)
  | missed
  | cleaned
  | disabled

variable {L : Type}

namespace NetworkMonitor

def new (config : MonitoringConfig) : NetworkMonitor L := ⟨config,.empty,fun _ => none,0⟩

variable (rate : RateLibrary L) (nm : NetworkMonitor L)

-- The first half of `GetRateLimiter`. A goroutine makes one call at a time.
def lookup (goroutine : ℕ) (ip : String) : NetworkMonitor L × Output L :=
  if (nm.waiting goroutine).isSome then (nm,.disabled)
  else match nm.rateLimiters.get ip with
    | some limiter => (nm,.limiter ip limiter)
    | none => ({ nm with waiting := Function.update nm.waiting goroutine (some ip) },.missed)

def newLimiter (ip : String) : NetworkMonitor L × L :=
  let limiter := rate.newLimiter nm.allocated nm.config.rateLimitRPS nm.config.rateLimitBurst
  ({ nm with rateLimiters := nm.rateLimiters.set ip limiter, allocated := nm.allocated + 1 },limiter)

-- The second half, with the double check.
def insert (goroutine : ℕ) : NetworkMonitor L × Output L :=
  match nm.waiting goroutine with
  | none => (nm,.disabled)
  | some ip =>
    let served := { nm with waiting := Function.update nm.waiting goroutine none }
    match served.rateLimiters.get ip with
    | some limiter => (served,.limiter ip limiter)
    | none => ((served.newLimiter rate ip).1,.limiter ip (served.newLimiter rate ip).2)

def performCleanup : NetworkMonitor L :=
  { nm with rateLimiters := nm.rateLimiters.filter (fun _ limiter => decide (rate.limit limiter ≠ 0)) }

def step : Section → NetworkMonitor L × Output L
  | .lookup goroutine ip => nm.lookup goroutine ip
  | .insert goroutine => nm.insert rate goroutine
  | .performCleanup => (nm.performCleanup rate,.cleaned)

end NetworkMonitor

-- A limiter handed out, and the number of cleanups before that.
structure Answer (L : Type) where
  ip : String
  limiter : L
  epoch : ℕ

structure Ledger (L : Type) where
  answers : List (Answer L) := []
  epoch : ℕ := 0

namespace Ledger

def note (ledger : Ledger L) : Output L → Ledger L
  | .limiter ip limiter => { ledger with answers := ledger.answers ++ [⟨ip,limiter,ledger.epoch⟩] }
  | .cleaned => { ledger with epoch := ledger.epoch + 1 }
  | _ => ledger

def of (outputs : List (Output L)) : Ledger L := outputs.foldl note {}

end Ledger

-- A cleanup removes the limiters that limit everything, or none at all.
def SameLife (config : MonitoringConfig) (one two : ℕ) : Prop := config.rateLimitRPS ≠ 0 ∨ one = two

def Agree (config : MonitoringConfig) (a b : Answer L) : Prop :=
  a.limiter = b.limiter ↔ a.ip = b.ip ∧ SameLife config a.epoch b.epoch

def Made (rate : RateLibrary L) (config : MonitoringConfig) (calls : ℕ) (limiter : L) : Prop :=
  ∃ call < calls, limiter = rate.newLimiter call config.rateLimitRPS config.rateLimitBurst

structure Shared (rate : RateLibrary L) (config : MonitoringConfig) (nm : NetworkMonitor L) (ledger : Ledger L) :
    Prop where
  config_eq : nm.config = config
  stored : ∀ ip limiter, nm.rateLimiters.get ip = some limiter → Made rate config nm.allocated limiter
  apart : ∀ ip other limiter, nm.rateLimiters.get ip = some limiter → nm.rateLimiters.get other = some limiter → ip = other
  past : ∀ a ∈ ledger.answers, a.epoch ≤ ledger.epoch ∧ Made rate config nm.allocated a.limiter
  current : ∀ a ∈ ledger.answers, SameLife config a.epoch ledger.epoch → nm.rateLimiters.get a.ip = some a.limiter
  stale : ∀ a ∈ ledger.answers, ¬ SameLife config a.epoch ledger.epoch → ∀ ip, nm.rateLimiters.get ip ≠ some a.limiter
  agree : ∀ a ∈ ledger.answers, ∀ b ∈ ledger.answers, Agree config a b

theorem new_shared (rate : RateLibrary L) (config : MonitoringConfig) : Shared rate config (.new config) {} where
  config_eq := rfl
  stored := fun _ _ none => nomatch none
  apart := fun _ _ _ none => nomatch none
  past := fun _ none => absurd none List.not_mem_nil
  current := fun _ none => absurd none List.not_mem_nil
  stale := fun _ none => absurd none List.not_mem_nil
  agree := fun _ none => absurd none List.not_mem_nil

section Steps
variable {rate : RateLibrary L} {config : MonitoringConfig} {nm : NetworkMonitor L} {ledger : Ledger L}

theorem SameLife.symm (same : SameLife config one two) : SameLife config two one := same.imp_right Eq.symm

theorem Agree.symm {a b : Answer L} (agree : Agree config a b) : Agree config b a :=
  ⟨fun same => ⟨(agree.mp same.symm).1.symm,(agree.mp same.symm).2.symm⟩,
    fun both => (agree.mpr ⟨both.1.symm,both.2.symm⟩).symm⟩

theorem Shared.waiting (shared : Shared rate config nm ledger) (waiting : ℕ → Option String) :
    Shared rate config { nm with waiting } ledger := { shared with }

theorem Shared.answered (shared : Shared rate config nm ledger) (found : nm.rateLimiters.get ip = some limiter) :
    Shared rate config nm (ledger.note (.limiter ip limiter)) := by
  have old : ∀ a ∈ ledger.answers, Agree config a ⟨ip,limiter,ledger.epoch⟩ := by
    intro a listed
    by_cases same : SameLife config a.epoch ledger.epoch
    · have here := shared.current a listed same
      constructor
      · intro equal
        exact ⟨shared.apart a.ip ip a.limiter here (equal ▸ found),same⟩
      · intro both
        have named : a.ip = ip := both.1
        rw [named,found] at here
        exact (Option.some.inj here).symm
    · constructor
      · intro equal
        exact absurd (equal ▸ found) (shared.stale a listed same ip)
      · exact fun both => absurd both.2 same
  have all {P : Answer L → Prop} (before : ∀ a ∈ ledger.answers, P a) (last : P ⟨ip,limiter,ledger.epoch⟩) :
      ∀ a ∈ ledger.answers ++ [⟨ip,limiter,ledger.epoch⟩], P a := by
    intro a listed
    rcases List.mem_append.mp listed with earlier | new
    · exact before a earlier
    · exact List.mem_singleton.mp new ▸ last
  exact { shared with
    past := all shared.past ⟨Nat.le_refl _,shared.stored ip limiter found⟩
    current := all shared.current (fun _ => found)
    stale := all shared.stale (fun different => absurd (.inr rfl) different)
    agree := all (fun a listed => all (shared.agree a listed) (old a listed))
      (all (fun b listed => (old b listed).symm) ⟨fun _ => ⟨rfl,.inr rfl⟩,fun _ => rfl⟩) }

theorem Made.later {limiter : L} (made : Made rate config calls limiter) : Made rate config (calls + 1) limiter := by
  obtain ⟨call,below,same⟩ := made
  exact ⟨call,Nat.lt_succ_of_lt below,same⟩

theorem Shared.created (lawful : rate.Lawful) (shared : Shared rate config nm ledger)
    (absent : nm.rateLimiters.get ip = none) : Shared rate config (nm.newLimiter rate ip).1 ledger := by
  let made := rate.newLimiter nm.allocated nm.config.rateLimitRPS nm.config.rateLimitBurst
  have reads (other : String) : (nm.newLimiter rate ip).1.rateLimiters.get other =
      if other = ip then some made else nm.rateLimiters.get other := OrderedMap.get_set ..
  have fresh : ∀ limiter, Made rate config nm.allocated limiter → limiter ≠ made := by
    rintro limiter ⟨call,below,rfl⟩ equal
    rw [lawful.fresh _ _ _ _ _ _ equal] at below
    exact Nat.lt_irrefl _ below
  refine { shared with stored := ?_, apart := ?_, past := ?_, current := ?_, stale := ?_ }
  · intro other limiter found
    rw [reads] at found
    split at found
    · have same := Option.some.inj found
      subst same
      exact ⟨nm.allocated,Nat.lt_succ_self _,by simp only [made,shared.config_eq]⟩
    · exact (shared.stored other limiter found).later
  · intro one two limiter first second
    rw [reads] at first second
    split at first
    · rename_i mine
      split at second
      · rename_i yours
        exact mine.trans yours.symm
      · exact absurd (Option.some.inj first).symm (fresh limiter (shared.stored two limiter second))
    · split at second
      · exact absurd (Option.some.inj second).symm (fresh limiter (shared.stored one limiter first))
      · exact shared.apart one two limiter first second
  · intro a listed
    obtain ⟨epoch,before⟩ := shared.past a listed
    exact ⟨epoch,before.later⟩
  · intro a listed same
    have here := shared.current a listed same
    rw [reads]
    split
    · rename_i mine
      rw [mine,absent] at here
      cases here
    · exact here
  · intro a listed different other
    rw [reads]
    split
    · exact fun equal => fresh a.limiter (shared.past a listed).2 (Option.some.inj equal).symm
    · exact shared.stale a listed different other

-- With a limit of zero the cleanup leaves nothing, and otherwise it takes nothing.
theorem Shared.cleaned (lawful : rate.Lawful) (shared : Shared rate config nm ledger) :
    Shared rate config (nm.performCleanup rate) (ledger.note .cleaned) := by
  have reads (ip : String) : (nm.performCleanup rate).rateLimiters.get ip =
      if config.rateLimitRPS = 0 then none else nm.rateLimiters.get ip := by
    rw [NetworkMonitor.performCleanup,OrderedMap.get_filter]
    cases found : nm.rateLimiters.get ip with
    | none => simp
    | some limiter =>
        obtain ⟨call,_,made⟩ := shared.stored ip limiter found
        have limit : rate.limit limiter = config.rateLimitRPS := by rw [made,lawful.limit_new]
        by_cases zero : config.rateLimitRPS = 0
        · simp [Option.filter,limit,zero]
        · simp [Option.filter,limit,zero]
  have before : ∀ ip limiter, (nm.performCleanup rate).rateLimiters.get ip = some limiter →
      config.rateLimitRPS ≠ 0 ∧ nm.rateLimiters.get ip = some limiter := by
    intro ip limiter found
    rw [reads] at found
    split at found
    · cases found
    · rename_i nonzero
      exact ⟨nonzero,found⟩
  refine ⟨shared.config_eq,?_,?_,?_,?_,?_,shared.agree⟩
  · exact fun ip limiter found => shared.stored ip limiter (before ip limiter found).2
  · exact fun one two limiter first second =>
      shared.apart one two limiter (before one limiter first).2 (before two limiter second).2
  · intro a listed
    obtain ⟨epoch,rest⟩ := shared.past a listed
    exact ⟨Nat.le_succ_of_le epoch,rest⟩
  · intro a listed same
    have nonzero : config.rateLimitRPS ≠ 0 := by
      rcases same with nonzero | equal
      · exact nonzero
      · have earlier := (shared.past a listed).1
        have later : a.epoch = ledger.epoch + 1 := equal
        omega
    rw [reads,if_neg nonzero]
    exact shared.current a listed (.inl nonzero)
  · intro a listed different ip found
    exact different (.inl (before ip a.limiter found).1)

theorem step_shared (lawful : rate.Lawful) (shared : Shared rate config nm ledger) (entered : Section) :
    Shared rate config (nm.step rate entered).1 (ledger.note (nm.step rate entered).2) := by
  cases entered with
  | lookup goroutine ip =>
      rw [NetworkMonitor.step,NetworkMonitor.lookup]
      split
      · exact shared
      · split
        · rename_i limiter found
          exact shared.answered found
        · exact shared.waiting _
  | insert goroutine =>
      rw [NetworkMonitor.step,NetworkMonitor.insert]
      split
      · exact shared
      · rename_i ip called
        have served := shared.waiting (Function.update nm.waiting goroutine none)
        dsimp only
        split
        · rename_i limiter found
          exact served.answered found
        · rename_i absent
          exact (served.created lawful absent).answered (OrderedMap.get_set_self ..)
  | performCleanup => exact shared.cleaned lawful

end Steps

-- Two calls get one limiter exactly for one address, unless a cleanup came between them
-- while everything is limited. No two goroutines ever make one each.
theorem limiters_shared (rate : RateLibrary L) (lawful : rate.Lawful) (config : MonitoringConfig)
    (sections : List Section) :
    let answers := (Ledger.of (exec (NetworkMonitor.step rate) (.new config) sections).2).answers
    (∀ a ∈ answers, ∀ b ∈ answers,
      a.limiter = b.limiter ↔ a.ip = b.ip ∧ (config.rateLimitRPS ≠ 0 ∨ a.epoch = b.epoch)) ∧
      ∀ a ∈ answers, rate.limit a.limiter = config.rateLimitRPS ∧ rate.burst a.limiter = config.rateLimitBurst := by
  have noted : ∀ (nm : NetworkMonitor L) (ledger : Ledger L) (entered : Section), True → Shared rate config nm ledger →
      Shared rate config (nm.step rate entered).1 (ledger.note (nm.step rate entered).2) :=
    fun _ _ entered _ shared => step_shared lawful shared entered
  have shared : Shared rate config (exec (NetworkMonitor.step rate) (.new config) sections).1
      (Ledger.of (exec (NetworkMonitor.step rate) (.new config) sections).2) :=
    exec_answered (Shared rate config) noted (new_shared rate config) (fun _ _ => trivial)
  refine ⟨shared.agree,?_⟩
  intro a listed
  obtain ⟨call,_,made⟩ := (shared.past a listed).2
  rw [made]
  exact ⟨lawful.limit_new _ _ _,lawful.burst_new _ _ _⟩

def numbered : RateLibrary (ℕ × ℤ × ℤ) where
  newLimiter call limit burst := (call,limit,burst)
  limit limiter := limiter.2.1
  burst limiter := limiter.2.2

theorem numbered_lawful : numbered.Lawful where
  fresh := fun _ _ _ _ _ _ same => congrArg Prod.fst same
  limit_new := fun _ _ _ => rfl
  burst_new := fun _ _ _ => rfl

-- Two goroutines find nothing at the same time, and a third comes after a cleanup.
theorem limiters_shared_two :
    let sections : List Section := [.lookup 1 "10.0.0.1",.lookup 2 "10.0.0.1",.insert 2,.insert 1,.performCleanup,
      .lookup 3 "10.0.0.1"]
    let answers := (Ledger.of (exec (NetworkMonitor.step numbered) (.new ⟨10,20⟩) sections).2).answers
    answers.length = 3 ∧ ∀ a ∈ answers, ∀ b ∈ answers, a.limiter = b.limiter := by
  intro sections answers
  have shared := (limiters_shared numbered numbered_lawful ⟨10,20⟩ sections).1
  have named : ∀ a ∈ answers, a.ip = "10.0.0.1" := by decide
  refine ⟨by decide,?_⟩
  intro a first b second
  exact (shared a first b second).mpr ⟨(named a first).trans (named b second).symm,Or.inl (by decide)⟩

end PhantomFlow.Network.RateLimiters
