import Mathlib.Data.List.Nodup

namespace PhantomFlow.Library

-- The interval timers of a host: a handle is never given twice, and a timer runs
-- until it is cleared by its handle.
structure Intervals (κ : Type u) where
  live : List (ℕ × κ)
  next : ℕ
  issued : ∀ timer ∈ live, timer.1 < next
  distinct : (live.map Prod.fst).Nodup

namespace Intervals
variable {κ : Type u}

def none : Intervals κ := ⟨[],0,by simp,by simp⟩

def setInterval (timers : Intervals κ) (kind : κ) : Intervals κ where
  live := timers.live ++ [(timers.next,kind)]
  next := timers.next + 1
  issued := by
    intro timer present
    rcases List.mem_append.mp present with earlier | new
    · exact Nat.lt_succ_of_lt (timers.issued timer earlier)
    · rw [List.mem_singleton.mp new]
      exact Nat.lt_succ_self _
  distinct := by
    rw [List.map_append,List.map_singleton]
    apply List.nodup_append.mpr
    refine ⟨timers.distinct,List.nodup_singleton _,?_⟩
    intro id old other new same
    obtain ⟨timer,present,rfl⟩ := List.mem_map.mp old
    rw [List.mem_singleton.mp new] at same
    exact absurd same (Nat.ne_of_lt (timers.issued timer present))

def clearInterval (timers : Intervals κ) (handle : ℕ) : Intervals κ where
  live := timers.live.filter (fun timer => decide (timer.1 ≠ handle))
  next := timers.next
  issued := fun timer present => timers.issued timer (List.mem_filter.mp present).1
  distinct := timers.distinct.sublist (List.filter_sublist.map Prod.fst)

variable [DecidableEq κ]

def running (timers : Intervals κ) (kind : κ) : ℕ := (timers.live.filter (fun timer => decide (timer.2 = kind))).length

@[simp] theorem running_none (kind : κ) : (none : Intervals κ).running kind = 0 := rfl

theorem running_setInterval (timers : Intervals κ) (started kind : κ) :
    (timers.setInterval started).running kind = timers.running kind + if started = kind then 1 else 0 := by
  unfold running setInterval
  rw [List.filter_append,List.length_append]
  by_cases same : started = kind
  · simp [same]
  · simp [same]

theorem running_pos {timers : Intervals κ} (present : (handle,kind) ∈ timers.live) : 0 < timers.running kind :=
  List.length_pos_of_mem (List.mem_filter.mpr ⟨present,by simp⟩)

theorem running_eq_zero (timers : Intervals κ) (kind : κ) :
    timers.running kind = 0 ↔ ∀ handle, (handle,kind) ∉ timers.live := by
  constructor
  · intro zero handle present
    exact absurd zero (Nat.ne_of_gt (running_pos present))
  · intro absent
    rw [running,List.length_eq_zero_iff,List.filter_eq_nil_iff]
    rintro ⟨handle,other⟩ present same
    cases of_decide_eq_true same
    exact absent handle present

-- Handles remembered by kind: where every running timer is the one remembered,
-- there is at most one of a kind, and clearing what is remembered leaves none.
structure Remembered (timers : Intervals κ) (handles : κ → Option ℕ) : Prop where
  live : ∀ handle kind, (handle,kind) ∈ timers.live → handles kind = some handle
  issued : ∀ kind handle, handles kind = some handle → handle < timers.next
  own : ∀ one two handle, handles one = some handle → handles two = some handle → one = two

section Handles
variable {timers : Intervals κ} {handles : κ → Option ℕ}

omit [DecidableEq κ] in
theorem remembered_none : (none : Intervals κ).Remembered (fun _ => Option.none) where
  live := fun _ _ present => (List.not_mem_nil present).elim
  issued := fun _ _ given => (Option.some_ne_none _ given.symm).elim
  own := fun _ _ _ given => (Option.some_ne_none _ given.symm).elim

theorem Remembered.atMostOne (remembered : timers.Remembered handles) (kind : κ) : timers.running kind ≤ 1 := by
  have same : ∀ timer ∈ timers.live.filter (fun timer => decide (timer.2 = kind)),
      ∀ other ∈ timers.live.filter (fun timer => decide (timer.2 = kind)), timer = other := by
    rintro ⟨handle,one⟩ first ⟨handle',two⟩ second
    obtain ⟨here,kind₁⟩ := List.mem_filter.mp first
    obtain ⟨there,kind₂⟩ := List.mem_filter.mp second
    cases of_decide_eq_true kind₁
    cases of_decide_eq_true kind₂
    have both := (remembered.live handle _ here).symm.trans (remembered.live handle' _ there)
    cases both
    rfl
  have distinct : (timers.live.filter (fun timer => decide (timer.2 = kind))).Nodup :=
    (List.Nodup.of_map Prod.fst timers.distinct).filter _
  unfold running
  cases found : timers.live.filter (fun timer => decide (timer.2 = kind)) with
  | nil => exact Nat.zero_le _
  | cons timer rest =>
      cases rest with
      | nil => exact Nat.le_refl _
      | cons other rest =>
          rw [found] at same distinct
          have equal := same timer List.mem_cons_self other (List.mem_cons_of_mem _ List.mem_cons_self)
          rw [equal] at distinct
          exact absurd List.mem_cons_self (List.nodup_cons.mp distinct).1

theorem Remembered.setInterval (remembered : timers.Remembered handles) (absent : timers.running kind = 0) :
    (timers.setInterval kind).Remembered (Function.update handles kind (some timers.next)) := by
  constructor
  · intro handle other present
    rcases List.mem_append.mp present with earlier | new
    · have different : other ≠ kind := by
        rintro rfl
        exact (running_eq_zero timers _).mp absent handle earlier
      rw [Function.update_of_ne different]
      exact remembered.live handle other earlier
    · cases List.mem_singleton.mp new
      exact Function.update_self _ _ _
  · intro other handle given
    by_cases same : other = kind
    · subst other
      rw [Function.update_self] at given
      cases given
      exact Nat.lt_succ_self _
    · rw [Function.update_of_ne same] at given
      exact Nat.lt_succ_of_lt (remembered.issued other handle given)
  · intro one two handle first second
    by_cases here : one = kind
    · by_cases there : two = kind
      · rw [here,there]
      · rw [here,Function.update_self] at first
        rw [Function.update_of_ne there] at second
        cases first
        exact absurd (remembered.issued two _ second) (Nat.lt_irrefl _)
    · rw [Function.update_of_ne here] at first
      by_cases there : two = kind
      · rw [there,Function.update_self] at second
        cases second
        exact absurd (remembered.issued one _ first) (Nat.lt_irrefl _)
      · rw [Function.update_of_ne there] at second
        exact remembered.own one two handle first second

omit [DecidableEq κ] in
theorem Remembered.clearInterval (remembered : timers.Remembered handles) (handle : ℕ) :
    (timers.clearInterval handle).Remembered handles where
  live := fun other kind present => remembered.live other kind (List.mem_filter.mp present).1
  issued := remembered.issued
  own := remembered.own

theorem Remembered.running_clearInterval (remembered : timers.Remembered handles) (given : handles kind = some handle)
    (other : κ) : (timers.clearInterval handle).running other = if other = kind then 0 else timers.running other := by
  split
  · rename_i same
    subst other
    rw [running_eq_zero]
    intro handle' present
    obtain ⟨here,different⟩ := List.mem_filter.mp present
    have equal := (remembered.live handle' _ here).symm.trans given
    cases equal
    exact of_decide_eq_true different rfl
  · rename_i different
    unfold running Intervals.clearInterval
    rw [List.filter_filter]
    congr 1
    apply List.filter_congr
    rintro ⟨handle',kind'⟩ present
    by_cases here : kind' = other
    · subst kind'
      have kept : handle' ≠ handle := by
        rintro rfl
        exact different (remembered.own _ _ _ (remembered.live _ _ present) given)
      simp [kept]
    · simp [here]

theorem Remembered.forgotten (remembered : timers.Remembered handles) (unset : handles kind = Option.none) :
    timers.running kind = 0 := by
  rw [running_eq_zero]
  intro handle present
  rw [remembered.live handle kind present] at unset
  cases unset

end Handles
end Intervals
end PhantomFlow.Library
