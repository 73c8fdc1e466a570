import Mathlib.Data.Set.Basic
import Mathlib.Logic.Relation
import Mathlib.Logic.Function.Basic

namespace PhantomFlow.Library.Locks

inductive Mode where
  | read | write
deriving DecidableEq

def Mode.compatible : Mode → Mode → Bool
  | .read,.read => true
  | _,_ => false

inductive Action (Lock : Type u) where
  | acquire (lock : Lock) (mode : Mode)
  | release (lock : Lock)
deriving DecidableEq

-- A thread between two steps: the operations it still has to start, the rest of the
-- one it runs, and the guards it holds.
structure Thread (Lock : Type u) (ο : Type v) where
  program : List ο
  actions : List (Action Lock) := []
  held : List (Lock × Mode) := []

section System
variable {Lock : Type u} {ο : Type v} {ι : Type w} [DecidableEq Lock] [DecidableEq ι]
  (paths : ο → List (Action Lock) → Prop)

-- An operation takes one of its paths. A lock is given where every guard on it that
-- any thread holds is compatible with the mode asked for.
inductive Step : (ι → Thread Lock ο) → (ι → Thread Lock ο) → Prop where
  | start {s : ι → Thread Lock ο} (i : ι) (idle : s i = ⟨operation :: rest,[],held⟩) (path : paths operation actions) :
      Step s (Function.update s i ⟨rest,actions,held⟩)
  | acquire {s : ι → Thread Lock ο} (i : ι) (next : s i = ⟨program,.acquire lock mode :: rest,held⟩)
      (free : ∀ j, ∀ guard ∈ (s j).held, guard.1 = lock → mode.compatible guard.2 = true) :
      Step s (Function.update s i ⟨program,rest,(lock,mode) :: held⟩)
  | release {s : ι → Thread Lock ο} (i : ι) (next : s i = ⟨program,.release lock :: rest,held⟩) :
      Step s (Function.update s i ⟨program,rest,held.filter (fun guard => decide (guard.1 ≠ lock))⟩)

def Reaches (s t : ι → Thread Lock ο) : Prop := Relation.ReflTransGen (Step paths) s t

def start (programs : ι → List ο) (i : ι) : Thread Lock ο := ⟨programs i,[],[]⟩

omit [DecidableEq Lock] [DecidableEq ι] in
@[simp] theorem start_held (programs : ι → List ο) (i : ι) : (start programs i : Thread Lock ο).held = [] := rfl

def WaitsFor (s : ι → Thread Lock ο) (i j : ι) : Prop :=
  ∃ lock mode rest guard, (s i).actions = .acquire lock mode :: rest ∧ guard ∈ (s j).held ∧ guard.1 = lock ∧
    mode.compatible guard.2 = false

def Deadlocked (s : ι → Thread Lock ο) : Prop :=
  ∃ threads : Set ι, threads.Nonempty ∧ ∀ i ∈ threads, ∃ j ∈ threads, j ≠ i ∧ WaitsFor s i j

-- Every acquisition on the way meets `permits`, and no guard is left at the end.
def Follows (permits : List (Lock × Mode) → Lock → Mode → Prop) : List (Lock × Mode) → List (Action Lock) → Prop
  | held,[] => held = []
  | held,.acquire lock mode :: rest => permits held lock mode ∧ Follows permits ((lock,mode) :: held) rest
  | held,.release lock :: rest => Follows permits (held.filter (fun guard => decide (guard.1 ≠ lock))) rest

variable {paths}

theorem reaches_follows (permits : ι → List (Lock × Mode) → Lock → Mode → Prop) {programs : ι → List ο}
    (respected : ∀ i, ∀ operation ∈ programs i, ∀ path, paths operation path → Follows (permits i) [] path)
    (run : Reaches paths (start programs) s) :
    ∀ i, (∀ operation ∈ (s i).program, operation ∈ programs i) ∧ Follows (permits i) (s i).held (s i).actions := by
  have replaced : ∀ {s : ι → Thread Lock ο} {k : ι} {thread : Thread Lock ο},
      (∀ i, (∀ operation ∈ (s i).program, operation ∈ programs i) ∧ Follows (permits i) (s i).held (s i).actions) →
      (∀ operation ∈ thread.program, operation ∈ programs k) → Follows (permits k) thread.held thread.actions →
      ∀ i, (∀ operation ∈ (Function.update s k thread i).program, operation ∈ programs i) ∧
        Follows (permits i) (Function.update s k thread i).held (Function.update s k thread i).actions := by
    intro s k thread before program follows i
    by_cases same : i = k
    · subst i; rw [Function.update_self]; exact ⟨program,follows⟩
    · rw [Function.update_of_ne same]; exact before i
  induction run with
  | refl => exact fun i => ⟨fun _ member => member,rfl⟩
  | tail _ step ih =>
      cases step with
      | start k idle path =>
          have own := ih k
          rw [idle] at own
          have empty : _ = [] := own.2
          cases empty
          exact replaced ih (fun o member => own.1 o (List.mem_cons_of_mem _ member))
            (respected k _ (own.1 _ List.mem_cons_self) _ path)
      | acquire k next free =>
          have own := ih k
          rw [next] at own
          exact replaced ih own.1 own.2.2
      | release k next =>
          have own := ih k
          rw [next] at own
          exact replaced ih own.1 own.2

omit [DecidableEq ι] in
theorem Follows.waiting {permits : List (Lock × Mode) → Lock → Mode → Prop} {thread : Thread Lock ο}
    (follows : Follows permits thread.held thread.actions) (next : thread.actions = .acquire lock mode :: rest) :
    permits thread.held lock mode := by
  rw [next] at follows
  exact follows.1

omit [DecidableEq ι] in
theorem Follows.mono {permits weaker : List (Lock × Mode) → Lock → Mode → Prop} {held : List (Lock × Mode)}
    (implies : ∀ held lock mode, permits held lock mode → weaker held lock mode)
    (follows : Follows permits held actions) : Follows weaker held actions := by
  induction actions generalizing held with
  | nil => exact follows
  | cons action rest ih =>
      cases action with
      | acquire lock mode => exact ⟨implies _ _ _ follows.1,ih follows.2⟩
      | release lock => exact ih follows

-- A common order of the locks: whoever waits is waited for only at lower locks.
theorem no_deadlock_of_order {programs : ι → List ο} (rank : Lock → ℕ) (bound : ∀ lock, rank lock ≤ top)
    (ordered : ∀ i, ∀ operation ∈ programs i, ∀ path, paths operation path →
      Follows (fun held lock _ => ∀ guard ∈ held, rank guard.1 < rank lock) [] path)
    (run : Reaches paths (start programs) s) : ¬ Deadlocked s := by
  have follows := reaches_follows _ ordered run
  rintro ⟨threads,⟨first,member⟩,waiting⟩
  have climbs : ∀ n, ∀ i ∈ threads, ∀ lock mode rest, (s i).actions = .acquire lock mode :: rest →
      top - rank lock < n → False := by
    intro n
    induction n with
    | zero => intro i _ lock mode rest _ impossible; omega
    | succ n ih =>
        intro i here lock mode rest next small
        obtain ⟨j,there,_,lock',mode',rest',guard,next',held,same,_⟩ := waiting i here
        rw [next] at next'
        cases next'
        obtain ⟨_,_,_,lock',mode',rest',_,next',_⟩ := waiting j there
        have above := (follows j).2.waiting next' guard held
        rw [same] at above
        exact ih j there lock' mode' rest' next' (by have := bound lock'; omega)
  obtain ⟨_,_,_,lock,mode,rest,_,next,_⟩ := waiting first member
  exact climbs _ first member lock mode rest next (Nat.lt_succ_self _)

theorem no_deadlock_of_readers {programs : ι → List ο}
    (readers : ∀ i, ∀ operation ∈ programs i, ∀ path, paths operation path →
      Follows (fun held _ mode => mode = .read ∧ ∀ guard ∈ held, guard.2 = .read) [] path)
    (run : Reaches paths (start programs) s) : ¬ Deadlocked s := by
  have follows := reaches_follows _ readers run
  rintro ⟨threads,⟨first,member⟩,waiting⟩
  obtain ⟨j,there,_,lock,mode,rest,guard,next,held,_,conflict⟩ := waiting first member
  obtain ⟨_,_,_,lock',mode',rest',_,next',_⟩ := waiting j there
  have reading := ((follows first).2.waiting next).1
  have shared := ((follows j).2.waiting next').2 guard held
  rw [reading,shared] at conflict
  cases conflict

-- Threads that wait with empty hands wait for the one that may not.
theorem no_deadlock_of_single {programs : ι → List ο} (single : ι)
    (others : ∀ i, i ≠ single → ∀ operation ∈ programs i, ∀ path, paths operation path →
      Follows (fun held _ _ => held = []) [] path)
    (balanced : ∀ operation ∈ programs single, ∀ path, paths operation path → Follows (fun _ _ _ => True) [] path)
    (run : Reaches paths (start programs) s) : ¬ Deadlocked s := by
  have follows := reaches_follows (fun i held _ _ => i ≠ single → held = []) ?_ run
  · rintro ⟨threads,⟨first,member⟩,waiting⟩
    have holder : ∀ i ∈ threads, ∃ j ∈ threads, j ≠ i ∧ j = single := by
      intro i here
      obtain ⟨j,there,other,_,_,_,guard,_,held,_⟩ := waiting i here
      obtain ⟨_,_,_,lock,mode,rest,_,next,_⟩ := waiting j there
      refine ⟨j,there,other,?_⟩
      by_contra another
      rw [(follows j).2.waiting next another] at held
      cases held
    obtain ⟨j,there,_,same⟩ := holder first member
    obtain ⟨k,_,other,same'⟩ := holder j there
    exact other (same'.trans same.symm)
  · intro i operation member path possible
    by_cases same : i = single
    · subst i
      exact (balanced operation member path possible).mono (fun _ _ _ _ other => absurd rfl other)
    · exact (others i same operation member path possible).mono (fun _ _ _ empty _ => empty)

section Schedules
variable {s : ι → Thread Lock ο} {i j : ι}

theorem step_update {thread next : Thread Lock ο}
    (step : Step paths (Function.update s i thread) (Function.update (Function.update s i thread) i next)) :
    Step paths (Function.update s i thread) (Function.update s i next) := by
  rw [Function.update_idem] at step
  exact step

theorem reaches_end (quiet : ∀ j, j ≠ i → (s j).held = []) (program : List ο) {held : List (Lock × Mode)}
    (follows : Follows (fun held lock _ => ∀ guard ∈ held, guard.1 ≠ lock) held actions) :
    Reaches paths (Function.update s i ⟨program,actions,held⟩) (Function.update s i ⟨program,[],[]⟩) := by
  induction actions generalizing held with
  | nil =>
      have empty : held = [] := follows
      subst held
      exact .refl
  | cons action rest ih =>
      cases action with
      | acquire lock mode =>
          refine .head (step_update (.acquire i (Function.update_self i _ s) ?_)) (ih follows.2)
          intro j guard member same
          by_cases own : j = i
          · subst j
            rw [Function.update_self] at member
            exact absurd same (follows.1 guard member)
          · rw [Function.update_of_ne own,quiet j own] at member
            cases member
      | release lock => exact .head (step_update (.release i (Function.update_self i _ s))) (ih follows)

theorem reaches_later (quiet : ∀ j, j ≠ i → (s j).held = [])
    (possible : ∀ operation ∈ first, ∃ path, paths operation path ∧
      Follows (fun held lock _ => ∀ guard ∈ held, guard.1 ≠ lock) [] path) :
    Reaches paths (Function.update s i ⟨first ++ later,[],[]⟩) (Function.update s i ⟨later,[],[]⟩) := by
  induction first with
  | nil => exact .refl
  | cons operation rest ih =>
      obtain ⟨path,taken,follows⟩ := possible operation List.mem_cons_self
      refine .head (step_update (.start i (Function.update_self i _ s) taken)) ?_
      exact (reaches_end quiet (rest ++ later) follows).trans
        (ih (fun o member => possible o (List.mem_cons_of_mem operation member)))

theorem reaches_tail (here : s i = ⟨first ++ later,[],[]⟩) (quiet : ∀ j, j ≠ i → (s j).held = [])
    (possible : ∀ operation ∈ first, ∃ path, paths operation path ∧
      Follows (fun held lock _ => ∀ guard ∈ held, guard.1 ≠ lock) [] path) :
    Reaches paths s (Function.update s i ⟨later,[],[]⟩) := by
  have run : Reaches paths (Function.update s i ⟨first ++ later,[],[]⟩) (Function.update s i ⟨later,[],[]⟩) :=
    reaches_later quiet possible
  rw [← here,Function.update_eq_self] at run
  exact run

theorem reaches_first {actions : List (Action Lock)} (here : s i = ⟨operation :: later,[],[]⟩)
    (path : paths operation (.acquire lock mode :: actions))
    (free : ∀ j, j ≠ i → ∀ guard ∈ (s j).held, guard.1 ≠ lock) :
    Reaches paths s (Function.update s i ⟨later,actions,[(lock,mode)]⟩) := by
  have started : Step paths s (Function.update s i ⟨later,.acquire lock mode :: actions,[]⟩) := .start i here path
  refine .head started (.single (step_update (.acquire i (Function.update_self i _ s) ?_)))
  intro j guard member same
  by_cases own : j = i
  · subst j
    rw [Function.update_self] at member
    cases member
  · rw [Function.update_of_ne own] at member
    exact absurd same (free j own guard member)

theorem reaches_operations {programs : ι → List ο} (distinct : i ≠ j)
    (possible : ∀ operation, ∃ path, paths operation path ∧
      Follows (fun held lock _ => ∀ guard ∈ held, guard.1 ≠ lock) [] path)
    (mine : operation ∈ programs i) (theirs : operation' ∈ programs j) :
    ∃ s later later', Reaches paths (start programs) s ∧ s i = ⟨operation :: later,[],[]⟩ ∧
      s j = ⟨operation' :: later',[],[]⟩ ∧ ∀ k, (s k).held = [] := by
  obtain ⟨first,later,split⟩ := List.append_of_mem mine
  obtain ⟨first',later',split'⟩ := List.append_of_mem theirs
  let came : ι → Thread Lock ο := Function.update (start programs) i ⟨operation :: later,[],[]⟩
  have quiet : ∀ k, (came k).held = [] := by
    intro k
    by_cases own : k = i
    · subst k; simp [came]
    · simp [came,own]
  have toCame : Reaches paths (start programs) came :=
    reaches_tail (by rw [start,split]) (fun k _ => rfl) (fun o _ => possible o)
  let both : ι → Thread Lock ο := Function.update came j ⟨operation' :: later',[],[]⟩
  have toBoth : Reaches paths came both :=
    reaches_tail (by simp only [came]; rw [Function.update_of_ne distinct.symm,start,split']) (fun k _ => quiet k)
      (fun o _ => possible o)
  refine ⟨both,later,later',toCame.trans toBoth,?_,Function.update_self _ _ _,?_⟩
  · simp only [both]
    rw [Function.update_of_ne distinct]
    simp only [came,Function.update_self]
  · intro k
    by_cases own : k = j
    · subst k; simp [both]
    · simp only [both]
      rw [Function.update_of_ne own]
      exact quiet k

-- Two threads that take two locks in opposite orders, each in the way of the other.
theorem deadlock_of_opposite {programs : ι → List ο} (distinct : i ≠ j) (one : lock ≠ lock')
    (possible : ∀ operation, ∃ path, paths operation path ∧
      Follows (fun held lock _ => ∀ guard ∈ held, guard.1 ≠ lock) [] path)
    (mine : operation ∈ programs i) (path : paths operation (.acquire lock mode :: .acquire lock' mode' :: rest))
    (theirs : operation' ∈ programs j) (path' : paths operation' (.acquire lock' other' :: .acquire lock other :: rest'))
    (conflict : other.compatible mode = false) (conflict' : mode'.compatible other' = false) :
    ∃ s, Reaches paths (start programs) s ∧ Deadlocked s := by
  obtain ⟨both,later,later',toBoth,hereI,hereJ,silent⟩ := reaches_operations distinct possible mine theirs
  -- Each takes its first lock and meets the other at its second.
  let half : ι → Thread Lock ο := Function.update both i ⟨later,.acquire lock' mode' :: rest,[(lock,mode)]⟩
  have toHalf : Reaches paths both half := by
    refine reaches_first hereI path (fun k _ guard member => ?_)
    rw [silent k] at member
    cases member
  let last : ι → Thread Lock ο := Function.update half j ⟨later',.acquire lock other :: rest',[(lock',other')]⟩
  have toLast : Reaches paths half last := by
    refine reaches_first ?_ path' (fun k _ guard member => ?_)
    · simp only [half]
      rw [Function.update_of_ne distinct.symm,hereJ]
    · by_cases own : k = i
      · subst k
        simp only [half,Function.update_self,List.mem_singleton] at member
        rw [member]
        exact one
      · simp only [half] at member
        rw [Function.update_of_ne own,silent k] at member
        cases member
  have atI : last i = ⟨later,.acquire lock' mode' :: rest,[(lock,mode)]⟩ := by
    simp only [last]
    rw [Function.update_of_ne distinct]
    simp only [half,Function.update_self]
  have atJ : last j = ⟨later',.acquire lock other :: rest',[(lock',other')]⟩ := by simp only [last,Function.update_self]
  refine ⟨last,toBoth.trans (toHalf.trans toLast),{i,j},⟨i,.inl rfl⟩,?_⟩
  intro k member
  rcases member with same | same
  · subst k
    exact ⟨j,.inr rfl,distinct.symm,lock',mode',rest,(lock',other'),by rw [atI],by rw [atJ]; simp,rfl,conflict'⟩
  · cases same
    exact ⟨i,.inl rfl,distinct,lock,other,rest',(lock,mode),by rw [atJ],by rw [atI]; simp,rfl,conflict⟩

end Schedules

end System
end PhantomFlow.Library.Locks
