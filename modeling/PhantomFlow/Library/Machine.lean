import Mathlib.Data.List.Basic
import Mathlib.Order.Defs.PartialOrder

namespace PhantomFlow.Library.Machine
variable {σ : Type u} {ι : Type v} {ο : Type w} {τ : Type x} (step : σ → ι → σ × ο)

-- One deterministic machine: every input moves the state and gives an output.
def exec : σ → List ι → σ × List ο
  | s,[] => (s,[])
  | s,i :: rest =>
    let next := step s i
    let tail := exec next.1 rest
    (tail.1,next.2 :: tail.2)

@[simp] theorem exec_nil (s : σ) : exec step s [] = (s,[]) := rfl
@[simp] theorem exec_cons (s : σ) (i : ι) (rest : List ι) :
    exec step s (i :: rest) =
      ((exec step (step s i).1 rest).1,(step s i).2 :: (exec step (step s i).1 rest).2) := rfl

theorem exec_append (s : σ) (first second : List ι) :
    exec step s (first ++ second) =
      ((exec step (exec step s first).1 second).1,
        (exec step s first).2 ++ (exec step (exec step s first).1 second).2) := by
  induction first generalizing s with
  | nil => rfl
  | cons i rest ih => simp [ih]

theorem exec_snoc (s : σ) (inputs : List ι) (i : ι) :
    exec step s (inputs ++ [i]) =
      ((step (exec step s inputs).1 i).1,(exec step s inputs).2 ++ [(step (exec step s inputs).1 i).2]) := by
  simp [exec_append]

-- `Along` reads a condition before every step, `Throughout` a property of every
-- state the run passes through, the first and the last included.
def Along (admits : σ → ι → Prop) : σ → List ι → Prop
  | _,[] => True
  | s,i :: rest => admits s i ∧ Along admits (step s i).1 rest

def Throughout (holds : σ → Prop) : σ → List ι → Prop
  | s,[] => holds s
  | s,i :: rest => holds s ∧ Throughout holds (step s i).1 rest

instance decidableAlong (admits : σ → ι → Prop) [∀ s i, Decidable (admits s i)] :
    (s : σ) → (inputs : List ι) → Decidable (Along step admits s inputs)
  | _,[] => inferInstanceAs (Decidable True)
  | s,i :: rest =>
    have : Decidable (Along step admits (step s i).1 rest) := decidableAlong admits _ rest
    inferInstanceAs (Decidable (admits s i ∧ Along step admits (step s i).1 rest))

variable {step}

theorem along_append {admits : σ → ι → Prop} :
    Along step admits s (first ++ second) ↔
      Along step admits s first ∧ Along step admits (exec step s first).1 second := by
  induction first generalizing s with
  | nil => exact ⟨fun rest => ⟨trivial,rest⟩,fun both => both.2⟩
  | cons i rest ih => exact ⟨fun all => ⟨⟨all.1,(ih.mp all.2).1⟩,(ih.mp all.2).2⟩,fun both =>
      ⟨both.1.1,ih.mpr ⟨both.1.2,both.2⟩⟩⟩

theorem Throughout.initial {holds : σ → Prop} (all : Throughout step holds s inputs) : holds s := by
  cases inputs with
  | nil => exact all
  | cons i rest => exact all.1

theorem Throughout.final {holds : σ → Prop} (all : Throughout step holds s inputs) :
    holds (exec step s inputs).1 := by
  induction inputs generalizing s with
  | nil => exact all
  | cons i rest ih => exact ih all.2

theorem Throughout.mono {holds weaker : σ → Prop} (implies : ∀ s, holds s → weaker s)
    (all : Throughout step holds s inputs) : Throughout step weaker s inputs := by
  induction inputs generalizing s with
  | nil => exact implies _ all
  | cons i rest ih => exact ⟨implies _ all.1,ih all.2⟩

theorem throughout_of_along {admits : σ → ι → Prop} {holds : σ → Prop}
    (preserved : ∀ s i, holds s → admits s i → holds (step s i).1)
    (start : holds s) (conditions : Along step admits s inputs) : Throughout step holds s inputs := by
  induction inputs generalizing s with
  | nil => exact start
  | cons i rest ih => exact ⟨start,ih (preserved _ _ start conditions.1) conditions.2⟩

theorem throughout_of_preserved {holds : σ → Prop}
    (preserved : ∀ s i, holds s → holds (step s i).1) (start : holds s) (inputs : List ι) :
    Throughout step holds s inputs := by
  induction inputs generalizing s with
  | nil => exact start
  | cons i rest ih => exact ⟨start,ih (preserved _ _ start)⟩

-- The exact form: where, in valid states, the condition is also necessary for the
-- next state to be good, the good runs are the ones that meet it at every step.
-- Validity may speak of the inputs still to come.
theorem throughout_exact_ahead (valid : σ → List ι → Prop) {holds : σ → Prop} {admits : σ → ι → Prop}
    (preserved : ∀ s i rest, valid s (i :: rest) → valid (step s i).1 rest)
    (exactly : ∀ s i rest, valid s (i :: rest) → holds s → (holds (step s i).1 ↔ admits s i))
    (initially : valid s inputs) (start : holds s) : Throughout step holds s inputs ↔ Along step admits s inputs := by
  induction inputs generalizing s with
  | nil => exact ⟨fun _ => trivial,fun _ => start⟩
  | cons i rest ih =>
      have tail := preserved s i rest initially
      constructor
      · intro all
        exact ⟨(exactly _ _ _ initially start).mp all.2.initial,(ih tail all.2.initial).mp all.2⟩
      · intro conditions
        have next := (exactly _ _ _ initially start).mpr conditions.1
        exact ⟨start,(ih tail next).mpr conditions.2⟩

theorem throughout_exact {valid holds : σ → Prop} {admits : σ → ι → Prop}
    (preserved : ∀ s i, valid s → valid (step s i).1)
    (exactly : ∀ s i, valid s → holds s → (holds (step s i).1 ↔ admits s i)) (initially : valid s) (start : holds s) :
    Throughout step holds s inputs ↔ Along step admits s inputs :=
  throughout_exact_ahead (fun s _ => valid s) (fun s i _ => preserved s i) (fun s i _ => exactly s i) initially start

theorem throughout_exact_while {valid holds : σ → Prop} {admits : σ → ι → Prop}
    (exactly : ∀ s i, valid s → (holds (step s i).1 ↔ admits s i))
    (preserved : ∀ s i, valid s → admits s i → valid (step s i).1) (initially : valid s) (start : holds s) :
    Throughout step holds s inputs ↔ Along step admits s inputs := by
  induction inputs generalizing s with
  | nil => exact ⟨fun _ => trivial,fun _ => start⟩
  | cons i rest ih =>
      have first := exactly s i initially
      constructor
      · intro all
        have met := first.mp all.2.initial
        exact ⟨met,(ih (preserved s i initially met) all.2.initial).mp all.2⟩
      · intro conditions
        have next := first.mpr conditions.1
        exact ⟨start,(ih (preserved s i initially conditions.1) next).mpr conditions.2⟩

theorem final_exact {valid holds : σ → Prop} {admits : σ → ι → Prop}
    (preserved : ∀ s i, valid s → valid (step s i).1)
    (exactly : ∀ s i, valid s → (holds (step s i).1 ↔ holds s ∧ admits s i)) (initially : valid s) :
    holds (exec step s inputs).1 ↔ holds s ∧ Along step admits s inputs := by
  induction inputs generalizing s with
  | nil => exact ⟨fun here => ⟨here,trivial⟩,fun both => both.1⟩
  | cons i rest ih =>
      rw [exec_cons,ih (preserved s i initially),exactly s i initially,and_assoc]
      rfl

theorem Throughout.along {holds : σ → Prop} {admits result : σ → ι → Prop}
    (implies : ∀ s i, holds s → admits s i → result s i) (all : Throughout step holds s inputs)
    (conditions : Along step admits s inputs) : Along step result s inputs := by
  induction inputs generalizing s with
  | nil => trivial
  | cons i rest ih => exact ⟨implies s i all.1 conditions.1,ih all.2 conditions.2⟩

theorem along_exact_ahead (valid : σ → List ι → Prop) {admits admits' : σ → ι → Prop}
    (preserved : ∀ s i rest, valid s (i :: rest) → valid (step s i).1 rest)
    (exactly : ∀ s i rest, valid s (i :: rest) → (admits s i ↔ admits' s i)) (start : valid s inputs) :
    Along step admits s inputs ↔ Along step admits' s inputs := by
  induction inputs generalizing s with
  | nil => exact Iff.rfl
  | cons i rest ih => exact and_congr (exactly s i rest start) (ih (preserved s i rest start))

theorem along_exact {valid : σ → Prop} {allowed : ι → Prop} {admits admits' : σ → ι → Prop}
    (preserved : ∀ s i, valid s → allowed i → valid (step s i).1)
    (exactly : ∀ s i, valid s → (admits s i ↔ admits' s i)) (start : valid s) (all : ∀ i ∈ inputs, allowed i) :
    Along step admits s inputs ↔ Along step admits' s inputs := by
  refine along_exact_ahead (fun s rest => valid s ∧ ∀ i ∈ rest, allowed i) ?_ ?_ ⟨start,all⟩
  · rintro s i rest ⟨here,later⟩
    rw [List.forall_mem_cons] at later
    exact ⟨preserved s i here later.1,later.2⟩
  · exact fun s i rest both => exactly s i both.1

theorem along_of_valid {valid : σ → Prop} {allowed : ι → Prop} {admits : σ → ι → Prop}
    (preserved : ∀ s i, valid s → allowed i → valid (step s i).1) (implies : ∀ s i, valid s → admits s i)
    (start : valid s) (all : ∀ i ∈ inputs, allowed i) : Along step admits s inputs := by
  induction inputs generalizing s with
  | nil => trivial
  | cons i rest ih =>
      rw [List.forall_mem_cons] at all
      exact ⟨implies s i start,ih (preserved s i start all.1) all.2⟩

theorem exec_invariant {holds : σ → Prop} (preserved : ∀ s i, holds s → holds (step s i).1)
    (start : holds s) (inputs : List ι) : holds (exec step s inputs).1 :=
  (throughout_of_preserved preserved start inputs).final

theorem exec_translated {other : τ → κ → τ × ξ} {related : σ → τ → Prop} (input : ι → κ) (output : ο → ξ)
    (lockstep : ∀ s t i, related s t →
      related (step s i).1 (other t (input i)).1 ∧ output (step s i).2 = (other t (input i)).2)
    (start : related s t) (inputs : List ι) :
    related (exec step s inputs).1 (exec other t (inputs.map input)).1 ∧
      (exec step s inputs).2.map output = (exec other t (inputs.map input)).2 := by
  induction inputs generalizing s t with
  | nil => exact ⟨start,rfl⟩
  | cons i rest ih =>
      obtain ⟨next,same⟩ := lockstep s t i start
      obtain ⟨final,tail⟩ := ih next
      exact ⟨final,by simp [same,tail]⟩

theorem exec_simulates {other : τ → ι → τ × ο} {related : σ → τ → Prop}
    (lockstep : ∀ s t i, related s t → related (step s i).1 (other t i).1 ∧ (step s i).2 = (other t i).2)
    (start : related s t) (inputs : List ι) :
    related (exec step s inputs).1 (exec other t inputs).1 ∧
      (exec step s inputs).2 = (exec other t inputs).2 := by
  have translated := exec_translated id id lockstep start inputs
  rw [List.map_id,List.map_id] at translated
  exact translated

-- Two states that no continuation tells apart.
def Alike (step : σ → ι → σ × ο) (s t : σ) : Prop := ∀ inputs, (exec step s inputs).2 = (exec step t inputs).2

theorem alike_of_lockstep {related : σ → σ → Prop}
    (lockstep : ∀ s t i, related s t → related (step s i).1 (step t i).1 ∧ (step s i).2 = (step t i).2)
    (start : related s t) : Alike step s t :=
  fun inputs => (exec_simulates lockstep start inputs).2

theorem exec_alike_while {allowed : ι → Prop} {related : σ → σ → Prop}
    (lockstep : ∀ s t i, allowed i → related s t → related (step s i).1 (step t i).1 ∧ (step s i).2 = (step t i).2)
    (start : related s t) (all : ∀ i ∈ inputs, allowed i) : (exec step s inputs).2 = (exec step t inputs).2 := by
  induction inputs generalizing s t with
  | nil => rfl
  | cons i rest ih =>
      rw [List.forall_mem_cons] at all
      obtain ⟨next,same⟩ := lockstep s t i all.1 start
      rw [exec_cons,exec_cons,same,ih next all.2]

-- A ledger that is kept beside the machine: a relation between the two that every
-- step keeps is kept by every run, and what every answer satisfies all answers do.
theorem exec_recorded {record : τ → ι → τ} (related : σ → τ → Prop) (good : ο → Prop)
    (stepwise : ∀ s t i, related s t → related (step s i).1 (record t i) ∧ good (step s i).2)
    (start : related s t) (inputs : List ι) :
    related (exec step s inputs).1 (inputs.foldl record t) ∧ ∀ answer ∈ (exec step s inputs).2, good answer := by
  induction inputs generalizing s t with
  | nil => exact ⟨start,by simp⟩
  | cons i rest ih =>
      obtain ⟨next,first⟩ := stepwise s t i start
      obtain ⟨final,others⟩ := ih next
      exact ⟨final,List.forall_mem_cons.mpr ⟨first,others⟩⟩

theorem exec_recorded_while {record : τ → ι → τ} {allowed : ι → Prop} (related : σ → τ → Prop)
    (stepwise : ∀ s t i, allowed i → related s t → related (step s i).1 (record t i))
    (start : related s t) (all : ∀ i ∈ inputs, allowed i) :
    related (exec step s inputs).1 (inputs.foldl record t) := by
  induction inputs generalizing s t with
  | nil => exact start
  | cons i rest ih =>
      rw [List.forall_mem_cons] at all
      exact ih (stepwise s t i all.1 start) all.2

theorem exec_answers {holds : ο → Prop} (each : ∀ s i, holds (step s i).2) (s : σ) (inputs : List ι) :
    ∀ o ∈ (exec step s inputs).2, holds o := by
  induction inputs generalizing s with
  | nil => exact fun _ none => absurd none List.not_mem_nil
  | cons i rest ih => exact List.forall_mem_cons.mpr ⟨each s i,ih _⟩

theorem exec_answered {note : τ → ο → τ} {allowed : ι → Prop} (related : σ → τ → Prop)
    (stepwise : ∀ s t i, allowed i → related s t → related (step s i).1 (note t (step s i).2))
    (start : related s t) (all : ∀ i ∈ inputs, allowed i) :
    related (exec step s inputs).1 ((exec step s inputs).2.foldl note t) := by
  induction inputs generalizing s t with
  | nil => exact start
  | cons i rest ih =>
      rw [List.forall_mem_cons] at all
      exact ih (stepwise s t i all.1 start) all.2

-- A relation to the ledger that may weaken as time goes by, kept by inputs whose times
-- never decrease.
theorem exec_recorded_until {κ : Type*} [Preorder κ] {now last : κ} {record : τ → ι → τ} {admits : σ → ι → Prop}
    (time : ι → κ) (related : κ → σ → τ → Prop) (weakens : ∀ now later s t, now ≤ later → related now s t → related later s t)
    (stepwise : ∀ s t i, admits s i → related (time i) s t → related (time i) (step s i).1 (record t i))
    (start : related now s t) (conditions : Along step admits s inputs)
    (ordered : inputs.Pairwise (fun i j => time i ≤ time j)) (after : ∀ i ∈ inputs, now ≤ time i)
    (later : now ≤ last) (before : ∀ i ∈ inputs, time i ≤ last) :
    related last (exec step s inputs).1 (inputs.foldl record t) := by
  induction inputs generalizing now s t with
  | nil => exact weakens now last s t later start
  | cons i rest ih =>
      obtain ⟨follow,sorted⟩ := List.pairwise_cons.mp ordered
      obtain ⟨first,_⟩ := List.forall_mem_cons.mp after
      obtain ⟨until',others⟩ := List.forall_mem_cons.mp before
      have next := stepwise s t i conditions.1 (weakens now (time i) s t first start)
      exact ih next conditions.2 sorted follow until' others

def withLedger (step : σ → ι → σ × ο) (record : τ → ι → τ) (s : σ × τ) (i : ι) : (σ × τ) × ο :=
  (((step s.1 i).1,record s.2 i),(step s.1 i).2)

theorem along_of_forall {allowed : ι → Prop} (all : ∀ i ∈ inputs, allowed i) :
    Along step (fun _ i => allowed i) s inputs := by
  induction inputs generalizing s with
  | nil => trivial
  | cons i rest ih => exact ⟨all i (by simp),ih (fun j member => all j (List.mem_cons_of_mem i member))⟩

theorem along_projected {other : τ → ι → τ × ξ} {admits : τ → ι → Prop} (project : σ → τ)
    (lockstep : ∀ s i, project (step s i).1 = (other (project s) i).1) :
    Along step (fun s => admits (project s)) s inputs ↔ Along other admits (project s) inputs := by
  induction inputs generalizing s with
  | nil => exact Iff.rfl
  | cons i rest ih =>
      refine and_congr Iff.rfl ?_
      rw [ih,lockstep]

-- A pool of instances under their names, of which one step replaces one.
theorem update_related [DecidableEq κ] {related : κ → α → β → Prop} {pool : κ → α} {ledger : κ → β}
    (all : ∀ k, related k (pool k) (ledger k)) (k : κ) (replaced : related k a b) (l : κ) :
    related l (Function.update pool k a l) (Function.update ledger k b l) := by
  by_cases same : l = k
  · subst l; simpa using replaced
  · simpa [Function.update_of_ne same] using all l

variable (step)

-- Erasure: the inputs a run keeps when those selected by `drop` are deleted,
-- and the outputs an observer of the inputs selected by `see` collects.
def kept (drop : σ → ι → Bool) : σ → List ι → List ι
  | _,[] => []
  | s,i :: rest => if drop s i then kept drop (step s i).1 rest else i :: kept drop (step s i).1 rest

def observed (see : σ → ι → Bool) : σ → List ι → List ο
  | _,[] => []
  | s,i :: rest =>
    if see s i then (step s i).2 :: observed see (step s i).1 rest else observed see (step s i).1 rest

variable {step}

-- Unwinding: a dropped input keeps the relation on its own, a retained one keeps
-- it on both sides and is observed alike.
theorem observed_kept {admits : σ → ι → Prop} {drop see : σ → ι → Bool} {related : σ → σ → Prop}
    (silent : ∀ s t i, related s t → admits s i → drop s i = true →
      see s i = false ∧ related (step s i).1 t)
    (matched : ∀ s t i, related s t → admits s i → drop s i = false →
      related (step s i).1 (step t i).1 ∧ see s i = see t i ∧ (see s i = true → (step s i).2 = (step t i).2))
    (start : related s t) (conditions : Along step admits s inputs) :
    observed step see s inputs = observed step see t (kept step drop s inputs) := by
  induction inputs generalizing s t with
  | nil => rfl
  | cons i rest ih =>
      cases dropped : drop s i with
      | true =>
          obtain ⟨unseen,next⟩ := silent s t i start conditions.1 dropped
          simp [observed,kept,dropped,unseen,ih next conditions.2]
      | false =>
          obtain ⟨next,seen,same⟩ := matched s t i start conditions.1 dropped
          have tail := ih next conditions.2
          cases visible : see s i with
          | true =>
              have visible' : see t i = true := by rw [← seen]; exact visible
              simp [observed,kept,dropped,visible,visible',same visible,tail]
          | false =>
              have visible' : see t i = false := by rw [← seen]; exact visible
              simp [observed,kept,dropped,visible,visible',tail]

-- Erasure under a clock, where the relation may depend on the time: the inputs that
-- are not the observer's are deleted, and the others are answered as before.
theorem observed_filter {κ : Type*} [Preorder κ] {now : κ} {mine : ι → Bool} (time : ι → κ) (allowed : ι → Prop)
    (related : κ → σ → σ → Prop)
    (silent : ∀ now s t i, related now s t → now ≤ time i → allowed i → mine i = false →
      related (time i) (step s i).1 t)
    (matched : ∀ now s t i, related now s t → now ≤ time i → allowed i → mine i = true →
      related (time i) (step s i).1 (step t i).1 ∧ (step s i).2 = (step t i).2)
    (start : related now s t) (all : ∀ i ∈ inputs, allowed i) (after : ∀ i ∈ inputs, now ≤ time i)
    (ordered : inputs.Pairwise (fun i j => time i ≤ time j)) :
    observed step (fun _ => mine) s inputs = (exec step t (inputs.filter mine)).2 := by
  induction inputs generalizing now s t with
  | nil => rfl
  | cons i rest ih =>
      obtain ⟨later,others⟩ := List.pairwise_cons.mp ordered
      obtain ⟨fits,fit⟩ := List.forall_mem_cons.mp all
      have first := after i List.mem_cons_self
      cases own : mine i with
      | true =>
          obtain ⟨next,same⟩ := matched now s t i start first fits own
          rw [observed,if_pos own,List.filter_cons_of_pos own,exec_cons,ih next fit later others,same]
      | false =>
          have next := silent now s t i start first fits own
          have hidden : ¬ mine i = true := by rw [own]; exact Bool.false_ne_true
          rw [observed,if_neg hidden,List.filter_cons_of_neg hidden,ih next fit later others]

end PhantomFlow.Library.Machine
