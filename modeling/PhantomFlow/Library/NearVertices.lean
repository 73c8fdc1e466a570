import Mathlib.Combinatorics.SimpleGraph.Metric

namespace PhantomFlow.Library.NearVertices
variable {V : Type u} {G : SimpleGraph V} {s : V}

theorem edist_le_cast_iff {n : ℕ} : G.edist s v ≤ n ↔ ∃ walk : G.Walk s v, walk.length ≤ n := by
  constructor
  · intro near
    have finite : G.edist s v ≠ ⊤ := fun top => absurd (top ▸ near) (by simp)
    obtain ⟨walk,shortest⟩ := SimpleGraph.exists_walk_of_edist_ne_top finite
    refine ⟨walk,?_⟩
    rw [← shortest] at near
    exact_mod_cast near
  · intro found
    obtain ⟨walk,short⟩ := found
    exact (SimpleGraph.edist_le walk).trans (by exact_mod_cast short)

theorem edist_le_succ {n : ℕ} : G.edist s v ≤ (n + 1 : ℕ) ↔ v = s ∨ ∃ a, G.Adj s a ∧ G.edist a v ≤ n := by
  rw [edist_le_cast_iff]
  constructor
  · intro found
    obtain ⟨walk,short⟩ := found
    cases walk with
    | nil => exact .inl rfl
    | cons first rest =>
        rw [SimpleGraph.Walk.length_cons] at short
        exact .inr ⟨_,first,edist_le_cast_iff.mpr ⟨rest,by omega⟩⟩
  · intro found
    cases found with
    | inl same => exact ⟨same ▸ .nil,by cases same; exact Nat.zero_le _⟩
    | inr found =>
        obtain ⟨a,first,near⟩ := found
        obtain ⟨rest,short⟩ := edist_le_cast_iff.mp near
        exact ⟨.cons first rest,by rw [SimpleGraph.Walk.length_cons]; omega⟩

theorem within_three : G.edist s v ≤ 3 ↔
    v = s ∨ G.Adj s v ∨ (∃ a, G.Adj s a ∧ G.Adj a v) ∨ ∃ a x, G.Adj s a ∧ G.Adj a x ∧ G.Adj x v := by
  have one : ∀ x, G.edist x v ≤ (1 : ℕ) ↔ v = x ∨ G.Adj x v := by
    intro x
    rw [Nat.cast_one,SimpleGraph.edist_le_one_iff_adj_or_eq,or_comm,eq_comm]
  have three := edist_le_succ (G := G) (s := s) (v := v) (n := 2)
  simp only [edist_le_succ (n := 1),one] at three
  refine three.trans ?_
  constructor
  · intro near
    rcases near with same | ⟨a,first,same | ⟨x,second,same | third⟩⟩
    · exact .inl same
    · exact .inr (.inl (same ▸ first))
    · exact .inr (.inr (.inl ⟨a,first,same ▸ second⟩))
    · exact .inr (.inr (.inr ⟨a,x,first,second,third⟩))
  · intro near
    rcases near with same | first | ⟨a,first,second⟩ | ⟨a,x,first,second,third⟩
    · exact .inl same
    · exact .inr ⟨v,first,.inl rfl⟩
    · exact .inr ⟨a,first,.inr ⟨v,second,.inl rfl⟩⟩
    · exact .inr ⟨a,first,.inr ⟨x,second,.inr third⟩⟩

theorem at_two (first : G.Adj s a) (second : G.Adj a x) (other : x ≠ s) (apart : ¬ G.Adj s x) : G.edist s x = 2 :=
  SimpleGraph.edist_eq_two_iff.mpr ⟨other.symm,apart,a,first,second.symm⟩

theorem at_three_iff : G.edist s z = 3 ↔
    z ≠ s ∧ ¬ G.Adj s z ∧ (∀ a, G.Adj s a → ¬ G.Adj a z) ∧ ∃ a x, G.Adj s a ∧ G.Adj a x ∧ G.Adj x z := by
  constructor
  · intro three
    have other : z ≠ s := by
      intro same
      cases same
      rw [SimpleGraph.edist_self] at three
      exact absurd three (by decide)
    have apart : ¬ G.Adj s z := by
      intro next
      rw [SimpleGraph.edist_eq_one_iff_adj.mpr next] at three
      exact absurd three (by decide)
    have beyond : ∀ a, G.Adj s a → ¬ G.Adj a z := by
      intro a first second
      rw [at_two first second other apart] at three
      exact absurd three (by decide)
    refine ⟨other,apart,beyond,?_⟩
    rcases within_three.mp three.le with same | next | ⟨a,first,second⟩ | found
    · exact absurd same other
    · exact absurd next apart
    · exact absurd second (beyond a first)
    · exact found
  · intro found
    obtain ⟨other,apart,beyond,found⟩ := found
    refine le_antisymm (within_three.mpr (.inr (.inr (.inr found)))) ?_
    have more : 2 < G.edist s z := by
      refine SimpleGraph.two_lt_edist_iff.mpr ⟨other.symm,apart,?_⟩
      rw [Set.eq_empty_iff_forall_notMem]
      intro a common
      exact beyond a common.1 common.2.symm
    exact Order.add_one_le_of_lt more

-- The neighbourhood of `s` up to three steps has a single way to everything: different
-- neighbours share nothing but `s`, and vertices two steps away are not adjacent. A
-- vertex three steps away is met through one neighbour, or through two adjacent ones.
structure Untangled (G : SimpleGraph V) (s : V) : Prop where
  separate : ∀ a b x, G.Adj s a → G.Adj s b → a ≠ b → G.Adj a x → G.Adj b x → x = s
  level : ∀ x y, G.edist s x = 2 → G.edist s y = 2 → ¬ G.Adj x y
  shared : ∀ a x b y z, G.Adj s a → G.Adj a x → G.Adj x z → G.Adj s b → G.Adj b y → G.Adj y z →
    G.edist s z = 3 → x ≠ y → G.Adj a b
  covered : ∀ a x z b, G.Adj s a → G.Adj a x → G.Adj x z → G.edist s z = 3 → G.Adj s b → G.Adj a b →
    ∃ y, G.Adj b y ∧ G.Adj y z

namespace Untangled
variable (calm : Untangled G s)
include calm

theorem near_apart (p1 : G.Adj s p) (q1 : G.Adj s q) (free : ¬ G.Adj p q) (px : G.Adj p x) (qy : G.Adj q y)
    (x0 : x ≠ s) (y0 : y ≠ s) : ¬ G.Adj x y := by
  intro next
  by_cases x1 : G.Adj s x
  · exact y0 (calm.separate x q y x1 q1 (fun same => free (same ▸ px)) next qy)
  · by_cases y1 : G.Adj s y
    · exact x0 (calm.separate y p x y1 p1 (fun same => free (same ▸ qy).symm) next.symm px)
    · exact calm.level x y (at_two p1 px x0 x1) (at_two q1 qy y0 y1) next

theorem far_apart_from_near (p1 : G.Adj s p) (q1 : G.Adj s q) (px : G.Adj p x) (qy : G.Adj q y) (other : x ≠ y)
    (y0 : y ≠ s) (xz : G.Adj x z) (yz : G.Adj y z) (z0 : z ≠ s) (zp : z ≠ p) (x1 : G.Adj s x) : False := by
  have z1 : ¬ G.Adj s z := by
    intro z1
    exact x1.ne (calm.separate z p x z1 p1 zp xz.symm px).symm
  by_cases y1 : G.Adj s y
  · exact z0 (calm.separate x y z x1 y1 other xz yz)
  · exact calm.level y z (at_two q1 qy y0 y1) (at_two x1 xz z0 z1) yz

theorem far_apart (p1 : G.Adj s p) (q1 : G.Adj s q) (free : ¬ G.Adj p q) (px : G.Adj p x) (qy : G.Adj q y)
    (other : x ≠ y) (x0 : x ≠ s) (y0 : y ≠ s) (xz : G.Adj x z) (yz : G.Adj y z) (z0 : z ≠ s) (zp : z ≠ p)
    (zq : z ≠ q) : False := by
  by_cases x1 : G.Adj s x
  · exact calm.far_apart_from_near p1 q1 px qy other y0 xz yz z0 zp x1
  by_cases y1 : G.Adj s y
  · exact calm.far_apart_from_near q1 p1 qy px other.symm x0 yz xz z0 zq y1
  have z1 : ¬ G.Adj s z := by
    intro z1
    exact x0 (calm.separate z p x z1 p1 zp xz.symm px)
  have x2 := at_two p1 px x0 x1
  have beyond : ∀ a, G.Adj s a → ¬ G.Adj a z := by
    intro a first second
    exact calm.level x z x2 (at_two first second z0 z1) xz
  have three := at_three_iff.mpr ⟨z0,z1,beyond,p,x,p1,px,xz⟩
  exact free (calm.shared p x q y z p1 px xz q1 qy yz three other)

end Untangled
end PhantomFlow.Library.NearVertices
