import PhantomFlow.Analysis.SearchRules
import PhantomFlow.Library.NearVertices

namespace PhantomFlow.Analysis.NetworkGraph
open Library.NearVertices

def linked (calls : List (String × String)) : SimpleGraph String := SimpleGraph.fromRel (fun x y => (x,y) ∈ calls)

-- The map holds a network: each set of neighbours lists the linked nodes once. A node
-- may list itself too.
structure Holds (graph : NetworkGraph) (network : SimpleGraph String) : Prop where
  distinct : ∀ x, (graph.neighbors x).Nodup
  listed : ∀ {x y}, x ≠ y → (y ∈ graph.neighbors x ↔ network.Adj x y)

theorem built_holds (calls : List (String × String)) : Holds (built calls) (linked calls) where
  distinct := nodup_built calls
  listed other := by rw [mem_built,linked,SimpleGraph.fromRel_adj,and_iff_right other]

structure FoundOnce (graph : NetworkGraph) (network : SimpleGraph String) (sourceIP : String) : Prop where
  once : (graph.findRelatedIPs sourceIP).Nodup
  exactly : ∀ ip, ip ∈ graph.findRelatedIPs sourceIP ↔ ip ≠ sourceIP ∧ network.edist sourceIP ip ≤ 3

section Untangled
variable {graph : NetworkGraph} {network : SimpleGraph String} {sourceIP : String}

def beyond (graph : NetworkGraph) (sourceIP a x : String) : List String :=
  (graph.neighbors x).filter (fun y => decide (y ≠ sourceIP ∧ y ≠ x ∧ y ≠ a))

def around (graph : NetworkGraph) (sourceIP a : String) : List String :=
  (graph.neighbors a).filter (fun x => decide (x ≠ sourceIP ∧ x ≠ a))

def below (graph : NetworkGraph) (sourceIP a x : String) : List String := x :: graph.beyond sourceIP a x

def branch (graph : NetworkGraph) (sourceIP a : String) : List String :=
  a :: (graph.around sourceIP a).flatMap (graph.below sourceIP a)

theorem mem_around (holds : Holds graph network) :
    x ∈ graph.around sourceIP a ↔ x ≠ sourceIP ∧ network.Adj a x := by
  rw [around,List.mem_filter,decide_eq_true_eq]
  constructor
  · intro found
    exact ⟨found.2.1,(holds.listed found.2.2.symm).mp found.1⟩
  · intro found
    exact ⟨(holds.listed found.2.ne).mpr found.2,found.1,found.2.ne.symm⟩

theorem mem_beyond (holds : Holds graph network) :
    y ∈ graph.beyond sourceIP a x ↔ y ≠ sourceIP ∧ y ≠ a ∧ network.Adj x y := by
  rw [beyond,List.mem_filter,decide_eq_true_eq]
  constructor
  · intro found
    exact ⟨found.2.1,found.2.2.2,(holds.listed found.2.2.1.symm).mp found.1⟩
  · intro found
    exact ⟨(holds.listed found.2.2.ne).mpr found.2.2,found.1,found.2.2.ne.symm,found.2.1⟩

theorem visitNeighbor_below (marked : a ∈ search.visited) (other : x ≠ sourceIP) (fresh : x ∉ search.visited)
    (new : ∀ y ∈ graph.beyond sourceIP a x, y ∉ search.visited) :
    graph.visitNeighbor sourceIP 1 search x = ⟨search.visited ++ [x],search.related ++ graph.below sourceIP a x⟩ := by
  have same : (graph.neighbors x).filter (fun y => decide (y ∉ search.visited ++ [x] ∧ y ≠ sourceIP)) =
      graph.beyond sourceIP a x := by
    apply List.filter_congr
    intro y listed
    rw [decide_eq_decide,List.mem_append,List.mem_singleton,not_or]
    constructor
    · intro found
      exact ⟨found.2,found.1.2,fun back => found.1.1 (back ▸ marked)⟩
    · intro found
      exact ⟨⟨new y (List.mem_filter.mpr ⟨listed,decide_eq_true found⟩),found.2.1⟩,found.1⟩
  rw [visitNeighbor_entered fresh other,visitAll_cutoff_eq,same]
  exact congrArg (Search.mk _) (List.append_assoc _ _ _)

theorem visitAll_branch (marked : a ∈ search.visited) (distinct : list.Nodup)
    (fresh : ∀ x ∈ list, x ≠ sourceIP → x ≠ a → x ∉ search.visited)
    (new : ∀ x ∈ list, x ≠ sourceIP → x ≠ a → ∀ y ∈ graph.beyond sourceIP a x, y ∉ search.visited ∧ y ∉ list) :
    graph.visitAll sourceIP 1 search list =
      ⟨search.visited ++ list.filter (fun x => decide (x ≠ sourceIP ∧ x ≠ a)),
        search.related ++ (list.filter (fun x => decide (x ≠ sourceIP ∧ x ≠ a))).flatMap (graph.below sourceIP a)⟩ := by
  induction list generalizing search with
  | nil => simp [visitAll]
  | cons x rest ih =>
      obtain ⟨once,distinct⟩ := List.nodup_cons.mp distinct
      obtain ⟨first,later⟩ := List.forall_mem_cons.mp fresh
      obtain ⟨firstNew,laterNew⟩ := List.forall_mem_cons.mp new
      rw [visitAll_cons,List.filter_cons]
      by_cases entered : x ≠ sourceIP ∧ x ≠ a
      · have unseen := firstNew entered.1 entered.2
        rw [visitNeighbor_below marked entered.1 (first entered.1 entered.2) (fun y listed => (unseen y listed).1),
          if_pos (decide_eq_true entered),List.flatMap_cons,ih (List.mem_append_left _ marked) distinct]
        · simp only [List.append_assoc,List.singleton_append]
        · intro w listed other apart seen
          cases List.mem_append.mp seen with
          | inl before => exact later w listed other apart before
          | inr same => exact once (List.mem_singleton.mp same ▸ listed)
        · intro w listed other apart y found
          obtain ⟨unvisited,unlisted⟩ := laterNew w listed other apart y found
          refine ⟨?_,fun there => unlisted (List.mem_cons_of_mem x there)⟩
          intro seen
          cases List.mem_append.mp seen with
          | inl before => exact unvisited before
          | inr same => exact unlisted (List.mem_singleton.mp same ▸ List.mem_cons_self)
      · have skipped : x ∈ search.visited ∨ x = sourceIP := by
          by_cases same : x = sourceIP
          · exact .inr same
          · have back : x = a := by
              by_contra apart
              exact entered ⟨same,apart⟩
            exact .inl (back ▸ marked)
        rw [visitNeighbor_skipped skipped,if_neg (fun decided => entered (of_decide_eq_true decided)),
          ih marked distinct later]
        intro w listed other apart y found
        obtain ⟨unvisited,unlisted⟩ := laterNew w listed other apart y found
        exact ⟨unvisited,fun there => unlisted (List.mem_cons_of_mem x there)⟩

theorem visitNeighbor_branch (holds : Holds graph network) (fresh : p ∉ search.visited) (other : p ≠ sourceIP)
    (unseen : ∀ x, network.Adj p x → x ≠ sourceIP → x ∉ search.visited)
    (unseenBeyond : ∀ x y, network.Adj p x → x ≠ sourceIP → network.Adj x y → y ≠ sourceIP → y ≠ p →
      y ∉ search.visited ∧ ¬ network.Adj p y) :
    graph.visitNeighbor sourceIP 2 search p =
      ⟨search.visited ++ p :: graph.around sourceIP p,search.related ++ graph.branch sourceIP p⟩ := by
  rw [visitNeighbor_entered fresh other,visitAll_branch (a := p)]
  · simp only [List.append_assoc,List.singleton_append]
    rfl
  · exact List.mem_append_right _ (List.mem_singleton_self p)
  · exact holds.distinct p
  · intro x listed other apart seen
    cases List.mem_append.mp seen with
    | inl before => exact unseen x ((holds.listed apart.symm).mp listed) other before
    | inr same => exact apart (List.mem_singleton.mp same)
  · intro x listed other apart y found
    obtain ⟨other',back,next⟩ := (mem_beyond holds).mp found
    obtain ⟨unvisited,free⟩ := unseenBeyond x y ((holds.listed apart.symm).mp listed) other next other' back
    constructor
    · intro seen
      cases List.mem_append.mp seen with
      | inl before => exact unvisited before
      | inr same => exact back (List.mem_singleton.mp same)
    · intro there
      exact free ((holds.listed back.symm).mp there)

-- The neighbours of the source the search has entered from the source itself. No two
-- are linked, and what has been entered are they and their neighbours.
structure Selected (graph : NetworkGraph) (network : SimpleGraph String) (sourceIP : String) (selected : List String)
    (search : Search) : Prop where
  near : ∀ a ∈ selected, network.Adj sourceIP a
  free : selected.Pairwise (fun a b => a ≠ b ∧ ¬ network.Adj a b)
  visited : ∀ v, v ∈ search.visited ↔ v = sourceIP ∨ ∃ a ∈ selected, v = a ∨ network.Adj a v
  related : search.related = selected.flatMap (graph.branch sourceIP)

theorem Selected.apart (state : Selected graph network sourceIP selected search) (ha : a ∈ selected)
    (fresh : p ∉ search.visited) : p ≠ a ∧ ¬ network.Adj a p := by
  constructor
  · intro same
    exact fresh ((state.visited p).mpr (.inr ⟨a,ha,.inl same⟩))
  · intro next
    exact fresh ((state.visited p).mpr (.inr ⟨a,ha,.inr next⟩))

section Entering
variable (calm : Untangled network sourceIP) (state : Selected graph network sourceIP selected search)
  (near : network.Adj sourceIP p) (fresh : p ∉ search.visited)
include calm state near fresh

theorem Selected.new_around (next : network.Adj p x) (other : x ≠ sourceIP) : x ∉ search.visited := by
  intro seen
  rcases (state.visited x).mp seen with same | ⟨a,ha,same | common⟩
  · exact other same
  · exact (state.apart ha fresh).2 (same ▸ next.symm)
  · exact other (calm.separate a p x (state.near a ha) near (state.apart ha fresh).1.symm common next)

theorem Selected.new_beyond (first : network.Adj p x) (other : x ≠ sourceIP) (second : network.Adj x y)
    (other' : y ≠ sourceIP) (back : y ≠ p) : y ∉ search.visited := by
  intro seen
  rcases (state.visited y).mp seen with same | ⟨a,ha,same | common⟩
  · exact other' same
  · cases same
    exact other (calm.separate p y x near (state.near y ha) back.symm first second.symm)
  · have free : ¬ network.Adj p a := fun next => (state.apart ha fresh).2 next.symm
    exact calm.near_apart near (state.near a ha) free first common other other' second

theorem selected_enter (holds : Holds graph network) :
    Selected graph network sourceIP (selected ++ [p]) (graph.visitNeighbor sourceIP 2 search p) := by
  have unseen : ∀ x, network.Adj p x → x ≠ sourceIP → x ∉ search.visited :=
    fun x => state.new_around calm near fresh
  have unseenBeyond : ∀ x y, network.Adj p x → x ≠ sourceIP → network.Adj x y → y ≠ sourceIP → y ≠ p →
      y ∉ search.visited ∧ ¬ network.Adj p y := by
    intro x y first other second other' back
    refine ⟨state.new_beyond calm near fresh first other second other' back,?_⟩
    intro next
    exact calm.near_apart near near network.irrefl first next other other' second
  rw [visitNeighbor_branch holds fresh near.ne.symm unseen unseenBeyond]
  refine ⟨?_,?_,?_,?_⟩
  · intro a listed
    cases List.mem_append.mp listed with
    | inl before => exact state.near a before
    | inr last => exact List.mem_singleton.mp last ▸ near
  · refine List.pairwise_append.mpr ⟨state.free,List.pairwise_singleton _ p,?_⟩
    intro a ha b last
    cases List.mem_singleton.mp last
    obtain ⟨apart,free⟩ := state.apart ha fresh
    exact ⟨apart.symm,free⟩
  · intro v
    rw [List.mem_append,List.mem_cons,state.visited,mem_around holds]
    simp only [List.mem_append,List.mem_singleton]
    constructor
    · intro entered
      rcases entered with (same | ⟨a,ha,found⟩) | same | ⟨_,next⟩
      · exact .inl same
      · exact .inr ⟨a,.inl ha,found⟩
      · exact .inr ⟨p,.inr rfl,.inl same⟩
      · exact .inr ⟨p,.inr rfl,.inr next⟩
    · intro reached
      rcases reached with same | ⟨a,ha | same,found⟩
      · exact .inl (.inl same)
      · exact .inl (.inr ⟨a,ha,found⟩)
      · cases same
        by_cases source : v = sourceIP
        · exact .inl (.inl source)
        · exact .inr (found.imp_right (fun next => ⟨source,next⟩))
  · rw [List.flatMap_append,state.related,List.flatMap_singleton]

end Entering

theorem selected_turn (calm : Untangled network sourceIP) (holds : Holds graph network)
    (state : Selected graph network sourceIP selected search) (listed : p ∈ graph.neighbors sourceIP) :
    ∃ selected', Selected graph network sourceIP selected' (graph.visitNeighbor sourceIP 2 search p) := by
  by_cases skipped : p ∈ search.visited ∨ p = sourceIP
  · rw [visitNeighbor_skipped skipped]
    exact ⟨selected,state⟩
  · obtain ⟨fresh,other⟩ := not_or.mp skipped
    exact ⟨selected ++ [p],selected_enter calm state ((holds.listed (Ne.symm other)).mp listed) fresh holds⟩

theorem selected_loop (calm : Untangled network sourceIP) (holds : Holds graph network) (list : List String)
    (listed : ∀ p ∈ list, p ∈ graph.neighbors sourceIP) (state : Selected graph network sourceIP selected search) :
    ∃ selected', Selected graph network sourceIP selected' (graph.visitAll sourceIP 2 search list) := by
  induction list generalizing search selected with
  | nil => exact ⟨selected,state⟩
  | cons p rest ih =>
      obtain ⟨first,later⟩ := List.forall_mem_cons.mp listed
      obtain ⟨next,state⟩ := selected_turn calm holds state first
      exact ih later state

theorem search_selected (calm : Untangled network sourceIP) (holds : Holds graph network) :
    ∃ selected : List String, (∀ a ∈ selected, network.Adj sourceIP a) ∧
      selected.Pairwise (fun a b => a ≠ b ∧ ¬ network.Adj a b) ∧
      (∀ p, network.Adj sourceIP p → ∃ a ∈ selected, p = a ∨ network.Adj a p) ∧
      graph.findRelatedIPs sourceIP = selected.flatMap (graph.branch sourceIP) := by
  have start : Selected graph network sourceIP [] ⟨[sourceIP],[]⟩ := by
    refine ⟨by simp,.nil,?_,rfl⟩
    intro v
    simp
  obtain ⟨selected,state⟩ := selected_loop calm holds (graph.neighbors sourceIP) (fun _ listed => listed) start
  refine ⟨selected,state.near,state.free,?_,?_⟩
  · intro p near
    have other : p ≠ sourceIP := near.ne.symm
    have entered : p ∈ (graph.visitAll sourceIP 2 ⟨[sourceIP],[]⟩ (graph.neighbors sourceIP)).visited :=
      visitAll_enters 1 _ _ p ((holds.listed near.ne).mpr near) other
    exact ((state.visited p).mp entered).resolve_left other
  · rw [findRelatedIPs_eq,state.related]

theorem mem_below (holds : Holds graph network) :
    v ∈ graph.below sourceIP a x ↔ v = x ∨ v ≠ sourceIP ∧ v ≠ a ∧ network.Adj x v := by
  rw [below,List.mem_cons,mem_beyond holds]

theorem mem_branch (holds : Holds graph network) :
    v ∈ graph.branch sourceIP a ↔
      v = a ∨ ∃ x, (x ≠ sourceIP ∧ network.Adj a x) ∧ (v = x ∨ v ≠ sourceIP ∧ v ≠ a ∧ network.Adj x v) := by
  simp only [branch,List.mem_cons,List.mem_flatMap,mem_around holds,mem_below holds]

theorem below_disjoint (calm : Untangled network sourceIP) (holds : Holds graph network) (p1 : network.Adj sourceIP p)
    (q1 : network.Adj sourceIP q) (free : ¬ network.Adj p q) (px : network.Adj p x) (qy : network.Adj q y)
    (x0 : x ≠ sourceIP) (y0 : y ≠ sourceIP) (other : x ≠ y) :
    List.Disjoint (graph.below sourceIP p x) (graph.below sourceIP q y) := by
  intro v left right
  have apart : ¬ network.Adj x y := calm.near_apart p1 q1 free px qy x0 y0
  rcases (mem_below holds).mp left with same | ⟨v0,vp,xv⟩
  · cases same
    rcases (mem_below holds).mp right with same | ⟨_,_,yv⟩
    · exact other same
    · exact apart yv.symm
  · rcases (mem_below holds).mp right with same | ⟨_,vq,yv⟩
    · cases same
      exact apart xv
    · exact calm.far_apart p1 q1 free px qy other x0 y0 xv yv v0 vp vq

theorem branch_nodup (calm : Untangled network sourceIP) (holds : Holds graph network) (near : network.Adj sourceIP a) :
    (graph.branch sourceIP a).Nodup := by
  refine List.nodup_cons.mpr ⟨?_,List.nodup_flatMap.mpr ⟨?_,?_⟩⟩
  · intro found
    obtain ⟨x,listed,inside⟩ := List.mem_flatMap.mp found
    have next := ((mem_around holds).mp listed).2
    rcases (mem_below holds).mp inside with same | ⟨_,back,_⟩
    · exact next.ne same
    · exact back rfl
  · intro x _
    refine List.nodup_cons.mpr ⟨?_,(holds.distinct x).filter _⟩
    intro itself
    exact network.irrefl ((mem_beyond holds).mp itself).2.2
  · refine ((holds.distinct a).filter _).pairwise_of_forall_ne ?_
    intro x hx y hy other
    obtain ⟨x0,ax⟩ := (mem_around holds).mp hx
    obtain ⟨y0,ay⟩ := (mem_around holds).mp hy
    exact below_disjoint calm holds near near network.irrefl ax ay x0 y0 other

theorem branch_disjoint (calm : Untangled network sourceIP) (holds : Holds graph network)
    (p1 : network.Adj sourceIP p) (q1 : network.Adj sourceIP q) (other : p ≠ q) (free : ¬ network.Adj p q) :
    List.Disjoint (graph.branch sourceIP p) (graph.branch sourceIP q) := by
  -- `p` itself is in no branch but its own
  have root : ∀ {p q}, network.Adj sourceIP p → network.Adj sourceIP q → p ≠ q → ¬ network.Adj p q →
      ∀ y, y ≠ sourceIP ∧ network.Adj q y → ¬ (p = y ∨ p ≠ sourceIP ∧ p ≠ q ∧ network.Adj y p) := by
    intro p q p1 q1 other free y next inside
    rcases inside with same | ⟨_,_,back⟩
    · exact free (same ▸ next.2.symm)
    · exact next.1 (calm.separate p q y p1 q1 other back.symm next.2)
  intro v left right
  rcases (mem_branch holds).mp left with same | ⟨x,⟨x0,px⟩,inside⟩
  · cases same
    rcases (mem_branch holds).mp right with same | ⟨y,next,inside⟩
    · exact other same
    · exact root p1 q1 other free y next inside
  · rcases (mem_branch holds).mp right with same | ⟨y,⟨y0,qy⟩,inside'⟩
    · cases same
      exact root q1 p1 other.symm (fun next => free next.symm) x ⟨x0,px⟩ inside
    · have apart : x ≠ y := by
        intro same
        cases same
        exact x0 (calm.separate p q x p1 q1 other px qy)
      exact below_disjoint calm holds p1 q1 free px qy x0 y0 apart ((mem_below holds).mpr inside)
        ((mem_below holds).mpr inside')

theorem branch_within (holds : Holds graph network) (near : network.Adj sourceIP a)
    (found : v ∈ graph.branch sourceIP a) : v ≠ sourceIP ∧ network.edist sourceIP v ≤ 3 := by
  rcases (mem_branch holds).mp found with same | ⟨x,⟨x0,ax⟩,same | ⟨v0,_,xv⟩⟩
  · cases same
    exact ⟨near.ne.symm,within_three.mpr (.inr (.inl near))⟩
  · cases same
    exact ⟨x0,within_three.mpr (.inr (.inr (.inl ⟨a,near,ax⟩)))⟩
  · exact ⟨v0,within_three.mpr (.inr (.inr (.inr ⟨a,x,near,ax,xv⟩)))⟩

section Complete
variable {selected : List String} (calm : Untangled network sourceIP) (holds : Holds graph network)
  (near : ∀ a ∈ selected, network.Adj sourceIP a)
  (all : ∀ p, network.Adj sourceIP p → ∃ a ∈ selected, p = a ∨ network.Adj a p)
include holds all

theorem complete_one (first : network.Adj sourceIP v) : ∃ a ∈ selected, v ∈ graph.branch sourceIP a := by
  obtain ⟨a,ha,same | next⟩ := all v first
  · exact ⟨a,ha,(mem_branch holds).mpr (.inl same)⟩
  · exact ⟨a,ha,(mem_branch holds).mpr (.inr ⟨v,⟨first.ne.symm,next⟩,.inl rfl⟩)⟩

include near in
theorem complete_two (first : network.Adj sourceIP a) (second : network.Adj a v) (other : v ≠ sourceIP)
    (beyond : ¬ network.Adj sourceIP v) : ∃ a ∈ selected, v ∈ graph.branch sourceIP a := by
  obtain ⟨b,hb,same | next⟩ := all a first
  · cases same
    exact ⟨a,hb,(mem_branch holds).mpr (.inr ⟨v,⟨other,second⟩,.inl rfl⟩)⟩
  · have apart : v ≠ b := fun same => beyond (same ▸ near b hb)
    exact ⟨b,hb,(mem_branch holds).mpr (.inr ⟨a,⟨first.ne.symm,next⟩,.inr ⟨other,apart,second⟩⟩)⟩

include calm near in
theorem complete_three (three : network.edist sourceIP v = 3) : ∃ a ∈ selected, v ∈ graph.branch sourceIP a := by
  obtain ⟨other,beyond,far,a,x,first,second,third⟩ := at_three_iff.mp three
  obtain ⟨b,hb,linked⟩ := all a first
  obtain ⟨y,by',yv⟩ : ∃ y, network.Adj b y ∧ network.Adj y v := by
    cases linked with
    | inl same => exact ⟨x,same ▸ second,third⟩
    | inr next => exact calm.covered a x v b first second third three (near b hb) next.symm
  have apart : v ≠ b := fun same => beyond (same ▸ near b hb)
  have inner : y ≠ sourceIP := fun same => beyond (same ▸ yv)
  exact ⟨b,hb,(mem_branch holds).mpr (.inr ⟨y,⟨inner,by'⟩,.inr ⟨other,apart,yv⟩⟩)⟩

end Complete

theorem untangled_found (calm : Untangled network sourceIP) (holds : Holds graph network) :
    FoundOnce graph network sourceIP := by
  obtain ⟨selected,near,free,all,result⟩ := search_selected calm holds
  refine ⟨?_,?_⟩
  · rw [result]
    refine List.nodup_flatMap.mpr ⟨fun a ha => branch_nodup calm holds (near a ha),?_⟩
    refine List.Pairwise.imp_of_mem ?_ free
    intro a b ha hb apart
    exact branch_disjoint calm holds (near a ha) (near b hb) apart.1 apart.2
  · intro v
    rw [result,List.mem_flatMap]
    constructor
    · intro found
      obtain ⟨a,ha,inside⟩ := found
      exact branch_within holds (near a ha) inside
    · intro within
      obtain ⟨other,short⟩ := within
      by_cases first : network.Adj sourceIP v
      · exact complete_one holds all first
      by_cases second : ∃ a, network.Adj sourceIP a ∧ network.Adj a v
      · obtain ⟨a,sa,av⟩ := second
        exact complete_two holds near all sa av other first
      · have far : ∀ a, network.Adj sourceIP a → ¬ network.Adj a v := fun a sa av => second ⟨a,sa,av⟩
        rcases within_three.mp short with same | sv | found | found
        · exact absurd same other
        · exact absurd sv first
        · exact absurd found second
        · exact complete_three calm holds near all (at_three_iff.mpr ⟨other,first,far,found⟩)

end Untangled
end PhantomFlow.Analysis.NetworkGraph
