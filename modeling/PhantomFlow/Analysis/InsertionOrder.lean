import PhantomFlow.Analysis.RelatedIps

namespace PhantomFlow.Analysis.NetworkGraph
open Library.NearVertices

section Reordering

theorem linked_perm (same : calls'.Perm calls) : linked calls' = linked calls := by
  ext x y
  rw [linked,linked,SimpleGraph.fromRel_adj,SimpleGraph.fromRel_adj,same.mem_iff,same.mem_iff]

theorem neighbors_join (graph : NetworkGraph) (joins : call = (sourceIP,b) ∨ call = (b,sourceIP)) (other : b ≠ sourceIP) :
    (graph.updateNetworkGraph call.1 call.2).neighbors sourceIP = addMember (graph.neighbors sourceIP) b := by
  cases joins with
  | inl here =>
      cases here
      rw [updateNetworkGraph,neighbors_addNeighbor,if_neg other.symm,neighbors_addNeighbor,if_pos rfl,neighbors_ensure,
        neighbors_ensure]
  | inr here =>
      cases here
      rw [updateNetworkGraph,neighbors_addNeighbor,if_pos rfl,neighbors_addNeighbor,if_neg other.symm,neighbors_ensure,
        neighbors_ensure]

theorem linked_call (near : (linked calls).Adj sourceIP b) :
    ∃ call ∈ calls, call = (sourceIP,b) ∨ call = (b,sourceIP) := by
  rw [linked,SimpleGraph.fromRel_adj] at near
  cases near.2 with
  | inl here => exact ⟨_,here,.inl rfl⟩
  | inr here => exact ⟨_,here,.inr rfl⟩

theorem order_first (near : (linked calls).Adj sourceIP b) :
    ∃ calls' rest, calls'.Perm calls ∧ (built calls').neighbors sourceIP = b :: rest := by
  obtain ⟨call,listed,joins⟩ := linked_call near
  have start : (built [call]).neighbors sourceIP = [b] := neighbors_join .empty joins near.ne.symm
  obtain ⟨rest,extended⟩ := built_extends [call] (calls.erase call) sourceIP
  rw [start] at extended
  exact ⟨call :: calls.erase call,rest,(List.perm_cons_erase listed).symm,extended.symm⟩

theorem order_both (near : (linked calls).Adj sourceIP a) (near' : (linked calls).Adj sourceIP b) (other : a ≠ b) :
    ∃ calls' rest, calls'.Perm calls ∧ (built calls').neighbors sourceIP = a :: b :: rest := by
  obtain ⟨call,listed,joins⟩ := linked_call near
  obtain ⟨call',listed',joins'⟩ := linked_call near'
  have different : call' ≠ call := by
    intro same
    cases same
    have distinct := near.ne
    cases joins with
    | inl here => cases here; cases joins' with
      | inl there => cases there; exact other rfl
      | inr there => cases there; exact distinct rfl
    | inr here => cases here; cases joins' with
      | inl there => cases there; exact distinct rfl
      | inr there => cases there; exact other rfl
  have listed'' : call' ∈ calls.erase call := (List.mem_erase_of_ne different).mpr listed'
  have start : (built [call]).neighbors sourceIP = [a] := neighbors_join .empty joins near.ne.symm
  have both : (built [call,call']).neighbors sourceIP = [a,b] := by
    refine (neighbors_join (built [call]) joins' near'.ne.symm).trans ?_
    rw [start,addMember,if_neg (by simpa using other.symm)]
    rfl
  obtain ⟨rest,extended⟩ := built_extends [call,call'] ((calls.erase call).erase call') sourceIP
  rw [both] at extended
  refine ⟨call :: call' :: (calls.erase call).erase call',rest,?_,extended.symm⟩
  exact (((List.perm_cons_erase listed'').symm.cons call).trans (List.perm_cons_erase listed).symm)

end Reordering

section FirstBranch
variable {graph : NetworkGraph} {network : SimpleGraph String} {sourceIP b : String} {rest : List String}

theorem visitAll_nodup (once : (graph.visitAll sourceIP remaining search list).related.Nodup) : search.related.Nodup := by
  obtain ⟨new,loop⟩ := visitAll_sweeps graph sourceIP remaining search list
  rw [loop.related] at once
  exact (List.nodup_append.mp once).1

-- A loop above the cutoff does not report a node again, so the node was entered before or
-- the loop does not come to it and enters none of its neighbours.
theorem not_again (once : (graph.visitAll sourceIP (remaining + 1) search list).related.Nodup) (reported : y ∈ search.related)
    (unvisited : y ∉ search.visited) (other : y ≠ sourceIP) :
    y ∉ list ∧ ∀ v ∈ list, v ≠ sourceIP → v ∉ search.visited → y ∉ graph.neighbors v := by
  obtain ⟨new,loop⟩ := visitAll_sweeps graph sourceIP (remaining + 1) search list
  rw [loop.related] at once
  have unreported : y ∉ new := fun again => (List.nodup_append.mp once).2.2 y reported y again rfl
  constructor
  · intro listed
    cases loop.members y listed other with
    | inl seen => exact unvisited seen
    | inr again => exact unreported again
  · intro v listed apart fresh near
    cases loop.around v (visitAll_enters remaining search list v listed apart) fresh y near other with
    | inl seen => exact unvisited seen
    | inr again => exact unreported again

def firstBranch (graph : NetworkGraph) (sourceIP b : String) : Search :=
  graph.visitAll sourceIP 1 ⟨[sourceIP,b],[b]⟩ (graph.neighbors b)

theorem visitNeighbor_first (other : b ≠ sourceIP) :
    graph.visitNeighbor sourceIP 2 ⟨[sourceIP],[]⟩ b = graph.firstBranch sourceIP b :=
  visitNeighbor_entered (fun seen => other (List.mem_singleton.mp seen)) other 1

theorem search_first (other : b ≠ sourceIP) (start : graph.neighbors sourceIP = b :: rest) :
    graph.findRelatedIPs sourceIP = (graph.visitAll sourceIP 2 (graph.firstBranch sourceIP b) rest).related := by
  rw [findRelatedIPs_eq,start,visitAll_cons,visitNeighbor_first other]

section
variable (holds : Holds graph network)
include holds

theorem firstBranch_enters (bx : network.Adj b x) (x0 : x ≠ sourceIP) : x ∈ (graph.firstBranch sourceIP b).visited :=
  visitAll_enters 0 _ _ x ((holds.listed bx.ne).mpr bx) x0

theorem firstBranch_entered (entered : x ∈ (graph.firstBranch sourceIP b).visited) :
    x = sourceIP ∨ x = b ∨ network.Adj b x := by
  by_cases same : x = b
  · exact .inr (.inl same)
  · cases visitAll_enters_members _ entered with
    | inr listed => exact .inr (.inr ((holds.listed (Ne.symm same)).mp listed))
    | inl marked =>
        rw [List.mem_cons,List.mem_singleton] at marked
        exact .inl (marked.resolve_right same)

theorem firstBranch_reports (bx : network.Adj b x) (x0 : x ≠ sourceIP) (xy : network.Adj x y) (y0 : y ≠ sourceIP)
    (yb : y ≠ b) : y ∈ (graph.firstBranch sourceIP b).related := by
  obtain ⟨new,loop⟩ := visitAll_sweeps graph sourceIP 1 ⟨[sourceIP,b],[b]⟩ (graph.neighbors b)
  have fresh : x ∉ [sourceIP,b] := by simp [x0,bx.ne.symm]
  rw [firstBranch,loop.related]
  cases loop.around x (firstBranch_enters holds bx x0) fresh y ((holds.listed xy.ne).mpr xy) y0 with
  | inl marked => exact absurd marked (by simp [y0,yb])
  | inr reported => exact List.mem_append_right _ reported

theorem first_beyond (found : FoundOnce graph network sourceIP) (start : graph.neighbors sourceIP = b :: rest)
    (near : network.Adj sourceIP b) (bx : network.Adj b x) (x0 : x ≠ sourceIP) (xy : network.Adj x y) (y0 : y ≠ sourceIP)
    (yb : y ≠ b) (apart : ¬ network.Adj b y) :
    ¬ network.Adj sourceIP y ∧ ∀ c, network.Adj sourceIP c → c ≠ b → ¬ network.Adj b c → ¬ network.Adj c y := by
  have once := found.once
  rw [search_first near.ne.symm start] at once
  have unvisited : y ∉ (graph.firstBranch sourceIP b).visited := by
    intro entered
    rcases firstBranch_entered holds entered with same | same | next
    · exact y0 same
    · exact yb same
    · exact apart next
  obtain ⟨unlisted,unreached⟩ := not_again once (firstBranch_reports holds bx x0 xy y0 yb) unvisited y0
  have later : ∀ c, network.Adj sourceIP c → c ≠ b → c ∈ rest := by
    intro c first other
    have listed := (holds.listed first.ne).mpr first
    rw [start] at listed
    exact (List.mem_cons.mp listed).resolve_left other
  refine ⟨fun first => unlisted (later y first yb),?_⟩
  intro c first other free next
  refine unreached c (later c first other) first.ne.symm ?_ ((holds.listed next.ne).mpr next)
  intro entered
  rcases firstBranch_entered holds entered with same | same | linked
  · exact first.ne same.symm
  · exact other same
  · exact free linked

theorem next_ordered (once : (graph.visitAll sourceIP 1 search (u :: after)).related.Nodup) (u0 : u ≠ sourceIP)
    (uFresh : u ∉ search.visited) (uy : network.Adj u y) (y0 : y ≠ sourceIP) (yFresh : y ∉ search.visited) :
    y ∉ after ∧ ∀ v ∈ after, v ≠ sourceIP → v ≠ u → v ∉ search.visited → ¬ network.Adj v y := by
  rw [visitAll_cons] at once
  have still : ∀ w, w ≠ u → w ∉ search.visited → w ∉ (graph.visitNeighbor sourceIP 1 search u).visited := by
    intro w other fresh seen
    cases visitNeighbor_enters_one seen with
    | inl old => exact fresh old
    | inr same => exact other same
  obtain ⟨new,step⟩ := visitNeighbor_reports graph sourceIP 1 search u
  have reported : y ∈ (graph.visitNeighbor sourceIP 1 search u).related := by
    rw [step.related]
    refine List.mem_append_right _ ?_
    exact (step.around u (visitNeighbor_enters 0 search u0) uFresh y ((holds.listed uy.ne).mpr uy) y0).resolve_left yFresh
  obtain ⟨unlisted,unreached⟩ := not_again once reported (still y uy.ne.symm yFresh) y0
  refine ⟨unlisted,?_⟩
  intro v listed v0 vu fresh next
  exact unreached v listed v0 (still v vu fresh) ((holds.listed next.ne).mpr next)

theorem first_ordered (found : FoundOnce graph network sourceIP) (start : graph.neighbors sourceIP = b :: rest)
    (near : network.Adj sourceIP b) (order : graph.neighbors b = before ++ u :: after) (u0 : u ≠ sourceIP) (ub : u ≠ b)
    (uy : network.Adj u y) (y0 : y ≠ sourceIP) (yb : y ≠ b) (fresh : y ∉ before) :
    y ∉ after ∧ ∀ v ∈ after, v ≠ sourceIP → v ≠ b → ¬ network.Adj v y := by
  have distinct := holds.distinct b
  rw [order] at distinct
  obtain ⟨_,tail,cross⟩ := List.nodup_append.mp distinct
  have once := found.once
  rw [search_first near.ne.symm start] at once
  have once := visitAll_nodup once
  rw [firstBranch,order,visitAll_append] at once
  have unvisited : ∀ w, w ≠ sourceIP → w ≠ b → w ∉ before →
      w ∉ (graph.visitAll sourceIP 1 ⟨[sourceIP,b],[b]⟩ before).visited := by
    intro w w0 wb unlisted seen
    cases visitAll_enters_members _ seen with
    | inr listed => exact unlisted listed
    | inl marked => exact absurd marked (by simp [w0,wb])
  have uFresh := unvisited u u0 ub (fun early => cross u early u List.mem_cons_self rfl)
  obtain ⟨unlisted,unreached⟩ := next_ordered holds once u0 uFresh uy y0 (unvisited y y0 yb fresh)
  refine ⟨unlisted,?_⟩
  intro v listed v0 vb
  refine unreached v listed v0 ?_ (unvisited v v0 vb ?_)
  · intro same
    exact (List.nodup_cons.mp tail).1 (same ▸ listed)
  · intro early
    exact cross v early v (List.mem_cons_of_mem u listed) rfl

omit holds in
theorem ordered_pair {list : List String} (hu : u ∈ list) (hv : v ∈ list) (other : u ≠ v) :
    (∃ before after, list = before ++ u :: after ∧ v ∈ after) ∨ ∃ before after, list = before ++ v :: after ∧ u ∈ after := by
  obtain ⟨before,after,here⟩ := List.append_of_mem hu
  rw [here,List.mem_append,List.mem_cons] at hv
  rcases hv with early | same | later
  · obtain ⟨start,between,there⟩ := List.append_of_mem early
    refine .inr ⟨start,between ++ u :: after,?_,List.mem_append_right _ List.mem_cons_self⟩
    rw [here,there,List.append_assoc,List.cons_append]
  · exact absurd same.symm other
  · exact .inl ⟨before,after,here,later⟩

theorem first_triangle (found : FoundOnce graph network sourceIP) (start : graph.neighbors sourceIP = b :: rest)
    (near : network.Adj sourceIP b) (bu : network.Adj b u) (bv : network.Adj b v) (u0 : u ≠ sourceIP) (v0 : v ≠ sourceIP) :
    ¬ network.Adj u v := by
  intro uv
  have distinct := holds.distinct b
  rcases ordered_pair ((holds.listed bu.ne).mpr bu) ((holds.listed bv.ne).mpr bv) uv.ne with
    ⟨before,after,order,later⟩ | ⟨before,after,order,later⟩
  · rw [order] at distinct
    have fresh : v ∉ before := fun early =>
      (List.nodup_append.mp distinct).2.2 v early v (List.mem_cons_of_mem u later) rfl
    exact (first_ordered holds found start near order u0 bu.ne.symm uv v0 bv.ne.symm fresh).1 later
  · rw [order] at distinct
    have fresh : u ∉ before := fun early =>
      (List.nodup_append.mp distinct).2.2 u early u (List.mem_cons_of_mem v later) rfl
    exact (first_ordered holds found start near order v0 bv.ne.symm uv.symm u0 bu.ne.symm fresh).1 later

theorem first_diamond (found : FoundOnce graph network sourceIP) (start : graph.neighbors sourceIP = b :: rest)
    (near : network.Adj sourceIP b) (bu : network.Adj b u) (bv : network.Adj b v) (u0 : u ≠ sourceIP) (v0 : v ≠ sourceIP)
    (other : u ≠ v) (uy : network.Adj u y) (vy : network.Adj v y) (y0 : y ≠ sourceIP) : y = b := by
  by_contra yb
  have apart : y ∉ graph.neighbors b := by
    intro listed
    exact first_triangle holds found start near bu ((holds.listed (Ne.symm yb)).mp listed) u0 y0 uy
  rcases ordered_pair ((holds.listed bu.ne).mpr bu) ((holds.listed bv.ne).mpr bv) other with
    ⟨before,after,order,later⟩ | ⟨before,after,order,later⟩
  · have fresh : y ∉ before := fun early => apart (order ▸ List.mem_append_left _ early)
    exact (first_ordered holds found start near order u0 bu.ne.symm uy y0 yb fresh).2 v later v0 bv.ne.symm vy
  · have fresh : y ∉ before := fun early => apart (order ▸ List.mem_append_left _ early)
    exact (first_ordered holds found start near order v0 bv.ne.symm vy y0 yb fresh).2 u later u0 bu.ne.symm uy

theorem second_beyond (found : FoundOnce graph network sourceIP) (start : graph.neighbors sourceIP = a :: b :: rest)
    (a1 : network.Adj sourceIP a) (b1 : network.Adj sourceIP b) (free : ¬ network.Adj a b) (ax : network.Adj a x)
    (x0 : x ≠ sourceIP) (xz : network.Adj x z) (z0 : z ≠ sourceIP) (za : z ≠ a) (far : ¬ network.Adj a z)
    (bY : network.Adj b y) (y0 : y ≠ sourceIP) (apart : ¬ network.Adj a y) : ¬ network.Adj y z := by
  intro yz
  have distinct : a ≠ b := by
    intro same
    have listed := holds.distinct sourceIP
    rw [start,same] at listed
    exact (List.nodup_cons.mp listed).1 List.mem_cons_self
  have once := found.once
  rw [search_first a1.ne.symm start,visitAll_cons] at once
  have once := visitAll_nodup once
  obtain ⟨new,step⟩ := visitNeighbor_reports graph sourceIP 2 (graph.firstBranch sourceIP a) b
  rw [step.related] at once
  have unvisited : ∀ w, w ≠ sourceIP → w ≠ a → ¬ network.Adj a w → w ∉ (graph.firstBranch sourceIP a).visited := by
    intro w w0 wa unlinked entered
    rcases firstBranch_entered holds entered with same | same | next
    · exact w0 same
    · exact wa same
    · exact unlinked next
  have bFresh := unvisited b b1.ne.symm distinct.symm free
  have yFresh := unvisited y y0 (fun same => free (same ▸ bY).symm) apart
  have entered : y ∈ (graph.visitNeighbor sourceIP 2 (graph.firstBranch sourceIP a) b).visited := by
    rw [visitNeighbor_entered bFresh b1.ne.symm]
    exact visitAll_enters 0 _ _ y ((holds.listed bY.ne).mpr bY) y0
  have again : z ∈ new := (step.around y entered yFresh z ((holds.listed yz.ne).mpr yz) z0).resolve_left
    (unvisited z z0 za far)
  exact (List.nodup_append.mp once).2.2 z (firstBranch_reports holds ax x0 xz z0 za) z again rfl

omit holds in
theorem never_entered (list : List String) (fresh : x ∉ search.visited)
    (blocked : ∀ c ∈ list, x = c ∨ x ∈ graph.neighbors c → c ∈ search.visited) :
    x ∉ (graph.visitAll sourceIP 2 search list).visited := by
  induction list generalizing search with
  | nil => exact fresh
  | cons first rest ih =>
      obtain ⟨here,later⟩ := List.forall_mem_cons.mp blocked
      obtain ⟨_,step⟩ := visitNeighbor_reports graph sourceIP 2 search first
      refine ih ?_ (fun c listed next => step.kept c (later c listed next))
      intro entered
      cases visitNeighbor_enters_around entered with
      | inl seen => exact fresh seen
      | inr found => exact found.1 (here found.2)

theorem entered_within (entered : w ∈ (graph.visitAll sourceIP 2 search list).visited) :
    w ∈ search.visited ∨ ∃ c ∈ list, w = c ∨ network.Adj c w := by
  by_contra apart
  rw [not_or] at apart
  refine never_entered list apart.1 ?_ entered
  intro c listed next
  by_cases same : w = c
  · exact absurd ⟨c,listed,.inl same⟩ apart.2
  · exact absurd ⟨c,listed,.inr ((holds.listed (Ne.symm same)).mp (next.resolve_left same))⟩ apart.2

theorem search_within (entered : w ∈ (graph.visitAll sourceIP 2 ⟨[sourceIP],[]⟩ (graph.neighbors sourceIP)).visited) :
    w = sourceIP ∨ network.Adj sourceIP w ∨ ∃ c, network.Adj sourceIP c ∧ network.Adj c w := by
  rcases entered_within holds entered with marked | ⟨c,member,near⟩
  · exact .inl (List.mem_singleton.mp marked)
  · by_cases source : c = sourceIP
    · cases source
      exact near.imp_right .inl
    · have c1 := (holds.listed (Ne.symm source)).mp member
      cases near with
      | inl same => exact .inr (.inl (same ▸ c1))
      | inr next => exact .inr (.inr ⟨c,c1,next⟩)

theorem search_reporter (reported : z ∈ graph.findRelatedIPs sourceIP) (three : network.edist sourceIP z = 3) :
    ∃ c w, w ∈ (graph.visitAll sourceIP 2 ⟨[sourceIP],[]⟩ (graph.neighbors sourceIP)).visited ∧
      network.Adj sourceIP c ∧ network.Adj c w ∧ network.Adj w z := by
  obtain ⟨z0,z1,z2,_⟩ := at_three_iff.mp three
  rw [findRelatedIPs_eq] at reported
  obtain ⟨w,entered,listed⟩ : ∃ w ∈ (graph.visitAll sourceIP 2 ⟨[sourceIP],[]⟩ (graph.neighbors sourceIP)).visited,
      z ∈ graph.neighbors w := by
    rcases visitAll_traced graph sourceIP 2 _ _ z reported with old | member | near
    · exact absurd old List.not_mem_nil
    · exact absurd ((holds.listed z0.symm).mp member) z1
    · exact near
  have other : w ≠ z := by
    intro same
    cases same
    rcases search_within holds entered with same | next | ⟨c,first,second⟩
    · exact z0 same
    · exact z1 next
    · exact z2 c first second
  have wz := (holds.listed other).mp listed
  rcases search_within holds entered with same | next | ⟨c,first,second⟩
  · exact absurd (same ▸ wz) z1
  · exact absurd wz (z2 w next)
  · exact ⟨c,w,entered,first,second,wz⟩

section Separate
variable (separate : ∀ a b x, network.Adj sourceIP a → network.Adj sourceIP b → a ≠ b → network.Adj a x →
  network.Adj b x → x = sourceIP)
include separate

theorem second_unentered (start : graph.neighbors sourceIP = b :: rest) (a1 : network.Adj sourceIP a)
    (b1 : network.Adj sourceIP b) (ab : network.Adj a b) (ax : network.Adj a x) (x0 : x ≠ sourceIP)
    (x1 : ¬ network.Adj sourceIP x) :
    x ∉ (graph.visitAll sourceIP 2 ⟨[sourceIP],[]⟩ (graph.neighbors sourceIP)).visited := by
  rw [start,visitAll_cons,visitNeighbor_first b1.ne.symm]
  apply never_entered
  · intro entered
    rcases firstBranch_entered holds entered with same | same | next
    · exact x0 same
    · exact x1 (same ▸ b1)
    · exact x0 (separate a b x a1 b1 ab.ne ax next)
  · intro c listed next
    have first : c ∈ graph.neighbors sourceIP := start ▸ List.mem_cons_of_mem b listed
    by_cases source : c = sourceIP
    · obtain ⟨_,loop⟩ := visitAll_sweeps graph sourceIP 1 ⟨[sourceIP,b],[b]⟩ (graph.neighbors b)
      exact loop.kept c (source ▸ List.mem_cons_self)
    · have c1 := (holds.listed (Ne.symm source)).mp first
      have cx : network.Adj c x := by
        by_cases same : x = c
        · exact absurd (same ▸ c1) x1
        · exact (holds.listed (Ne.symm same)).mp (next.resolve_left same)
      have same : c = a := by
        by_contra other
        exact x0 (separate c a x c1 a1 other cx ax)
      exact same ▸ firstBranch_enters holds ab.symm a1.ne.symm

-- What lies two steps behind `a` must be found behind `b`.
theorem first_covers (found : FoundOnce graph network sourceIP) (start : graph.neighbors sourceIP = b :: rest)
    (shared : ∀ a x b y z, network.Adj sourceIP a → network.Adj a x → network.Adj x z → network.Adj sourceIP b →
      network.Adj b y → network.Adj y z → network.edist sourceIP z = 3 → x ≠ y → network.Adj a b)
    (a1 : network.Adj sourceIP a) (ax : network.Adj a x) (xz : network.Adj x z) (three : network.edist sourceIP z = 3)
    (b1 : network.Adj sourceIP b) (ab : network.Adj a b) : ∃ y, network.Adj b y ∧ network.Adj y z := by
  obtain ⟨z0,z1,z2,_⟩ := at_three_iff.mp three
  have unentered := second_unentered holds separate start a1 b1 ab ax (fun same => z1 (same ▸ xz))
    (fun next => z2 x next xz)
  obtain ⟨c,w,entered,first,second,third⟩ := search_reporter holds ((found.exactly z).mpr ⟨z0,three.le⟩) three
  have other : x ≠ w := fun same => unentered (same ▸ entered)
  have ac := shared a x c w z a1 ax xz first second third three other
  have same : b = c := by
    by_contra other
    exact a1.ne (separate b c a b1 first other ab.symm ac.symm).symm
  exact ⟨w,same ▸ second,third⟩

end Separate
end
end FirstBranch

section Necessary
variable {calls : List (String × String)} {sourceIP : String}
  (right : ∀ calls', calls'.Perm calls → FoundOnce (built calls') (linked calls') sourceIP)
include right

theorem right_reordered (same : calls'.Perm calls) :
    Holds (built calls') (linked calls) ∧ FoundOnce (built calls') (linked calls) sourceIP := by
  have found := right calls' same
  have holds := built_holds calls'
  rw [linked_perm same] at found holds
  exact ⟨holds,found⟩

theorem separate_of_right (a1 : (linked calls).Adj sourceIP a) (b1 : (linked calls).Adj sourceIP b) (other : a ≠ b)
    (ax : (linked calls).Adj a x) (bx : (linked calls).Adj b x) : x = sourceIP := by
  by_contra x0
  obtain ⟨calls',rest,same,start⟩ := order_first b1
  obtain ⟨holds,found⟩ := right_reordered right same
  by_cases ba : (linked calls).Adj b a
  · exact first_triangle holds found start b1 bx ba x0 a1.ne.symm ax.symm
  · exact (first_beyond holds found start b1 bx x0 ax.symm a1.ne.symm other ba).1 a1

theorem level_of_right (x2 : (linked calls).edist sourceIP x = 2) (y2 : (linked calls).edist sourceIP y = 2) :
    ¬ (linked calls).Adj x y := by
  intro xy
  obtain ⟨x0,x1,a,a1,xa⟩ := SimpleGraph.edist_eq_two_iff.mp x2
  obtain ⟨y0,y1,b,(b1 : (linked calls).Adj sourceIP b),yb⟩ := SimpleGraph.edist_eq_two_iff.mp y2
  obtain ⟨calls',rest,same,start⟩ := order_first a1
  obtain ⟨holds,found⟩ := right_reordered right same
  have ya : y ≠ a := fun same => y1 (same ▸ a1)
  have apart : ¬ (linked calls).Adj a y := fun ay =>
    first_triangle holds found start a1 xa.symm ay x0.symm y0.symm xy
  have ba : b ≠ a := fun same => apart (same ▸ yb.symm)
  by_cases ab : (linked calls).Adj a b
  · have xb : x ≠ b := fun same => x1 (same ▸ b1)
    exact ya (first_diamond holds found start a1 xa.symm ab x0.symm b1.ne.symm xb xy yb.symm y0.symm)
  · exact (first_beyond holds found start a1 xa.symm x0.symm xy y0.symm ya apart).2 b b1 ba ab yb.symm

theorem shared_of_right (a1 : (linked calls).Adj sourceIP a) (ax : (linked calls).Adj a x) (xz : (linked calls).Adj x z)
    (b1 : (linked calls).Adj sourceIP b) (bY : (linked calls).Adj b y) (yz : (linked calls).Adj y z)
    (three : (linked calls).edist sourceIP z = 3) (other : x ≠ y) : (linked calls).Adj a b := by
  obtain ⟨z0,z1,z2,_⟩ := at_three_iff.mp three
  have x0 : x ≠ sourceIP := fun same => z1 (same ▸ xz)
  have y0 : y ≠ sourceIP := fun same => z1 (same ▸ yz)
  have za : z ≠ a := fun same => z1 (same ▸ a1)
  by_contra free
  by_cases same : a = b
  · cases same
    obtain ⟨calls',rest,same,start⟩ := order_first a1
    obtain ⟨holds,found⟩ := right_reordered right same
    exact za (first_diamond holds found start a1 ax bY x0 y0 other xz yz z0)
  · have apart : ¬ (linked calls).Adj a y := fun ay => y0 (separate_of_right right a1 b1 same ay bY)
    obtain ⟨calls',rest,perm,start⟩ := order_both a1 b1 same
    obtain ⟨holds,found⟩ := right_reordered right perm
    exact second_beyond holds found start a1 b1 free ax x0 xz z0 za (z2 a a1) bY y0 apart yz

theorem untangled_of_right : Untangled (linked calls) sourceIP where
  separate _ _ _ := separate_of_right right
  level _ _ := level_of_right right
  shared _ _ _ _ _ := shared_of_right right
  covered a x z b a1 ax xz three b1 ab := by
    obtain ⟨calls',rest,same,start⟩ := order_first b1
    obtain ⟨holds,found⟩ := right_reordered right same
    exact first_covers holds (fun _ _ _ => separate_of_right right) found start
      (fun _ _ _ _ _ => shared_of_right right) a1 ax xz three b1 ab

end Necessary

-- Every order in which the calls can come finds the related IPs once exactly where the
-- neighbourhood of the source is untangled.
theorem related_once_exact (calls : List (String × String)) (sourceIP : String) :
    (∀ calls', calls'.Perm calls → FoundOnce (built calls') (linked calls') sourceIP) ↔
      Untangled (linked calls) sourceIP := by
  constructor
  · exact untangled_of_right
  · intro calm calls' same
    have holds := built_holds calls'
    rw [linked_perm same] at holds ⊢
    exact untangled_found calm holds

theorem ddos_exact (calm : Untangled (linked calls) sourceIP) :
    .ddos ∈ analyzeAttackPatterns ((built calls).findRelatedIPs sourceIP) ↔
      ∃ ips : Finset String, 5 < ips.card ∧ ∀ ip ∈ ips, ip ≠ sourceIP ∧ (linked calls).edist sourceIP ip ≤ 3 := by
  have found := untangled_found calm (built_holds calls)
  have patterns : .ddos ∈ analyzeAttackPatterns ((built calls).findRelatedIPs sourceIP) ↔
      5 < ((built calls).findRelatedIPs sourceIP).length := by
    simp [analyzeAttackPatterns,getRecentRequestsFromIPs]
  rw [patterns,← List.toFinset_card_of_nodup found.once]
  constructor
  · intro many
    refine ⟨_,many,?_⟩
    intro ip listed
    exact (found.exactly ip).mp (List.mem_toFinset.mp listed)
  · intro some'
    obtain ⟨ips,many,near⟩ := some'
    refine many.trans_le (Finset.card_le_card ?_)
    intro ip listed
    exact List.mem_toFinset.mpr ((found.exactly ip).mpr (near ip listed))

def square : List (String × String) :=
  [("10.0.0.1","10.0.0.2"),("10.0.0.2","10.0.0.4"),("10.0.0.1","10.0.0.3"),("10.0.0.3","10.0.0.4")]

theorem square_reported_twice :
    (built square).findRelatedIPs "10.0.0.1" = ["10.0.0.2","10.0.0.4","10.0.0.3","10.0.0.3"] ∧
      ¬ ∀ calls sourceIP, FoundOnce (built calls) (linked calls) sourceIP := by
  refine ⟨by decide,?_⟩
  intro all
  exact absurd (all square "10.0.0.1").once (by decide)

end PhantomFlow.Analysis.NetworkGraph
