import PhantomFlow.Analysis.RelationshipAnalyzer
import Mathlib.Tactic.Tauto

namespace PhantomFlow.Analysis.NetworkGraph
variable {graph : NetworkGraph} {sourceIP : String}

def visitNeighbor (graph : NetworkGraph) (sourceIP : String) (remaining : ℕ) (search : Search) (neighbor : String) : Search :=
  if neighbor ∉ search.visited ∧ neighbor ≠ sourceIP then
    dfs graph sourceIP remaining neighbor { search with related := search.related ++ [neighbor] }
  else search

def visitAll (graph : NetworkGraph) (sourceIP : String) (remaining : ℕ) (search : Search) (list : List String) : Search :=
  list.foldl (graph.visitNeighbor sourceIP remaining) search

theorem visitAll_cons (remaining : ℕ) (search : Search) (ip : String) (rest : List String) :
    graph.visitAll sourceIP remaining search (ip :: rest) =
      graph.visitAll sourceIP remaining (graph.visitNeighbor sourceIP remaining search ip) rest := rfl

theorem visitAll_append (remaining : ℕ) (search : Search) (first rest : List String) :
    graph.visitAll sourceIP remaining search (first ++ rest) =
      graph.visitAll sourceIP remaining (graph.visitAll sourceIP remaining search first) rest :=
  List.foldl_append

theorem dfs_entered (unvisited : ip ∉ search.visited) (remaining : ℕ) :
    graph.dfs sourceIP (remaining + 1) ip search =
      graph.visitAll sourceIP remaining { search with visited := search.visited ++ [ip] } (graph.neighbors ip) := by
  rw [dfs,if_neg unvisited]
  rfl

theorem visitNeighbor_entered (unvisited : ip ∉ search.visited) (other : ip ≠ sourceIP) (remaining : ℕ) :
    graph.visitNeighbor sourceIP (remaining + 1) search ip =
      graph.visitAll sourceIP remaining ⟨search.visited ++ [ip],search.related ++ [ip]⟩ (graph.neighbors ip) := by
  rw [visitNeighbor,if_pos ⟨unvisited,other⟩,dfs_entered]
  exact unvisited

theorem visitNeighbor_skipped (skipped : ip ∈ search.visited ∨ ip = sourceIP) (remaining : ℕ) :
    graph.visitNeighbor sourceIP remaining search ip = search := by
  rw [visitNeighbor,if_neg]
  intro entered
  cases skipped with
  | inl seen => exact entered.1 seen
  | inr same => exact entered.2 same

-- What a part of the search reports. A node entered in it is reported in it, and so are
-- the neighbours of that node which were not entered before.
structure Reports (graph : NetworkGraph) (sourceIP : String) (search later : Search) (new : List String) : Prop where
  related : later.related = search.related ++ new
  kept : ∀ ip ∈ search.visited, ip ∈ later.visited
  entered : ∀ ip ∈ later.visited, ip ∉ search.visited → ip ∈ new
  around : ∀ ip ∈ later.visited, ip ∉ search.visited → ∀ near ∈ graph.neighbors ip, near ≠ sourceIP →
    near ∈ search.visited ∨ near ∈ new

theorem Reports.refl (search : Search) : Reports graph sourceIP search search [] :=
  ⟨(List.append_nil _).symm,fun _ seen => seen,fun _ seen unseen => absurd seen unseen,
    fun _ seen unseen => absurd seen unseen⟩

theorem Reports.trans (one : Reports graph sourceIP search middle new) (two : Reports graph sourceIP middle later new') :
    Reports graph sourceIP search later (new ++ new') where
  related := by rw [two.related,one.related,List.append_assoc]
  kept ip seen := two.kept ip (one.kept ip seen)
  entered ip seen unseen := by
    by_cases before : ip ∈ middle.visited
    · exact List.mem_append_left _ (one.entered ip before unseen)
    · exact List.mem_append_right _ (two.entered ip seen before)
  around ip seen unseen near listed other := by
    rw [List.mem_append]
    by_cases before : ip ∈ middle.visited
    · cases one.around ip before unseen near listed other with
      | inl old => exact .inl old
      | inr reported => exact .inr (.inl reported)
    · cases two.around ip seen before near listed other with
      | inr reported => exact .inr (.inr reported)
      | inl old =>
          by_cases first : near ∈ search.visited
          · exact .inl first
          · exact .inr (.inl (one.entered near old first))

structure Sweeps (graph : NetworkGraph) (sourceIP : String) (list : List String) (search later : Search)
    (new : List String) : Prop extends Reports graph sourceIP search later new where
  members : ∀ ip ∈ list, ip ≠ sourceIP → ip ∈ search.visited ∨ ip ∈ new

theorem sweeps_cons (step : Reports graph sourceIP search middle new)
    (member : ip ≠ sourceIP → ip ∈ search.visited ∨ ip ∈ new) (rest : Sweeps graph sourceIP list middle later new') :
    Sweeps graph sourceIP (ip :: list) search later (new ++ new') where
  toReports := step.trans rest.toReports
  members x listed other := by
    rw [List.mem_append]
    cases List.mem_cons.mp listed with
    | inl same =>
        cases same
        cases member other with
        | inl seen => exact .inl seen
        | inr reported => exact .inr (.inl reported)
    | inr later =>
        cases rest.members x later other with
        | inr reported => exact .inr (.inr reported)
        | inl seen =>
            by_cases first : x ∈ search.visited
            · exact .inl first
            · exact .inr (.inl (step.entered x seen first))

theorem reports_enter
    (loop : Sweeps graph sourceIP (graph.neighbors ip) ⟨search.visited ++ [ip],search.related ++ [ip]⟩ later new) :
    Reports graph sourceIP search later (ip :: new) where
  related := by rw [loop.related,List.append_assoc]; rfl
  kept x seen := loop.kept x (List.mem_append_left _ seen)
  entered x seen unseen := by
    by_cases same : x = ip
    · exact same ▸ List.mem_cons_self
    · exact List.mem_cons_of_mem _ (loop.entered x seen (by simp [unseen,same]))
  around x seen unseen near listed other := by
    have found : near ∈ search.visited ++ [ip] ∨ near ∈ new := by
      by_cases same : x = ip
      · exact loop.members near (same ▸ listed) other
      · exact loop.around x seen (by simp [unseen,same]) near listed other
    rw [List.mem_append,List.mem_singleton] at found
    rw [List.mem_cons]
    tauto

def Turn (graph : NetworkGraph) (sourceIP : String) (remaining : ℕ) (search : Search) (ip : String) : Prop :=
  ∃ new, Reports graph sourceIP search (graph.visitNeighbor sourceIP remaining search ip) new ∧
    (ip ≠ sourceIP → ip ∈ search.visited ∨ ip ∈ new)

theorem turn_skipped (skipped : ip ∈ search.visited ∨ ip = sourceIP) : Turn graph sourceIP remaining search ip := by
  rw [Turn,visitNeighbor_skipped skipped]
  refine ⟨[],.refl search,?_⟩
  intro other
  exact .inl (skipped.resolve_right other)

theorem visitAll_turns (turns : ∀ search ip, Turn graph sourceIP remaining search ip) (search : Search)
    (list : List String) : ∃ new, Sweeps graph sourceIP list search (graph.visitAll sourceIP remaining search list) new := by
  induction list generalizing search with
  | nil => exact ⟨[],.refl search,fun _ listed => absurd listed List.not_mem_nil⟩
  | cons ip rest ih =>
      obtain ⟨new,step,member⟩ := turns search ip
      obtain ⟨new',loop⟩ := ih (graph.visitNeighbor sourceIP remaining search ip)
      rw [visitAll_cons]
      exact ⟨new ++ new',sweeps_cons step member loop⟩

theorem turn_taken (graph : NetworkGraph) (sourceIP : String) (remaining : ℕ) (search : Search) (ip : String) :
    Turn graph sourceIP remaining search ip := by
  induction remaining generalizing search ip with
  | zero =>
      by_cases skipped : ip ∈ search.visited ∨ ip = sourceIP
      · exact turn_skipped skipped
      · -- at the cutoff the node is reported and not entered
        rw [Turn,visitNeighbor,if_pos (not_or.mp skipped)]
        exact ⟨[ip],⟨rfl,fun _ seen => seen,fun _ seen unseen => absurd seen unseen,
          fun _ seen unseen => absurd seen unseen⟩,fun _ => .inr List.mem_cons_self⟩
  | succ remaining ih =>
      by_cases skipped : ip ∈ search.visited ∨ ip = sourceIP
      · exact turn_skipped skipped
      · obtain ⟨unvisited,other⟩ := not_or.mp skipped
        obtain ⟨new,loop⟩ := visitAll_turns ih ⟨search.visited ++ [ip],search.related ++ [ip]⟩ (graph.neighbors ip)
        rw [Turn,visitNeighbor_entered unvisited other]
        exact ⟨ip :: new,reports_enter loop,fun _ => .inr List.mem_cons_self⟩

theorem visitAll_sweeps (graph : NetworkGraph) (sourceIP : String) (remaining : ℕ) (search : Search) (list : List String) :
    ∃ new, Sweeps graph sourceIP list search (graph.visitAll sourceIP remaining search list) new :=
  visitAll_turns (turn_taken graph sourceIP remaining) search list

theorem visitNeighbor_reports (graph : NetworkGraph) (sourceIP : String) (remaining : ℕ) (search : Search) (ip : String) :
    ∃ new, Reports graph sourceIP search (graph.visitNeighbor sourceIP remaining search ip) new := by
  obtain ⟨new,step,_⟩ := turn_taken graph sourceIP remaining search ip
  exact ⟨new,step⟩

theorem visitNeighbor_enters (remaining : ℕ) (search : Search) (other : ip ≠ sourceIP) :
    ip ∈ (graph.visitNeighbor sourceIP (remaining + 1) search ip).visited := by
  by_cases seen : ip ∈ search.visited
  · rw [visitNeighbor_skipped (.inl seen)]
    exact seen
  · rw [visitNeighbor_entered seen other]
    obtain ⟨_,loop⟩ := visitAll_sweeps graph sourceIP remaining ⟨search.visited ++ [ip],search.related ++ [ip]⟩
      (graph.neighbors ip)
    exact loop.kept ip (List.mem_append_right _ (List.mem_singleton_self ip))

theorem visitAll_enters (remaining : ℕ) (search : Search) (list : List String) :
    ∀ ip ∈ list, ip ≠ sourceIP → ip ∈ (graph.visitAll sourceIP (remaining + 1) search list).visited := by
  induction list generalizing search with
  | nil => exact fun _ listed => absurd listed List.not_mem_nil
  | cons first rest ih =>
      intro ip listed other
      rw [visitAll_cons]
      cases List.mem_cons.mp listed with
      | inl same =>
          cases same
          obtain ⟨_,loop⟩ := visitAll_sweeps graph sourceIP (remaining + 1)
            (graph.visitNeighbor sourceIP (remaining + 1) search first) rest
          exact loop.kept first (visitNeighbor_enters remaining search other)
      | inr later => exact ih _ ip later other

theorem visitAll_cutoff_eq (graph : NetworkGraph) (sourceIP : String) (search : Search) (list : List String) :
    graph.visitAll sourceIP 0 search list =
      ⟨search.visited,search.related ++ list.filter (fun x => decide (x ∉ search.visited ∧ x ≠ sourceIP))⟩ := by
  induction list generalizing search with
  | nil => exact congrArg (Search.mk search.visited) (List.append_nil _).symm
  | cons ip rest ih =>
      rw [visitAll_cons,ih,List.filter_cons]
      by_cases fresh : ip ∉ search.visited ∧ ip ≠ sourceIP
      · rw [visitNeighbor,if_pos fresh,if_pos (decide_eq_true fresh)]
        exact congrArg (Search.mk search.visited) (List.append_assoc _ _ _)
      · rw [visitNeighbor,if_neg fresh,if_neg]
        intro decided
        exact fresh (of_decide_eq_true decided)

theorem visitNeighbor_enters_one (entered : x ∈ (graph.visitNeighbor sourceIP 1 search ip).visited) :
    x ∈ search.visited ∨ x = ip := by
  by_cases skipped : ip ∈ search.visited ∨ ip = sourceIP
  · rw [visitNeighbor_skipped skipped] at entered
    exact .inl entered
  · obtain ⟨unvisited,other⟩ := not_or.mp skipped
    rw [visitNeighbor_entered unvisited other,visitAll_cutoff_eq,List.mem_append,List.mem_singleton] at entered
    exact entered

theorem visitAll_enters_members (list : List String) (entered : x ∈ (graph.visitAll sourceIP 1 search list).visited) :
    x ∈ search.visited ∨ x ∈ list := by
  induction list generalizing search with
  | nil => exact .inl entered
  | cons ip rest ih =>
      rw [List.mem_cons]
      cases ih entered with
      | inr later => exact .inr (.inr later)
      | inl before =>
          cases visitNeighbor_enters_one before with
          | inl seen => exact .inl seen
          | inr same => exact .inr (.inl same)

theorem visitNeighbor_enters_around (entered : x ∈ (graph.visitNeighbor sourceIP 2 search ip).visited) :
    x ∈ search.visited ∨ (ip ∉ search.visited ∧ (x = ip ∨ x ∈ graph.neighbors ip)) := by
  by_cases skipped : ip ∈ search.visited ∨ ip = sourceIP
  · rw [visitNeighbor_skipped skipped] at entered
    exact .inl entered
  · obtain ⟨unvisited,other⟩ := not_or.mp skipped
    rw [visitNeighbor_entered unvisited other] at entered
    cases visitAll_enters_members _ entered with
    | inr near => exact .inr ⟨unvisited,.inr near⟩
    | inl marked =>
        cases List.mem_append.mp marked with
        | inl seen => exact .inl seen
        | inr same => exact .inr ⟨unvisited,.inl (List.mem_singleton.mp same)⟩

def Traced (graph : NetworkGraph) (list : List String) (search later : Search) : Prop :=
  ∀ ip ∈ later.related, ip ∈ search.related ∨ ip ∈ list ∨ ∃ near ∈ later.visited, ip ∈ graph.neighbors near

theorem visitAll_traced_of (turns : ∀ search ip, Traced graph [ip] search (graph.visitNeighbor sourceIP remaining search ip))
    (search : Search) (list : List String) : Traced graph list search (graph.visitAll sourceIP remaining search list) := by
  induction list generalizing search with
  | nil => exact fun _ reported => .inl reported
  | cons first rest ih =>
      intro ip reported
      rw [visitAll_cons] at reported ⊢
      obtain ⟨_,loop⟩ := visitAll_sweeps graph sourceIP remaining (graph.visitNeighbor sourceIP remaining search first) rest
      cases ih _ ip reported with
      | inr found =>
          cases found with
          | inl listed => exact .inr (.inl (List.mem_cons_of_mem _ listed))
          | inr near => exact .inr (.inr near)
      | inl before =>
          cases turns search first ip before with
          | inl old => exact .inl old
          | inr found =>
              cases found with
              | inl same => exact .inr (.inl (List.mem_singleton.mp same ▸ List.mem_cons_self))
              | inr entered =>
                  obtain ⟨near,seen,listed⟩ := entered
                  exact .inr (.inr ⟨near,loop.kept near seen,listed⟩)

theorem visitNeighbor_traced (graph : NetworkGraph) (sourceIP : String) (remaining : ℕ) (search : Search) (ip : String) :
    Traced graph [ip] search (graph.visitNeighbor sourceIP remaining search ip) := by
  induction remaining generalizing search ip with
  | zero =>
      intro x reported
      by_cases skipped : ip ∈ search.visited ∨ ip = sourceIP
      · rw [visitNeighbor_skipped skipped] at reported
        exact .inl reported
      · rw [visitNeighbor,if_pos (not_or.mp skipped)] at reported
        exact (List.mem_append.mp reported).imp_right .inl
  | succ remaining ih =>
      intro x reported
      by_cases skipped : ip ∈ search.visited ∨ ip = sourceIP
      · rw [visitNeighbor_skipped skipped] at reported
        exact .inl reported
      · obtain ⟨unvisited,other⟩ := not_or.mp skipped
        rw [visitNeighbor_entered unvisited other] at reported ⊢
        obtain ⟨_,loop⟩ := visitAll_sweeps graph sourceIP remaining ⟨search.visited ++ [ip],search.related ++ [ip]⟩
          (graph.neighbors ip)
        cases visitAll_traced_of ih _ _ x reported with
        | inl before => exact (List.mem_append.mp before).imp_right .inl
        | inr found =>
            cases found with
            | inl listed =>
                exact .inr (.inr ⟨ip,loop.kept ip (List.mem_append_right _ (List.mem_singleton_self ip)),listed⟩)
            | inr near => exact .inr (.inr near)

theorem visitAll_traced (graph : NetworkGraph) (sourceIP : String) (remaining : ℕ) (search : Search) (list : List String) :
    Traced graph list search (graph.visitAll sourceIP remaining search list) :=
  visitAll_traced_of (visitNeighbor_traced graph sourceIP remaining) search list

theorem findRelatedIPs_eq (graph : NetworkGraph) (sourceIP : String) :
    graph.findRelatedIPs sourceIP =
      (graph.visitAll sourceIP 2 ⟨[sourceIP],[]⟩ (graph.neighbors sourceIP)).related := by
  rw [findRelatedIPs,dfs_entered List.not_mem_nil]
  rfl

end PhantomFlow.Analysis.NetworkGraph
