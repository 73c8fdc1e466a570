import PhantomFlow.Library.OrderedMap
import Mathlib.Combinatorics.SimpleGraph.Basic
import Mathlib.Data.List.Infix

namespace PhantomFlow.Analysis
open Library

-- `Map<string, Set<string>>`; a set is iterated in the order its members were added.
abbrev NetworkGraph := OrderedMap String (List String)

namespace NetworkGraph

def addMember (members : List String) (ip : String) : List String :=
  if ip ∈ members then members else members ++ [ip]

def ensure (graph : NetworkGraph) (ip : String) : NetworkGraph :=
  if graph.has ip then graph else graph.set ip []

def neighbors (graph : NetworkGraph) (ip : String) : List String := (graph.get ip).getD []

def addNeighbor (graph : NetworkGraph) (ip member : String) : NetworkGraph :=
  graph.set ip (addMember (graph.neighbors ip) member)

def updateNetworkGraph (graph : NetworkGraph) (ip1 ip2 : String) : NetworkGraph :=
  (((graph.ensure ip1).ensure ip2).addNeighbor ip1 ip2).addNeighbor ip2 ip1

def run (graph : NetworkGraph) (calls : List (String × String)) : NetworkGraph :=
  calls.foldl (fun graph call => graph.updateNetworkGraph call.1 call.2) graph

def built (calls : List (String × String)) : NetworkGraph := run .empty calls

structure Search where
  visited : List String
  related : List String
deriving DecidableEq

-- `remaining` counts the depths down to the cutoff: the source's `depth > 2` is 0.
def dfs (graph : NetworkGraph) (sourceIP : String) : ℕ → String → Search → Search
  | 0,_,search => search
  | remaining + 1,ip,search =>
      if ip ∈ search.visited then search
      else
        (graph.neighbors ip).foldl (fun search neighbor =>
          if neighbor ∉ search.visited ∧ neighbor ≠ sourceIP then
            dfs graph sourceIP remaining neighbor { search with related := search.related ++ [neighbor] }
          else search) { search with visited := search.visited ++ [ip] }

def findRelatedIPs (graph : NetworkGraph) (sourceIP : String) : List String :=
  (graph.dfs sourceIP 3 sourceIP ⟨[],[]⟩).related

section Building

theorem neighbors_ensure (graph : NetworkGraph) (ip x : String) : (graph.ensure ip).neighbors x = graph.neighbors x := by
  rw [ensure]
  split
  · rfl
  · rename_i absent
    rw [neighbors,neighbors,OrderedMap.get_set]
    split
    · rename_i same
      rw [same]
      cases found : graph.get ip with
      | none => rfl
      | some members => exact absurd (OrderedMap.has_of_get found) absent
    · rfl

theorem neighbors_addNeighbor (graph : NetworkGraph) (ip member x : String) :
    (graph.addNeighbor ip member).neighbors x =
      if x = ip then addMember (graph.neighbors x) member else graph.neighbors x := by
  rw [addNeighbor,neighbors,OrderedMap.get_set]
  split
  · rename_i same
    rw [same]
    rfl
  · rfl

theorem mem_addMember : x ∈ addMember members ip ↔ x ∈ members ∨ x = ip := by
  rw [addMember]
  split
  · rename_i present
    constructor
    · exact Or.inl
    · intro either
      cases either with
      | inl here => exact here
      | inr same => exact same ▸ present
  · rw [List.mem_append,List.mem_singleton]

theorem nodup_addMember (distinct : members.Nodup) (ip : String) : (addMember members ip).Nodup := by
  rw [addMember]
  split
  · exact distinct
  · rename_i absent
    exact List.nodup_append.mpr ⟨distinct,List.nodup_singleton ip,fun x here y there same =>
      absent (List.mem_singleton.mp there ▸ same ▸ here)⟩

theorem addMember_extends (members : List String) (ip : String) : members <+: addMember members ip := by
  rw [addMember]
  split
  · exact List.prefix_rfl
  · exact List.prefix_append members [ip]

theorem mem_addNeighbor (graph : NetworkGraph) (ip member x y : String) :
    y ∈ (graph.addNeighbor ip member).neighbors x ↔ y ∈ graph.neighbors x ∨ x = ip ∧ y = member := by
  rw [neighbors_addNeighbor]
  split
  · rename_i same
    rw [mem_addMember,and_iff_right same]
  · rename_i other
    rw [or_iff_left]
    exact fun found => other found.1

theorem mem_update (graph : NetworkGraph) (ip1 ip2 x y : String) :
    y ∈ (graph.updateNetworkGraph ip1 ip2).neighbors x ↔
      y ∈ graph.neighbors x ∨ (x,y) = (ip1,ip2) ∨ (y,x) = (ip1,ip2) := by
  rw [updateNetworkGraph,mem_addNeighbor,mem_addNeighbor,neighbors_ensure,neighbors_ensure,Prod.mk_inj,Prod.mk_inj,
    and_comm (a := x = ip2),or_assoc]

theorem nodup_addNeighbor (distinct : ∀ x, (neighbors graph x).Nodup) (ip member x : String) :
    ((addNeighbor graph ip member).neighbors x).Nodup := by
  rw [neighbors_addNeighbor]
  split
  · exact nodup_addMember (distinct x) member
  · exact distinct x

theorem nodup_update (distinct : ∀ x, (neighbors graph x).Nodup) (ip1 ip2 x : String) :
    ((updateNetworkGraph graph ip1 ip2).neighbors x).Nodup := by
  refine nodup_addNeighbor (nodup_addNeighbor ?_ ip1 ip2) ip2 ip1 x
  intro y
  rw [neighbors_ensure,neighbors_ensure]
  exact distinct y

theorem addNeighbor_extends (graph : NetworkGraph) (ip member x : String) :
    graph.neighbors x <+: (graph.addNeighbor ip member).neighbors x := by
  rw [neighbors_addNeighbor]
  split
  · exact addMember_extends _ member
  · exact List.prefix_rfl

theorem update_extends (graph : NetworkGraph) (ip1 ip2 x : String) :
    graph.neighbors x <+: (graph.updateNetworkGraph ip1 ip2).neighbors x := by
  have first := addNeighbor_extends ((graph.ensure ip1).ensure ip2) ip1 ip2 x
  rw [neighbors_ensure,neighbors_ensure] at first
  exact first.trans (addNeighbor_extends _ ip2 ip1 x)

theorem mem_run (calls : List (String × String)) (graph : NetworkGraph) (x y : String) :
    y ∈ (graph.run calls).neighbors x ↔ y ∈ graph.neighbors x ∨ (x,y) ∈ calls ∨ (y,x) ∈ calls := by
  induction calls generalizing graph with
  | nil => simp [run]
  | cons call rest ih =>
      change y ∈ ((graph.updateNetworkGraph call.1 call.2).run rest).neighbors x ↔ _
      rw [ih,mem_update,List.mem_cons,List.mem_cons]
      tauto

theorem nodup_run (calls : List (String × String)) (distinct : ∀ x, (neighbors graph x).Nodup) (x : String) :
    ((run graph calls).neighbors x).Nodup := by
  induction calls generalizing graph with
  | nil => exact distinct x
  | cons call rest ih => exact ih (nodup_update distinct call.1 call.2)

theorem run_extends (calls : List (String × String)) (graph : NetworkGraph) (x : String) :
    graph.neighbors x <+: (graph.run calls).neighbors x := by
  induction calls generalizing graph with
  | nil => exact List.prefix_rfl
  | cons call rest ih => exact (update_extends graph call.1 call.2 x).trans (ih _)

theorem mem_built : y ∈ (built calls).neighbors x ↔ (x,y) ∈ calls ∨ (y,x) ∈ calls := by
  refine (mem_run calls .empty x y).trans (or_iff_right ?_)
  exact List.not_mem_nil

theorem nodup_built (calls : List (String × String)) (x : String) : ((built calls).neighbors x).Nodup :=
  @nodup_run .empty calls (fun _ => List.nodup_nil) x

theorem built_extends (first rest : List (String × String)) (x : String) :
    (built first).neighbors x <+: (built (first ++ rest)).neighbors x := by
  rw [built,built,run,run,List.foldl_append]
  exact run_extends rest _ x

end Building

end NetworkGraph

inductive AttackPattern where
  | ddos | bruteForce | portScanning
deriving DecidableEq

-- The source has no request store behind this yet and returns none; of a request the
-- caller reads the path.
def getRecentRequestsFromIPs (_ : List String) : List String := []

def analyzeAttackPatterns (relatedIPs : List String) : List AttackPattern :=
  let recentPaths := getRecentRequestsFromIPs relatedIPs
  (if 5 < relatedIPs.length then [.ddos] else []) ++
    (if 100 < recentPaths.length then [.bruteForce] else []) ++
    (if 50 < recentPaths.dedup.length then [.portScanning] else [])

end PhantomFlow.Analysis
