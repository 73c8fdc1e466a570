import Mathlib.Data.List.Infix
import Mathlib.Order.Basic

namespace PhantomFlow.Library
variable {α : Type u}

-- A server that keeps lists `L` of entries `α`, by its commands for one list.
structure ListServer (L : Type v) (α : Type u) where
  empty : L
  lpush : L → α → L
  ltrim : L → ℤ → ℤ → L
  lrange : L → ℤ → ℤ → List α

namespace ListServer

-- An index below zero counts from the end of the list.
def resolve (length : ℕ) (index : ℤ) : ℤ := if index < 0 then length + index else index

def between (list : List α) (start stop : ℤ) : List α :=
  let first := max (resolve list.length start) 0
  let last := resolve list.length stop
  if last < first ∨ (list.length : ℤ) ≤ first then []
  else (list.drop first.toNat).take (last - first + 1).toNat

theorem between_head (list : List α) (stop : ℤ) (positive : 0 ≤ stop) :
    between list 0 stop = list.take (stop + 1).toNat := by
  have last : resolve list.length stop = stop := if_neg (by omega)
  unfold between
  rw [last]
  change (if stop < 0 ∨ (list.length : ℤ) ≤ 0 then [] else (list.drop 0).take (stop - 0 + 1).toNat) = _
  rw [List.drop_zero,Int.sub_zero]
  split
  · rename_i empty
    have none : list.length = 0 := by omega
    rw [List.length_eq_zero_iff.mp none,List.take_nil]
  · rfl

theorem between_all (list : List α) : between list 0 (-1) = list := by
  have last : resolve list.length (-1) = list.length - 1 := if_pos (by decide)
  unfold between
  rw [last]
  change (if (list.length : ℤ) - 1 < 0 ∨ (list.length : ℤ) ≤ 0 then []
    else (list.drop 0).take ((list.length : ℤ) - 1 - 0 + 1).toNat) = list
  split
  · rename_i empty
    have none : list.length = 0 := by omega
    exact (List.length_eq_zero_iff.mp none).symm
  · rw [List.drop_zero]
    exact List.take_of_length_le (by omega)

variable {L : Type v}

def entries (server : ListServer L α) (list : L) : List α := server.lrange list 0 (-1)

-- What the commands are documented to do: a push goes to the head, a trim keeps the
-- range that a read of the same bounds gives.
structure Lawful (server : ListServer L α) : Prop where
  entries_empty : server.entries server.empty = []
  entries_lpush : ∀ list entry, server.entries (server.lpush list entry) = entry :: server.entries list
  entries_ltrim : ∀ list start stop, server.entries (server.ltrim list start stop) = between (server.entries list) start stop
  lrange_entries : ∀ list start stop, server.lrange list start stop = between (server.entries list) start stop

section Lawful
variable {server : ListServer L α}

theorem Lawful.lrange_head (lawful : server.Lawful) (list : L) (stop : ℤ) (positive : 0 ≤ stop) :
    server.lrange list 0 stop = (server.entries list).take (stop + 1).toNat := by
  rw [lawful.lrange_entries,between_head _ _ positive]

theorem Lawful.ltrim_head (lawful : server.Lawful) (list : L) (stop : ℤ) (positive : 0 ≤ stop) :
    server.entries (server.ltrim list 0 stop) = (server.entries list).take (stop + 1).toNat := by
  rw [lawful.entries_ltrim,between_head _ _ positive]

end Lawful

def plain : ListServer (List α) α where
  empty := []
  lpush := fun list entry => entry :: list
  ltrim := between
  lrange := between

theorem plain_lawful : (plain : ListServer (List α) α).Lawful where
  entries_empty := between_all []
  entries_lpush := by
    intro list entry
    change between (entry :: list) 0 (-1) = entry :: between list 0 (-1)
    rw [between_all,between_all]
  entries_ltrim := by
    intro list start stop
    change between (between list start stop) 0 (-1) = between (between list 0 (-1)) start stop
    rw [between_all,between_all]
  lrange_entries := by
    intro list start stop
    change between list start stop = between (between list 0 (-1)) start stop
    rw [between_all]

end ListServer

-- A log of a history, newest first, of which entries beyond the cap may have been cut.
def Kept (cap : ℕ) (history log : List α) : Prop := ∃ m, log = history.take m ∧ min cap history.length ≤ m

section Kept
variable {cap : ℕ} {history log : List α}

theorem kept_nil (cap : ℕ) : Kept cap ([] : List α) [] := ⟨0,rfl,Nat.min_le_right cap 0⟩

theorem Kept.push (kept : Kept cap history log) (entry : α) : Kept cap (entry :: history) (entry :: log) := by
  obtain ⟨m,rfl,least⟩ := kept
  refine ⟨m + 1,rfl,?_⟩
  rw [List.length_cons]
  omega

theorem Kept.cut (kept : Kept cap history log) : Kept cap history (log.take cap) := by
  obtain ⟨m,rfl,least⟩ := kept
  exact ⟨min cap m,List.take_take,by omega⟩

theorem Kept.newest (kept : Kept cap history log) (small : limit ≤ cap) : log.take limit = history.take limit := by
  obtain ⟨m,rfl,least⟩ := kept
  rw [List.take_take]
  rcases Nat.lt_or_ge m limit with short | enough
  · have all : history.length ≤ m := by omega
    rw [Nat.min_eq_right short.le,List.take_of_length_le all,List.take_of_length_le (all.trans short.le)]
  · rw [Nat.min_eq_left enough]

theorem Kept.short (kept : Kept cap history log) : min cap history.length ≤ log.length ∧ log <+: history := by
  obtain ⟨m,rfl,least⟩ := kept
  rw [List.length_take]
  exact ⟨by omega,List.take_prefix m history⟩

end Kept
end PhantomFlow.Library
