import Mathlib.Order.Lattice
import PhantomFlow.Library.OrderedMap

namespace PhantomFlow.Library.OrderedMap
variable {κ : Type u} {ν : Type v} {α : Type w} [DecidableEq κ] [LinearOrder α] (ends : ν → α)
  {m n : OrderedMap κ ν} {k : κ}

def live (m : OrderedMap κ ν) (k : κ) (bound : α) : Option ν := (m.get k).filter (fun v => decide (¬ ends v < bound))

def expire (m : OrderedMap κ ν) (bound : α) : OrderedMap κ ν := m.filter (fun _ v => decide (¬ ends v < bound))

theorem get_expire (m : OrderedMap κ ν) (bound : α) (k : κ) : (expire ends m bound).get k = live ends m k bound :=
  get_filter m _ k

theorem live_expire (earlier : bound ≤ later) : live ends (expire ends m bound) k later = live ends m k later := by
  rw [live,get_expire,live,Option.filter_filter]
  apply congrArg (fun keep => (m.get k).filter keep)
  funext v
  by_cases ended : ends v < bound
  · simp [ended,lt_of_lt_of_le ended earlier]
  · simp [ended]

theorem live_congr (same : m.get k = n.get k) (bound : α) : live ends m k bound = live ends n k bound := by
  rw [live,live,same]

def AgreeFrom (k : κ) (bound : α) (m n : OrderedMap κ ν) : Prop :=
  ∀ later, bound ≤ later → live ends m k later = live ends n k later

variable {ends} {bound later : α}

theorem AgreeFrom.refl : AgreeFrom ends k bound m m := fun _ _ => rfl

theorem AgreeFrom.symm (agree : AgreeFrom ends k bound m n) : AgreeFrom ends k bound n m :=
  fun later below => (agree later below).symm

theorem AgreeFrom.mono (agree : AgreeFrom ends k bound m n) (below : bound ≤ later) : AgreeFrom ends k later m n :=
  fun last after => agree last (le_trans below after)

theorem AgreeFrom.congr (agree : AgreeFrom ends k bound m n) (same : m'.get k = m.get k) :
    AgreeFrom ends k bound m' n :=
  fun later below => (live_congr ends same later).trans (agree later below)

theorem AgreeFrom.of_get (same : m.get k = n.get k) : AgreeFrom ends k bound m n :=
  fun later _ => live_congr ends same later

theorem AgreeFrom.expire (agree : AgreeFrom ends k bound m n) : AgreeFrom ends k bound (expire ends m bound) n :=
  fun later below => (live_expire ends below).trans (agree later below)

theorem AgreeFrom.expire_both (agree : AgreeFrom ends k bound m n) :
    AgreeFrom ends k bound (OrderedMap.expire ends m bound) (OrderedMap.expire ends n bound) :=
  agree.expire.symm.expire.symm

end PhantomFlow.Library.OrderedMap
