import Mathlib.Algebra.Ring.Nat
import Mathlib.Data.List.Nodup

namespace PhantomFlow.Library

-- A finite map that remembers insertion order. Writing a present key keeps its
-- place, writing a new one appends it, and iteration follows the list. The key
-- discipline is a field, so every value of the type is a map.
structure OrderedMap (κ : Type u) (ν : Type v) where
  entries : List (κ × ν)
  distinct : (entries.map Prod.fst).Nodup

namespace OrderedMap
variable {κ : Type u} {ν : Type v} {μ : Type w}

@[ext] theorem ext {m n : OrderedMap κ ν} (same : m.entries = n.entries) : m = n := by
  cases m; cases n; cases same; rfl

instance [DecidableEq κ] [DecidableEq ν] : DecidableEq (OrderedMap κ ν) := fun m n =>
  decidable_of_iff (m.entries = n.entries) ⟨ext,fun same => same ▸ rfl⟩

def empty : OrderedMap κ ν := ⟨[],by simp⟩

variable [DecidableEq κ]

def keys (m : OrderedMap κ ν) : List κ := m.entries.map Prod.fst
def values (m : OrderedMap κ ν) : List ν := m.entries.map Prod.snd
def size (m : OrderedMap κ ν) : Nat := m.entries.length
def get (m : OrderedMap κ ν) (k : κ) : Option ν := m.entries.lookup k
def has (m : OrderedMap κ ν) (k : κ) : Bool := (m.get k).isSome

def upsert (k : κ) (v : ν) : List (κ × ν) → List (κ × ν)
  | [] => [(k,v)]
  | (k',v') :: rest => if k' = k then (k,v) :: rest else (k',v') :: upsert k v rest

theorem upsert_keys (k : κ) (v : ν) (entries : List (κ × ν)) :
    (upsert k v entries).map Prod.fst =
      if k ∈ entries.map Prod.fst then entries.map Prod.fst else entries.map Prod.fst ++ [k] := by
  induction entries with
  | nil => simp [upsert]
  | cons head rest ih =>
      obtain ⟨k',v'⟩ := head
      by_cases same : k' = k
      · simp [upsert,same]
      · have other : k ≠ k' := fun equal => same equal.symm
        simp only [upsert,same,if_false,List.map_cons,ih,List.mem_cons,other,false_or]
        split <;> simp

def set (m : OrderedMap κ ν) (k : κ) (v : ν) : OrderedMap κ ν where
  entries := upsert k v m.entries
  distinct := by
    rw [upsert_keys]
    split
    · exact m.distinct
    · rename_i absent
      exact List.nodup_append.mpr ⟨m.distinct,by simp,by
        intro a here b there equal
        rw [List.mem_singleton.mp there] at equal
        exact absent (equal ▸ here)⟩

def filter (m : OrderedMap κ ν) (keep : κ → ν → Bool) : OrderedMap κ ν where
  entries := m.entries.filter (fun entry => keep entry.1 entry.2)
  distinct := m.distinct.sublist (List.filter_sublist.map _)

def delete (m : OrderedMap κ ν) (k : κ) : OrderedMap κ ν := m.filter (fun k' _ => decide (k' ≠ k))

def dropOldest (m : OrderedMap κ ν) (n : Nat) : OrderedMap κ ν where
  entries := m.entries.drop n
  distinct := m.distinct.sublist ((List.drop_sublist n m.entries).map _)

def map (m : OrderedMap κ ν) (f : κ → ν → μ) : OrderedMap κ μ where
  entries := m.entries.map (fun entry => (entry.1,f entry.1 entry.2))
  distinct := by simpa [List.map_map,Function.comp_def] using m.distinct

def ofList (pairs : List (κ × ν)) : OrderedMap κ ν :=
  pairs.foldl (fun m pair => m.set pair.1 pair.2) empty

theorem lookup_past (rest : List (κ × ν)) (w : ν) (other : k ≠ j) :
    ((j,w) :: rest).lookup k = rest.lookup k := by
  have unequal : (k == j) = false := by simpa using other
  simp [List.lookup_cons,unequal]

theorem lookup_upsert (k k' : κ) (v : ν) (entries : List (κ × ν)) :
    (upsert k v entries).lookup k' = if k' = k then some v else entries.lookup k' := by
  induction entries with
  | nil =>
      by_cases same : k' = k
      · subst k'; simp [upsert]
      · simp [upsert,lookup_past,same]
  | cons head rest ih =>
      obtain ⟨j,w⟩ := head
      by_cases here : j = k
      · subst j
        by_cases same : k' = k
        · subst k'; simp [upsert]
        · simp [upsert,lookup_past,same]
      · by_cases same : k' = j
        · subst k'
          simp [upsert,here]
        · simp [upsert,here,lookup_past,same,ih]

@[simp] theorem get_empty (k : κ) : (empty : OrderedMap κ ν).get k = none := rfl

theorem get_set (m : OrderedMap κ ν) (k k' : κ) (v : ν) :
    (m.set k v).get k' = if k' = k then some v else m.get k' := lookup_upsert k k' v m.entries

@[simp] theorem get_set_self (m : OrderedMap κ ν) (k : κ) (v : ν) : (m.set k v).get k = some v := by
  simp [get_set]

theorem get_set_other (m : OrderedMap κ ν) (v : ν) (other : k' ≠ k) : (m.set k v).get k' = m.get k' := by
  simp [get_set,other]

theorem get_exact (m : OrderedMap κ ν) (k : κ) (v : ν) : m.get k = some v ↔ (k,v) ∈ m.entries := by
  have distinct := m.distinct
  unfold get
  revert distinct
  induction m.entries with
  | nil => simp
  | cons head rest ih =>
      intro distinct
      obtain ⟨j,w⟩ := head
      simp only [List.map_cons,List.nodup_cons] at distinct
      by_cases same : k = j
      · subst j
        have absent : (k,v) ∉ rest := fun here => distinct.1 (List.mem_map_of_mem (f:=Prod.fst) here)
        simp [absent,eq_comm]
      · simp [lookup_past,same,ih distinct.2]

theorem ext_get {m n : OrderedMap κ ν} (keys : m.keys = n.keys) (reads : ∀ k, m.get k = n.get k) : m = n := by
  have rows : ∀ l : OrderedMap κ ν,
      l.entries.map (Prod.map id some) = l.keys.map (fun k => (k,l.get k)) := by
    intro l
    rw [OrderedMap.keys,List.map_map]
    apply List.map_congr_left
    intro entry member
    exact Prod.ext rfl ((get_exact l entry.1 entry.2).mpr member).symm
  have injective : Function.Injective (Prod.map id some : κ × ν → κ × Option ν) := by
    intro a b same
    simp only [Prod.map,Prod.mk.injEq,Option.some.injEq,id_eq] at same
    exact Prod.ext same.1 same.2
  apply ext
  apply injective.list_map
  rw [rows,rows,keys]
  simp only [reads]

theorem keys_set (m : OrderedMap κ ν) (v : ν) (present : m.get k = some w) : (m.set k v).keys = m.keys := by
  have member : k ∈ m.entries.map Prod.fst := List.mem_map_of_mem (f:=Prod.fst) ((get_exact m k w).mp present)
  exact (upsert_keys k v m.entries).trans (if_pos member)

theorem set_eq_self {m : OrderedMap κ ν} (present : m.get k = some v) : m.set k v = m := by
  refine ext_get (keys_set m v present) ?_
  intro k'
  rw [get_set]
  split
  · rename_i same
    rw [same,present]
  · rfl

theorem get_filter (m : OrderedMap κ ν) (keep : κ → ν → Bool) (k : κ) :
    (m.filter keep).get k = (m.get k).filter (keep k) := by
  ext v
  simp only [Option.filter_eq_some_iff,get_exact,filter,List.mem_filter]

theorem get_map (m : OrderedMap κ ν) (f : κ → ν → μ) (k : κ) : (m.map f).get k = (m.get k).map (f k) := by
  ext v
  rw [get_exact,Option.map_eq_some_iff]
  simp only [get_exact,map,List.mem_map,Prod.mk.injEq,Prod.exists]
  constructor
  · rintro ⟨k',v',member,rfl,rfl⟩; exact ⟨v',member,rfl⟩
  · rintro ⟨v',member,rfl⟩; exact ⟨k,v',member,rfl,rfl⟩

theorem map_congr {m : OrderedMap κ ν} {f g : κ → ν → μ} (same : ∀ k v, m.get k = some v → f k v = g k v) :
    m.map f = m.map g := by
  apply ext
  apply List.map_congr_left
  intro entry member
  rw [same entry.1 entry.2 ((get_exact m _ _).mpr member)]

omit [DecidableEq κ] in
theorem map_map (m : OrderedMap κ ν) (f : κ → ν → μ) (g : κ → μ → ξ) :
    (m.map f).map g = m.map (fun k v => g k (f k v)) := by
  apply ext
  simp [map]

omit [DecidableEq κ] in
theorem keys_map (m : OrderedMap κ ν) (f : κ → ν → μ) : (m.map f).keys = m.keys := by
  simp [keys,map,Function.comp_def]

theorem map_set (m : OrderedMap κ ν) (f : κ → ν → μ) (k : κ) (v : ν) :
    (m.set k v).map f = (m.map f).set k (f k v) := by
  apply ext
  simp only [map,set]
  induction m.entries with
  | nil => rfl
  | cons head rest ih =>
      by_cases same : head.1 = k
      · simp [upsert,same]
      · simp [upsert,same,ih]

theorem map_delete (m : OrderedMap κ ν) (f : κ → ν → μ) (k : κ) : (m.delete k).map f = (m.map f).delete k := by
  apply ext
  simp [map,delete,filter,List.filter_map,Function.comp_def]

theorem get_delete (m : OrderedMap κ ν) (k k' : κ) : (m.delete k).get k' = if k' = k then none else m.get k' := by
  rw [delete,get_filter]
  by_cases same : k' = k
  · subst k'; simp
  · cases m.get k' <;> simp [same]

theorem get_filter_some {m : OrderedMap κ ν} {keep : κ → ν → Bool}
    (found : (m.filter keep).get k = some v) : m.get k = some v := by
  rw [get_filter] at found
  exact (Option.filter_eq_some_iff.mp found).1

theorem get_dropOldest_some {m : OrderedMap κ ν} {n : Nat}
    (found : (m.dropOldest n).get k = some v) : m.get k = some v := by
  rw [get_exact] at found ⊢
  exact List.mem_of_mem_drop found

theorem mem_values (m : OrderedMap κ ν) (v : ν) : v ∈ m.values ↔ ∃ k, m.get k = some v := by
  simp only [values,List.mem_map,get_exact]
  constructor
  · rintro ⟨entry,member,rfl⟩; exact ⟨entry.1,member⟩
  · rintro ⟨k,member⟩; exact ⟨(k,v),member,rfl⟩

theorem mem_values_set {m : OrderedMap κ ν} (found : v' ∈ (m.set k v).values) : v' = v ∨ v' ∈ m.values := by
  obtain ⟨k',present⟩ := (mem_values _ _).mp found
  rw [get_set] at present
  split at present
  · exact Or.inl (Option.some.inj present).symm
  · exact Or.inr ((mem_values _ _).mpr ⟨k',present⟩)

theorem mem_values_set_self (m : OrderedMap κ ν) (k : κ) (v : ν) : v ∈ (m.set k v).values :=
  (mem_values _ _).mpr ⟨k,get_set_self m k v⟩

omit [DecidableEq κ] in
theorem values_map (m : OrderedMap κ ν) (f : ν → μ) : (m.map (fun _ => f)).values = m.values.map f := by
  simp [values,map,Function.comp_def]

omit [DecidableEq κ] in
theorem map_eq_self (m : OrderedMap κ ν) (f : ν → ν) : m.map (fun _ => f) = m ↔ ∀ v ∈ m.values, f v = v := by
  have entrywise : m.map (fun _ => f) = m ↔ ∀ entry ∈ m.entries, (entry.1,f entry.2) = entry := by
    constructor
    · intro same
      have entries : m.entries.map (fun entry => (entry.1,f entry.2)) = m.entries.map id := by
        rw [List.map_id]; exact congrArg OrderedMap.entries same
      exact List.map_inj_left.mp entries
    · intro same
      apply ext
      rw [← List.map_id m.entries]
      exact List.map_inj_left.mpr same
  rw [entrywise]
  simp only [values,List.forall_mem_map,Prod.ext_iff,true_and]

omit [DecidableEq κ] in
theorem values_filter (m : OrderedMap κ ν) (keep : ν → Bool) :
    (m.filter (fun _ => keep)).values = m.values.filter keep := by
  simp [values,filter,List.filter_map,Function.comp_def]

omit [DecidableEq κ] in
theorem size_values (m : OrderedMap κ ν) : m.values.length = m.size := by simp [values,size]

theorem upsert_absent (k : κ) (v : ν) (entries : List (κ × ν)) (absent : k ∉ entries.map Prod.fst) :
    upsert k v entries = entries ++ [(k,v)] := by
  induction entries with
  | nil => rfl
  | cons head rest ih =>
      simp only [List.map_cons,List.mem_cons,not_or] at absent
      have other : head.1 ≠ k := fun equal => absent.1 equal.symm
      simp [upsert,other,ih absent.2]

theorem foldl_set_entries (pairs : List (κ × ν)) (m : OrderedMap κ ν)
    (distinct : ((m.entries ++ pairs).map Prod.fst).Nodup) :
    (pairs.foldl (fun m pair => m.set pair.1 pair.2) m).entries = m.entries ++ pairs := by
  induction pairs generalizing m with
  | nil => simp
  | cons pair rest ih =>
      have absent : pair.1 ∉ m.entries.map Prod.fst := by
        intro here
        rw [List.map_append,List.map_cons] at distinct
        exact (List.nodup_append.mp distinct).2.2 pair.1 here pair.1 (by simp) rfl
      have grown : (m.set pair.1 pair.2).entries = m.entries ++ [pair] := upsert_absent _ _ _ absent
      rw [List.foldl_cons,ih _ (by rw [grown]; simpa using distinct),grown]
      simp

theorem ofList_entries (m : OrderedMap κ ν) : ofList m.entries = m := by
  apply ext
  rw [ofList,foldl_set_entries _ _ (by simpa [empty] using m.distinct)]
  rfl

theorem mem_keys (m : OrderedMap κ ν) (k : κ) : k ∈ m.keys ↔ ∃ v, m.get k = some v := by
  constructor
  · intro member
    obtain ⟨entry,here,rfl⟩ := List.mem_map.mp member
    exact ⟨entry.2,(get_exact m entry.1 entry.2).mpr here⟩
  · rintro ⟨v,found⟩
    exact List.mem_map_of_mem (f:=Prod.fst) ((get_exact m k v).mp found)

theorem mem_keys_set (m : OrderedMap κ ν) (k k' : κ) (v : ν) : k' ∈ (m.set k v).keys ↔ k' = k ∨ k' ∈ m.keys := by
  simp only [mem_keys,get_set]
  by_cases same : k' = k
  · simp [same]
  · simp [same]

theorem sum_values_set (m : OrderedMap κ ν) (f : ν → Nat) (k : κ) (v : ν) :
    ((m.set k v).values.map f).sum + ((m.get k).map f).getD 0 = (m.values.map f).sum + f v := by
  obtain ⟨entries,distinct⟩ := m
  simp only [set,values,get,List.map_map]
  clear distinct
  induction entries with
  | nil => simp [upsert]
  | cons entry rest ih =>
      obtain ⟨k',w⟩ := entry
      by_cases same : k' = k
      · subst k'
        simp [upsert]
        omega
      · have other : k ≠ k' := fun equal => same equal.symm
        simp only [upsert,same,if_false,List.map_cons,List.sum_cons,lookup_past rest w other]
        omega

theorem has_of_get {m : OrderedMap κ ν} (found : m.get k = some v) : m.has k = true := by rw [has,found]; rfl

theorem has_of_get_none {m : OrderedMap κ ν} (absent : m.get k = none) : m.has k = false := by rw [has,absent]; rfl

theorem has_iff (m : OrderedMap κ ν) (k : κ) : m.has k = true ↔ k ∈ m.keys := by
  rw [mem_keys,has,Option.isSome_iff_exists]

omit [DecidableEq κ] in
theorem size_keys (m : OrderedMap κ ν) : m.keys.length = m.size := by simp [keys,size]

theorem has_set (m : OrderedMap κ ν) (k k' : κ) (v : ν) : (m.set k v).has k' = (decide (k' = k) || m.has k') := by
  rw [has,get_set,has]
  by_cases same : k' = k
  · simp [same]
  · simp [same]

theorem has_delete (m : OrderedMap κ ν) (k k' : κ) : (m.delete k).has k' = (decide (k' ≠ k) && m.has k') := by
  rw [has,get_delete,has]
  by_cases same : k' = k
  · simp [same]
  · simp [same]

theorem size_set (m : OrderedMap κ ν) (k : κ) (v : ν) : (m.set k v).size = if m.has k then m.size else m.size + 1 := by
  rw [← size_keys,keys,set,upsert_keys,← size_keys]
  change (if k ∈ m.keys then m.keys else m.keys ++ [k]).length = _
  by_cases present : k ∈ m.keys
  · rw [if_pos present,if_pos ((has_iff m k).mpr present)]
  · rw [if_neg present,if_neg (fun here => present ((has_iff m k).mp here)),List.length_append]
    rfl

theorem foldl_delete (m : OrderedMap κ ν) (drop : κ → ν → Bool) :
    ((m.entries.filter (fun entry => drop entry.1 entry.2)).map Prod.fst).foldl delete m =
      m.filter (fun k v => !drop k v) := by
  have deleted : ∀ (removed : List κ) (n : OrderedMap κ ν),
      (removed.foldl delete n).entries = n.entries.filter (fun entry => decide (entry.1 ∉ removed)) := by
    intro removed
    induction removed with
    | nil => intro n; simp
    | cons k rest ih =>
        intro n
        rw [List.foldl_cons,ih,delete,filter,List.filter_filter]
        apply List.filter_congr
        intro entry _
        simp [Bool.and_comm]
  apply ext
  rw [deleted,filter]
  apply List.filter_congr
  intro entry member
  have selected : entry.1 ∈ (m.entries.filter (fun entry => drop entry.1 entry.2)).map Prod.fst ↔
      drop entry.1 entry.2 = true := by
    constructor
    · intro here
      obtain ⟨other,chosen,same⟩ := List.mem_map.mp here
      have both := List.mem_filter.mp chosen
      have found := (get_exact m other.1 other.2).mpr both.1
      rw [same,(get_exact m entry.1 entry.2).mpr member] at found
      rw [← same,Option.some.inj found]
      exact both.2
    · intro chosen
      exact List.mem_map_of_mem (List.mem_filter.mpr ⟨member,chosen⟩)
  cases dropped : drop entry.1 entry.2 <;> simp [selected,dropped]

omit [DecidableEq κ] in
theorem size_filter (m : OrderedMap κ ν) (drop : κ → ν → Bool) :
    (m.filter (fun k v => !drop k v)).size + (m.entries.filter (fun entry => drop entry.1 entry.2)).length = m.size := by
  have parts := List.length_eq_length_filter_add (l:=m.entries) (fun entry => drop entry.1 entry.2)
  rw [size,size,filter,parts,Nat.add_comm]

theorem size_delete (m : OrderedMap κ ν) (k : κ) : (m.delete k).size + (if m.has k then 1 else 0) = m.size := by
  have parts := size_filter m (fun k' _ => decide (k' = k))
  have chosen : (m.entries.filter (fun entry => decide (entry.1 = k))).length = if m.has k then 1 else 0 := by
    have counted : (m.entries.filter (fun entry => decide (entry.1 = k))).length = m.keys.count k := by
      rw [keys,List.count,List.countP_map,List.countP_eq_length_filter]
      rfl
    rw [counted]
    by_cases present : k ∈ m.keys
    · rw [List.count_eq_one_of_mem (show m.keys.Nodup from m.distinct) present,if_pos ((has_iff m k).mpr present)]
    · rw [List.count_eq_zero_of_not_mem present,if_neg (fun here => present ((has_iff m k).mp here))]
  rw [chosen] at parts
  rw [← parts,delete]
  congr 3
  funext k' _
  simp

theorem get_foldl_set (m : OrderedMap κ ν) (f : κ → ν) (keys : List κ) (k : κ) :
    (keys.foldl (fun m key => m.set key (f key)) m).get k = if k ∈ keys then some (f k) else m.get k := by
  induction keys generalizing m with
  | nil => simp
  | cons key rest ih =>
      rw [List.foldl_cons,ih,get_set]
      by_cases later : k ∈ rest
      · simp [later]
      · by_cases same : k = key
        · simp [same]
        · simp [same,later]

theorem get_foldl_set_all (m : OrderedMap κ ν) (v : ν) (keys : List κ) (k : κ) :
    (keys.foldl (fun m key => m.set key v) m).get k = if k ∈ keys then some v else m.get k :=
  get_foldl_set m (fun _ => v) keys k

theorem keys_foldl_set (m : OrderedMap κ ν) (f : κ → ν) (keys : List κ) :
    (keys.foldl (fun m key => m.set key (f key)) m).keys =
      keys.foldl (fun before key => if key ∈ before then before else before ++ [key]) m.keys := by
  induction keys generalizing m with
  | nil => rfl
  | cons key rest ih =>
      have written : (m.set key (f key)).keys = if key ∈ m.keys then m.keys else m.keys ++ [key] := upsert_keys ..
      rw [List.foldl_cons,ih,written,List.foldl_cons]

theorem get_assign (m updates : OrderedMap κ ν) (k : κ) :
    (updates.entries.foldl (fun m entry => m.set entry.1 entry.2) m).get k = (updates.get k).or (m.get k) := by
  obtain ⟨entries,distinct⟩ := updates
  simp only [get]
  change _ = (entries.lookup k).or (m.get k)
  rw [← get]
  induction entries generalizing m with
  | nil => rfl
  | cons entry rest ih =>
      obtain ⟨key,v⟩ := entry
      rw [List.map_cons,List.nodup_cons] at distinct
      rw [List.foldl_cons,ih _ distinct.2,get_set]
      by_cases same : k = key
      · subst key
        have absent : rest.lookup k = none := by
          rw [List.lookup_eq_none_iff]
          intro other member
          simp only [bne_iff_ne,ne_eq]
          rintro rfl
          exact distinct.1 (List.mem_map.mpr ⟨other,member,rfl⟩)
        simp [absent]
      · rw [if_neg same,lookup_past rest v same]

end OrderedMap
end PhantomFlow.Library
