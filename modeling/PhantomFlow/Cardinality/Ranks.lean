import PhantomFlow.Cardinality.HashFunctions

namespace PhantomFlow.Cardinality

def digits (width field : ℕ) : List Bool := (List.range width).reverse.map field.testBit

def leadingZeros (width field : ℕ) : ℕ := ((digits width field).takeWhile (fun digit => !digit)).length

theorem digits_succ (width field : ℕ) : digits (width + 1) field = field.testBit width :: digits width field := by
  unfold digits
  rw [List.range_succ,List.reverse_append]
  rfl

theorem length_digits (width field : ℕ) : (digits width field).length = width := by simp [digits]

theorem digits_congr (same : ∀ i < width, field.testBit i = other.testBit i) : digits width field = digits width other := by
  apply List.map_congr_left
  intro i member
  exact same i (List.mem_range.mp (List.mem_reverse.mp member))

theorem leadingZeros_le (width field : ℕ) : leadingZeros width field ≤ width := by
  have shorter := (List.takeWhile_prefix (fun digit => !digit) (l:=digits width field)).length_le
  rwa [length_digits] at shorter

theorem leadingZeros_zero (width : ℕ) : leadingZeros width 0 = width := by
  induction width with
  | zero => rfl
  | succ width ih =>
      unfold leadingZeros at ih ⊢
      rw [digits_succ,List.takeWhile_cons_of_pos (by simp),List.length_cons,ih]

theorem and_mask_eq_zero (value bit : ℕ) : value &&& (1 <<< bit) = 0 ↔ value.testBit bit = false := by
  rw [Nat.one_shiftLeft,Nat.and_two_pow]
  cases value.testBit bit with
  | false => simp
  | true => simp

theorem countLeadingZeros_eq (value bits : ℕ) : countLeadingZeros value bits = leadingZeros bits value := by
  induction bits with
  | zero => rfl
  | succ bits ih =>
      unfold countLeadingZeros leadingZeros
      rw [digits_succ]
      cases digit : value.testBit bits with
      | false =>
          rw [if_pos ((and_mask_eq_zero value bits).mpr digit),ih]
          rfl
      | true =>
          apply if_neg
          rw [and_mask_eq_zero,digit]
          decide

theorem countLeadingZeros_congr (same : ∀ i < bits, value.testBit i = other.testBit i) :
    countLeadingZeros value bits = countLeadingZeros other bits := by
  rw [countLeadingZeros_eq,countLeadingZeros_eq,leadingZeros,digits_congr same]
  rfl

def countStep (value maxBits : ℕ) (state : ℕ × ℕ) : Option (ℕ × ℕ) :=
  if value &&& state.2 = 0 ∧ state.1 < maxBits then some (state.1 + 1,state.2 >>> 1) else none

def countStart (maxBits : ℕ) : ℕ × ℕ := (0,1 <<< (maxBits - 1))

inductive Counts (value maxBits : ℕ) : ℕ × ℕ → ℕ → Prop where
  | done : countStep value maxBits state = none → Counts value maxBits state state.1
  | turn : countStep value maxBits state = some next → Counts value maxBits next count → Counts value maxBits state count

theorem Counts.unique (first : Counts value maxBits state count) (second : Counts value maxBits state other) :
    count = other := by
  induction first with
  | done stopped =>
      cases second with
      | done _ => rfl
      | turn stepped _ => rw [stopped] at stepped; cases stepped
  | turn stepped _ ih =>
      cases second with
      | done stopped => rw [stepped] at stopped; cases stopped
      | turn again rest =>
          rw [stepped] at again
          cases Option.some.inj again
          exact ih rest

-- With `bits` of them left the mask stands at bit `bits - 1`, and at none of them in
-- the end.
theorem counts_from (value maxBits : ℕ) : ∀ bits count, count + bits = maxBits →
    Counts value maxBits (count,(1 <<< bits) >>> 1) (count + countLeadingZeros value bits) := by
  intro bits
  induction bits with
  | zero =>
      intro count total
      apply Counts.done
      exact if_neg (fun both => absurd both.2 (by omega))
  | succ bits ih =>
      intro count total
      have mask : (1 <<< (bits + 1)) >>> 1 = 1 <<< bits := by
        rw [Nat.shiftLeft_succ,Nat.shiftRight_one]
        omega
      rw [mask]
      unfold countLeadingZeros
      by_cases zero : value &&& (1 <<< bits) = 0
      · have stepped : countStep value maxBits (count,1 <<< bits) = some (count + 1,(1 <<< bits) >>> 1) :=
          if_pos ⟨zero,by omega⟩
        have rest := ih (count + 1) (by omega)
        rw [if_pos zero,Nat.add_comm _ 1,← Nat.add_assoc]
        exact Counts.turn stepped rest
      · rw [if_neg zero]
        exact Counts.done (if_neg (fun both => zero both.1))

theorem counts_iff (value : ℕ) (positive : 0 < maxBits) (count : ℕ) :
    Counts value maxBits (countStart maxBits) count ↔ count = countLeadingZeros value maxBits := by
  have start : countStart maxBits = (0,(1 <<< maxBits) >>> 1) := by
    obtain ⟨bits,rfl⟩ := Nat.exists_eq_succ_of_ne_zero positive.ne'
    unfold countStart
    rw [Nat.succ_sub_one,Nat.succ_eq_add_one,Nat.shiftLeft_succ,Nat.shiftRight_one]
    congr 1
    omega
  have ends := counts_from value maxBits maxBits 0 (Nat.zero_add maxBits)
  rw [← start,Nat.zero_add] at ends
  constructor
  · intro counted
    exact counted.unique ends
  · intro same
    rw [same]
    exact ends

theorem extractBucket_eq (hash precision : ℕ) : extractBucket hash precision = hash % 2 ^ precision := by
  rw [extractBucket,Nat.one_shiftLeft,Nat.and_two_pow_sub_one_eq_mod]

def valueField (hash precision : ℕ) : ℕ := hash % 2 ^ 64 / 2 ^ precision

theorem testBit_valueField (below : i < 64 - precision) (hash : ℕ) :
    (extractValue hash precision).testBit i = (valueField hash precision).testBit i := by
  unfold extractValue valueField
  rw [← Nat.shiftRight_eq_div_pow,Nat.testBit_shiftRight,Nat.testBit_shiftRight,Nat.testBit_mod_two_pow]
  simp only [show precision + i < 64 by omega,decide_true,Bool.true_and]

-- The shortcuts for a zero value give what the scan gives.
theorem countLeadingZeros_zero (bits : ℕ) : countLeadingZeros 0 bits = bits := by
  rw [countLeadingZeros_eq,leadingZeros_zero]

theorem getLeadingZeroCount_eq (hash precision : ℕ) :
    getLeadingZeroCount hash precision = 1 + leadingZeros (64 - precision) (valueField hash precision) := by
  have scan : countLeadingZeros (extractValue hash precision) (64 - precision) =
      leadingZeros (64 - precision) (valueField hash precision) :=
    (countLeadingZeros_congr (fun i below => testBit_valueField below hash)).trans (countLeadingZeros_eq _ _)
  unfold getLeadingZeroCount
  dsimp only
  rw [← scan,Nat.add_comm 1]
  split
  · rename_i zero
    rw [zero,countLeadingZeros_zero]
  · rfl

structure RankLaw (hash precision : ℕ) : Prop where
  bucket : extractBucket hash precision = hash % 2 ^ precision
  bucketBelow : extractBucket hash precision < 2 ^ precision
  bucketModulo : extractBucket hash precision = extractBucket (hash % 2 ^ 64) precision
  rankModulo : getLeadingZeroCount hash precision = getLeadingZeroCount (hash % 2 ^ 64) precision
  rank : getLeadingZeroCount hash precision = 1 + leadingZeros (64 - precision) (hash % 2 ^ 64 / 2 ^ precision)
  emptyField : hash % 2 ^ 64 / 2 ^ precision = 0 → getLeadingZeroCount hash precision = 65 - precision
  range : 1 ≤ getLeadingZeroCount hash precision ∧ getLeadingZeroCount hash precision ≤ 65 - precision
  ends : ∀ count, Counts (extractValue hash precision) (64 - precision) (countStart (64 - precision)) count ↔
    count = countLeadingZeros (extractValue hash precision) (64 - precision)

theorem rank_law (hash precision : ℕ) (least : 4 ≤ precision) (most : precision ≤ 16) : RankLaw hash precision := by
  have rank := getLeadingZeroCount_eq hash precision
  have bound := leadingZeros_le (64 - precision) (valueField hash precision)
  refine ⟨extractBucket_eq hash precision,extractBucket_lt hash precision,?_,?_,rank,?_,?_,?_⟩
  · rw [extractBucket_eq,extractBucket_eq,Nat.mod_mod_of_dvd _ (Nat.pow_dvd_pow 2 (by omega))]
  · rw [rank,getLeadingZeroCount_eq,valueField,valueField,Nat.mod_mod]
  · intro empty
    rw [rank,valueField,empty,leadingZeros_zero]
    omega
  · omega
  · exact counts_iff _ (by omega)

theorem rank_law_wide : 4 ≤ 14 ∧ RankLaw (2 ^ 64 + 5) 14 := ⟨by decide,rank_law (2 ^ 64 + 5) 14 (by decide) (by decide)⟩

end PhantomFlow.Cardinality
