import Mathlib.Data.Nat.Bitwise

namespace PhantomFlow.Library.WideWords
variable {w : ℕ}

-- Numbers of any size that are meant as words of `w` bits: the word a number stands
-- for, and what the operations make of the bits above it.
theorem masked (n : ℕ) : n &&& (2 ^ w - 1) = (BitVec.ofNat w n).toNat := by
  rw [Nat.and_two_pow_sub_one_eq_mod,BitVec.toNat_ofNat]

theorem word_of_toNat (x : BitVec w) : BitVec.ofNat w x.toNat = x := by
  rw [BitVec.ofNat_toNat,BitVec.setWidth_eq]

theorem ofNat_masked (n : ℕ) : BitVec.ofNat w (n &&& (2 ^ w - 1)) = BitVec.ofNat w n := by
  rw [masked,word_of_toNat]

theorem xor_two_pow_mul (a : ℕ) (below : b < 2 ^ i) : 2 ^ i * a ^^^ b = 2 ^ i * a + b := by
  apply Nat.eq_of_testBit_eq
  intro j
  rw [Nat.testBit_xor,Nat.testBit_two_pow_mul,Nat.testBit_two_pow_mul_add a below]
  by_cases low : j < i
  · simp [low,Nat.not_le.mpr low]
  · have above : b < 2 ^ j := below.trans_le (Nat.pow_le_pow_right Nat.two_pos (Nat.le_of_not_lt low))
    simp [low,Nat.testBit_lt_two_pow above,Nat.le_of_not_lt low]

theorem ofNat_shiftRight (n : ℕ) (within : s ≤ w) :
    BitVec.ofNat w (n >>> s) = BitVec.ofNat w n >>> s ||| BitVec.ofNat w (n / 2 ^ w) <<< (w - s) := by
  apply BitVec.eq_of_getLsbD_eq
  intro i inside
  rw [BitVec.getLsbD_or,BitVec.getLsbD_ushiftRight,BitVec.getLsbD_shiftLeft,BitVec.getLsbD_ofNat,BitVec.getLsbD_ofNat,
    BitVec.getLsbD_ofNat,Nat.testBit_shiftRight,Nat.testBit_div_two_pow]
  by_cases low : s + i < w
  · have below : i < w - s := by omega
    simp [inside,low,below]
  · have above : ¬ i < w - s := by omega
    have place : i - (w - s) + w = s + i := by omega
    have last : i - (w - s) < w := by omega
    simp [inside,low,above,place,last]

theorem ofNat_rotated (n : ℕ) (within : s < w) :
    BitVec.ofNat w ((n <<< s ||| n >>> (w - s)) &&& (2 ^ w - 1)) =
      (BitVec.ofNat w n).rotateLeft s ||| BitVec.ofNat w (n / 2 ^ w) <<< s := by
  have back : w - (w - s) = s := by omega
  have left : BitVec.ofNat w (n <<< s) = BitVec.ofNat w n <<< s := by
    apply BitVec.eq_of_toNat_eq
    rw [BitVec.toNat_ofNat,BitVec.toNat_shiftLeft,BitVec.toNat_ofNat,Nat.shiftLeft_eq,Nat.shiftLeft_eq,Nat.mod_mul_mod]
  rw [ofNat_masked,BitVec.ofNat_or,left,ofNat_shiftRight n (by omega),back,BitVec.rotateLeft_def,
    Nat.mod_eq_of_lt within,BitVec.or_assoc]

theorem rotated_carry_iff (x : BitVec w) (within : s < w) :
    x.rotateLeft s ||| 1#w <<< s = x.rotateLeft s ↔ x.getLsbD 0 = true := by
  have lowest : (x.rotateLeft s).getLsbD s = x.getLsbD 0 := by
    rw [BitVec.getLsbD_rotateLeft_of_le within]
    simp [within]
  constructor
  · intro same
    rw [← lowest,← same]
    simp [within]
  · intro set
    apply BitVec.eq_of_getLsbD_eq
    intro i inside
    rw [BitVec.getLsbD_or]
    by_cases here : i = s
    · rw [here,lowest,set,Bool.true_or]
    · have beside : (1#w <<< s).getLsbD i = false := by
        rw [BitVec.getLsbD_shiftLeft,BitVec.getLsbD_one]
        simp
        omega
      rw [beside,Bool.or_false]

theorem shifted_carry_iff (x : BitVec w) (carry : ℕ) (within : s ≤ w) :
    x >>> s ||| BitVec.ofNat w carry <<< (w - s) = x >>> s ↔ carry % 2 ^ s = 0 := by
  have parts : 2 ^ w = 2 ^ (w - s) * 2 ^ s := by
    rw [← Nat.pow_add]
    congr 1
    omega
  have low : x.toNat >>> s < 2 ^ (w - s) := by
    rw [Nat.shiftRight_eq_div_pow]
    apply Nat.div_lt_of_lt_mul
    rw [Nat.mul_comm,← parts]
    exact x.isLt
  have high : (BitVec.ofNat w carry <<< (w - s)).toNat = 2 ^ (w - s) * (carry % 2 ^ s) := by
    rw [BitVec.toNat_shiftLeft,BitVec.toNat_ofNat,Nat.shiftLeft_eq,Nat.mod_mul_mod,Nat.mul_comm,parts,Nat.mul_mod_mul_left]
  rw [← BitVec.toNat_inj,BitVec.toNat_or,BitVec.toNat_ushiftRight,high,Nat.or_comm,← Nat.two_pow_add_eq_or_of_lt low]
  constructor
  · intro same
    have nothing : 2 ^ (w - s) * (carry % 2 ^ s) = 0 := by omega
    exact (Nat.mul_eq_zero.mp nothing).resolve_left (Nat.ne_of_gt (Nat.two_pow_pos _))
  · intro nothing
    rw [nothing,Nat.mul_zero,Nat.zero_add]

-- Neither half of a finalizer loses anything: shifts by half a word or more, and
-- odd multipliers, which have an inverse.
theorem xorShift_injective {x y : BitVec w} (half : w ≤ s + s) (same : x ^^^ x >>> s = y ^^^ y >>> s) : x = y := by
  have undo (z : BitVec w) : (z ^^^ z >>> s) ^^^ (z ^^^ z >>> s) >>> s = z := by
    rw [BitVec.ushiftRight_xor_distrib,← BitVec.shiftRight_add,BitVec.ushiftRight_eq_zero half,BitVec.xor_zero,
      BitVec.xor_assoc,BitVec.xor_self,BitVec.xor_zero]
  rw [← undo x,same,undo]

theorem mul_injective {x y multiplier inverse : BitVec w} (unit : multiplier * inverse = 1)
    (same : x * multiplier = y * multiplier) : x = y := by
  have undo (z : BitVec w) : z * multiplier * inverse = z := by
    rw [BitVec.mul_assoc,unit]
    exact BitVec.mul_one z
  rw [← undo x,same,undo]

end PhantomFlow.Library.WideWords
