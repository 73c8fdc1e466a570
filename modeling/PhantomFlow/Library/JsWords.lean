import Mathlib.Algebra.Order.Ring.Int
import PhantomFlow.Library.JsInt32

namespace PhantomFlow.Library.JsInt32

def word (x : ℤ) : BitVec 32 := BitVec.ofInt 32 x

theorem toUint32_word (x : ℤ) : toUint32 x = (word x).toNat := by
  rw [word,BitVec.toNat_ofInt]
  rfl

theorem toInt32_word (x : ℤ) : toInt32 x = (word x).toInt := by
  rw [word,BitVec.toInt_ofInt]
  rfl

@[simp] theorem word_toInt (w : BitVec 32) : word w.toInt = w := BitVec.ofInt_toInt
@[simp] theorem word_toNat (w : BitVec 32) : word (w.toNat : ℤ) = w := by
  rw [word,BitVec.ofInt_natCast,BitVec.ofNat_toNat,BitVec.setWidth_eq]

theorem word_natCast (n : ℕ) : word (n : ℤ) = BitVec.ofNat 32 n := BitVec.ofInt_natCast 32 n

theorem bitXor_word (x y : ℤ) : bitXor x y = (word x ^^^ word y).toInt := by
  rw [bitXor,toInt32_word,toUint32_word,toUint32_word,word_natCast,← BitVec.toNat_xor,BitVec.ofNat_toNat,
    BitVec.setWidth_eq]

theorem bitOr_word (x y : ℤ) : bitOr x y = (word x ||| word y).toInt := by
  rw [bitOr,toInt32_word,toUint32_word,toUint32_word,word_natCast,← BitVec.toNat_or,BitVec.ofNat_toNat,
    BitVec.setWidth_eq]

theorem bitAnd_word (x y : ℤ) : bitAnd x y = (word x &&& word y).toInt := by
  rw [bitAnd,toInt32_word,toUint32_word,toUint32_word,word_natCast,← BitVec.toNat_and,BitVec.ofNat_toNat,
    BitVec.setWidth_eq]

theorem shl_word (x : ℤ) (n : ℕ) : shl x n = (word x <<< n).toInt := by
  rw [shl,toInt32_word,toUint32_word,word_natCast]
  congr 1

theorem ushr_word (x : ℤ) (n : ℕ) : ushr x n = (word x >>> n).toNat := by
  rw [ushr,toUint32_word,BitVec.toNat_ushiftRight]

theorem mask_word (x : ℤ) : ushr (bitAnd x 0xffffffff) 0 = (word x).toNat := by
  have ones : word 0xffffffff = BitVec.allOnes 32 := by decide
  rw [bitAnd_word,ushr_word,word_toInt,ones,BitVec.and_allOnes,BitVec.ushiftRight_zero]

-- At most 53 significant bits, so that the double is the number itself.
def Representable (n : ℕ) : Prop := 2 ^ (n.log2 + 1 - 53) ∣ n
instance (n : ℕ) : Decidable (Representable n) := inferInstanceAs (Decidable (_ ∣ _))

theorem roundNat_bounds (n : ℕ) :
    n ≤ roundNat n + 2 ^ (n.log2 + 1 - 53) ∧ roundNat n ≤ n + 2 ^ (n.log2 + 1 - 53) := by
  have split := Nat.div_add_mod n (2 ^ (n.log2 + 1 - 53))
  have rest := Nat.mod_lt n (Nat.two_pow_pos (n.log2 + 1 - 53))
  rw [Nat.mul_comm] at split
  unfold roundNat
  dsimp only
  split
  · rw [Nat.add_one_mul]
    omega
  · omega

theorem dvd_roundNat (n : ℕ) : 2 ^ (n.log2 + 1 - 53) ∣ roundNat n := by
  unfold roundNat
  dsimp only
  split
  · exact Nat.dvd_mul_left _ _
  · exact Nat.dvd_mul_left _ _

theorem roundNat_eq_iff (n : ℕ) : roundNat n = n ↔ Representable n := by
  constructor
  · intro same
    have multiple := dvd_roundNat n
    rwa [same] at multiple
  · intro exactly
    have none' : n % 2 ^ (n.log2 + 1 - 53) = 0 := Nat.mod_eq_zero_of_dvd exactly
    have unit := Nat.two_pow_pos (n.log2 + 1 - 53)
    unfold roundNat
    dsimp only
    rw [none',if_neg (by omega)]
    exact Nat.div_mul_cancel exactly

theorem representable_small (small : n < 2 ^ 53) : Representable n := by
  have short : n.log2 + 1 - 53 = 0 := by
    rcases Nat.eq_zero_or_pos n with zero | positive
    · rw [zero]
      decide
    · have below := (Nat.log2_lt (Nat.ne_of_gt positive)).mpr small
      omega
  rw [Representable,short]
  exact Nat.one_dvd n

theorem word_eq_iff (x y : ℤ) : word x = word y ↔ (4294967296 : ℤ) ∣ x - y := by
  rw [← BitVec.toNat_inj,word,word,BitVec.toNat_ofInt,BitVec.toNat_ofInt]
  omega

-- Below 2^64 a rounding is far smaller than the residue class, so that a product
-- keeps its word only where it is not rounded at all.
theorem word_times_iff (x y : ℤ) (bound : (x * y).natAbs < 2 ^ 64) :
    word (times x y) = word x * word y ↔ Representable (x * y).natAbs := by
  have product : word x * word y = word (x * y) := (BitVec.ofInt_mul x y).symm
  have signed : (x * y).sign * ((x * y).natAbs : ℤ) = x * y := Int.sign_mul_natAbs (x * y)
  rw [product,← roundNat_eq_iff,times]
  constructor
  · intro same
    have multiple := (word_eq_iff _ _).mp same
    have near := roundNat_bounds (x * y).natAbs
    have unit : 2 ^ ((x * y).natAbs.log2 + 1 - 53) ≤ 2 ^ 11 := by
      apply Nat.pow_le_pow_right Nat.two_pos
      rcases Nat.eq_zero_or_pos (x * y).natAbs with zero | positive
      · rw [zero]
        decide
      · have short := (Nat.log2_lt (Nat.ne_of_gt positive)).mpr bound
        omega
    rcases Int.lt_trichotomy (x * y) 0 with negative | zero | positive
    · rw [Int.sign_eq_neg_one_of_neg negative] at multiple signed
      omega
    · rw [zero]
      decide
    · rw [Int.sign_eq_one_of_pos positive] at multiple signed
      omega
  · intro exactly
    rw [exactly,signed]

end PhantomFlow.Library.JsInt32
