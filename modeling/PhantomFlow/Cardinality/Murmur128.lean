import Mathlib.Tactic.Ring
import PhantomFlow.Library.WideWords
import PhantomFlow.Cardinality.HashFunctions

namespace PhantomFlow.Cardinality.MurmurHash3_64
open Library.WideWords

-- MurmurHash3_x64_128 as published, on words, as far as its first word.
namespace Reference

def c1 : BitVec 64 := 0x87c37b91114253d5
def c2 : BitVec 64 := 0x4cf5ad432745937f

def littleEndian (bytes : List UInt8) : BitVec 64 :=
  BitVec.ofNat 64 (bytes.foldr (fun byte value => byte.toNat + 256 * value) 0)

def mix1 (k : BitVec 64) : BitVec 64 := (k * c1).rotateLeft 31 * c2
def mix2 (k : BitVec 64) : BitVec 64 := (k * c2).rotateLeft 33 * c1

def blockAt (data : List UInt8) (i : ℕ) : BitVec 64 × BitVec 64 :=
  (littleEndian ((data.drop (i * 16)).take 8),littleEndian ((data.drop (i * 16 + 8)).take 8))

def tailOf (data : List UInt8) : List UInt8 := data.drop (data.length / 16 * 16)

def rotations (h k : BitVec 64 × BitVec 64) : BitVec 64 × BitVec 64 :=
  ((h.1 ^^^ mix1 k.1).rotateLeft 27,(h.2 ^^^ mix2 k.2).rotateLeft 31)

def block (h k : BitVec 64 × BitVec 64) : BitVec 64 × BitVec 64 :=
  let h1 := ((rotations h k).1 + h.2) * 5 + 0x52dce729
  let h2 := ((rotations h k).2 + h1) * 5 + 0x38495ab5
  (h1,h2)

def body (data : List UInt8) (seed : BitVec 64) (blocks : ℕ) : BitVec 64 × BitVec 64 :=
  (List.range blocks).foldl (fun h i => block h (blockAt data i)) (seed,seed)

def tail1 (data : List UInt8) : BitVec 64 :=
  if 1 ≤ (tailOf data).length then mix1 (littleEndian ((tailOf data).take 8)) else 0
def tail2 (data : List UInt8) : BitVec 64 :=
  if 9 ≤ (tailOf data).length then mix2 (littleEndian ((tailOf data).drop 8)) else 0

def fmix (k : BitVec 64) : BitVec 64 :=
  let k := (k ^^^ k >>> 33) * 0xff51afd7ed558ccd
  let k := (k ^^^ k >>> 33) * 0xc4ceb9fe1a85ec53
  k ^^^ k >>> 33

def finalWords (data : List UInt8) (seed : BitVec 64) : BitVec 64 × BitVec 64 :=
  let h := body data seed (data.length / 16)
  let h1 := h.1 ^^^ tail1 data ^^^ BitVec.ofNat 64 data.length
  let h2 := h.2 ^^^ tail2 data ^^^ BitVec.ofNat 64 data.length
  let h1 := h1 + h2
  (fmix h1,fmix (h2 + h1))

def hash (data : List UInt8) (seed : BitVec 64) : BitVec 64 :=
  (finalWords data seed).1 + (finalWords data seed).2

end Reference

def words (h : ℕ × ℕ) : BitVec 64 × BitVec 64 := (BitVec.ofNat 64 h.1,BitVec.ofNat 64 h.2)

def wideBlock (h : ℕ × ℕ) (k : BitVec 64 × BitVec 64) : ℕ × ℕ :=
  let h1 := (((Reference.rotations (words h) k).1 + (words h).2) * 5).toNat + N1
  (h1,(((Reference.rotations (words h) k).2 + BitVec.ofNat 64 h1) * 5).toNat + N2)

def wideBody (data : List UInt8) (seed : BitVec 64) (blocks : ℕ) : ℕ × ℕ :=
  (List.range blocks).foldl (fun h i => wideBlock h (Reference.blockAt data i)) (seed.toNat,seed.toNat)

def wideFinal (data : List UInt8) (seed : BitVec 64) : ℕ × ℕ :=
  let h := wideBody data seed (data.length / 16)
  let h1 := h.1 ^^^ (Reference.tail1 data).toNat ^^^ data.length
  let h2 := h.2 ^^^ (Reference.tail2 data).toNat ^^^ data.length
  let h1 := h1 + h2
  (h1,h2 + h1)

-- What lies above the word of a sum is lost without a trace where the rotation puts
-- it on a bit that is set, and where the finalizer shifts it out.
def CarryHarmless (h : ℕ) (mixed : BitVec 64) : Prop := h < 2 ^ 64 ∨ (BitVec.ofNat 64 h ^^^ mixed).getLsbD 0 = true
def SumHarmless (h : ℕ) : Prop := h / 2 ^ 64 % 2 ^ 33 = 0

structure BlocksHarmless (data : List UInt8) (seed : BitVec 64) (blocks : ℕ) : Prop where
  first : ∀ i < blocks, CarryHarmless (wideBody data seed i).1 (Reference.mix1 (Reference.blockAt data i).1)
  second : ∀ i < blocks, CarryHarmless (wideBody data seed i).2 (Reference.mix2 (Reference.blockAt data i).2)

structure CarriesHarmless (data : List UInt8) (seed : BitVec 64) : Prop where
  blocks : BlocksHarmless data seed (data.length / 16)
  first : SumHarmless (wideFinal data seed).1
  second : SumHarmless (wideFinal data seed).2

def bodyOf (bytes : List ℕ) (seed blocks : ℕ) : ℕ × ℕ := (List.range blocks).foldl (block bytes) (seed,seed)

def rotationsAt (bytes : List ℕ) (h : ℕ × ℕ) (i : ℕ) : ℕ × ℕ :=
  (rotateLeft64 (h.1 ^^^ mix1 (readUInt64LE bytes (i * 16))) R2,
    rotateLeft64 (h.2 ^^^ mix2 (readUInt64LE bytes (i * 16 + 8))) R1)

def finalNumbers (bytes : List ℕ) (seed : ℕ) : ℕ × ℕ :=
  let h := bodyOf bytes seed (bytes.length / 16)
  let tail := bytes.length / 16 * 16
  let remaining := bytes.length % 16
  let h2 := (if 9 ≤ remaining then h.2 ^^^ mix2 (gather bytes tail remaining 8 7) else h.2) ^^^ bytes.length
  let h1 := (if 1 ≤ remaining then h.1 ^^^ mix1 (gather bytes tail remaining 0 8) else h.1) ^^^ bytes.length
  let h1 := h1 + h2
  (fmix64 h1,fmix64 (h2 + h1))

theorem hash_finalNumbers (bytes : List ℕ) (seed : ℕ) :
    hash bytes seed = (finalNumbers bytes seed).1 + (finalNumbers bytes seed).2 := rfl

structure SameWords (data : List UInt8) (seed : BitVec 64) : Prop where
  rotations : ∀ i < data.length / 16,
    words (rotationsAt (data.map UInt8.toNat) (bodyOf (data.map UInt8.toNat) seed.toNat i) i) =
      Reference.rotations (Reference.body data seed i) (Reference.blockAt data i)
  final : words (finalNumbers (data.map UInt8.toNat) seed.toNat) = Reference.finalWords data seed

section Words

theorem mask_two_pow : mask = 2 ^ 64 - 1 := by decide

theorem multiply64_word (a b : ℕ) : multiply64 a b = (BitVec.ofNat 64 a * BitVec.ofNat 64 b).toNat := by
  rw [multiply64,mask_two_pow,masked,BitVec.ofNat_mul]

theorem rotateLeft64_word (value : ℕ) (within : shift < 64) :
    BitVec.ofNat 64 (rotateLeft64 value shift) =
      (BitVec.ofNat 64 value).rotateLeft shift ||| BitVec.ofNat 64 (value / 2 ^ 64) <<< shift := by
  rw [rotateLeft64,mask_two_pow,ofNat_rotated value within]

theorem rotateLeft64_small (value : BitVec 64) (within : shift < 64) :
    rotateLeft64 value.toNat shift = (value.rotateLeft shift).toNat := by
  have rotated := rotateLeft64_word value.toNat within
  rw [word_of_toNat,Nat.div_eq_of_lt value.isLt,BitVec.zero_shiftLeft,BitVec.or_zero] at rotated
  rw [← rotated,BitVec.toNat_ofNat,Nat.mod_eq_of_lt]
  rw [rotateLeft64,mask_two_pow,masked]
  exact BitVec.isLt _

theorem mix1_word (k : BitVec 64) : mix1 k.toNat = (Reference.mix1 k).toNat := by
  rw [mix1,multiply64_word k.toNat,rotateLeft64_small _ (by decide),multiply64_word,word_of_toNat,word_of_toNat]
  rfl

theorem mix2_word (k : BitVec 64) : mix2 k.toNat = (Reference.mix2 k).toNat := by
  rw [mix2,multiply64_word k.toNat,rotateLeft64_small _ (by decide),multiply64_word,word_of_toNat,word_of_toNat]
  rfl

theorem words_wideBlock (h : ℕ × ℕ) (k : BitVec 64 × BitVec 64) :
    words (wideBlock h k) = Reference.block (words h) k := by
  have cut (x : BitVec 64) (n : ℕ) : BitVec.ofNat 64 (x.toNat + n) = x + BitVec.ofNat 64 n := by
    rw [BitVec.ofNat_add,word_of_toNat]
  rw [words,wideBlock,Reference.block]
  simp only [cut]
  rfl

theorem rotated_exact_iff (within : shift < 64) (small : h < 2 ^ 65) (mixed : BitVec 64) :
    BitVec.ofNat 64 (rotateLeft64 (h ^^^ mixed.toNat) shift) = (BitVec.ofNat 64 h ^^^ mixed).rotateLeft shift ↔
      CarryHarmless h mixed := by
  have upper : (h ^^^ mixed.toNat) / 2 ^ 64 = h / 2 ^ 64 := by
    rw [Nat.xor_div_two_pow,Nat.div_eq_of_lt mixed.isLt,Nat.xor_zero]
  rw [rotateLeft64_word _ within,upper,BitVec.ofNat_xor,word_of_toNat,CarryHarmless]
  rcases Nat.lt_or_ge h (2 ^ 64) with word | carry
  · rw [Nat.div_eq_of_lt word,BitVec.zero_shiftLeft,BitVec.or_zero]
    exact iff_of_true rfl (.inl word)
  · have one : h / 2 ^ 64 = 1 := by omega
    rw [one,rotated_carry_iff _ within]
    exact ⟨.inr,fun harmless => harmless.resolve_left (Nat.not_lt.mpr carry)⟩

end Words

section Loading

def loaded (bytes : List UInt8) : ℕ := bytes.foldr (fun byte value => byte.toNat + 256 * value) 0

theorem loaded_lt (bytes : List UInt8) : loaded bytes < 256 ^ bytes.length := by
  induction bytes with
  | nil => exact Nat.one_pos
  | cons byte rest ih =>
      have small := byte.toNat_lt
      have step : loaded (byte :: rest) = byte.toNat + 256 * loaded rest := rfl
      rw [step,List.length_cons,Nat.pow_succ]
      omega

theorem loaded_append (first second : List UInt8) :
    loaded (first ++ second) = loaded first + 256 ^ first.length * loaded second := by
  induction first with
  | nil => simp [loaded]
  | cons byte rest ih =>
      have step (bytes : List UInt8) : loaded (byte :: bytes) = byte.toNat + 256 * loaded bytes := rfl
      rw [List.cons_append,step,step,ih,List.length_cons,Nat.pow_succ]
      ring

def byteAt (data : List UInt8) (i : ℕ) : ℕ := (data.map UInt8.toNat).getD i 0

theorem byteAt_lt (data : List UInt8) (i : ℕ) : byteAt data i < 256 := by
  rw [byteAt,List.getD_eq_getElem?_getD,List.getElem?_map]
  cases data[i]? with
  | none => exact Nat.zero_lt_succ _
  | some byte => exact byte.toNat_lt

theorem byteAt_drop (data : List UInt8) (offset i : ℕ) : byteAt (data.drop offset) i = byteAt data (offset + i) := by
  simp [byteAt,List.getElem?_drop]

theorem loaded_take (inside : n < bytes.length) :
    loaded (bytes.take (n + 1)) = loaded (bytes.take n) + 256 ^ n * byteAt bytes n := by
  have last : byteAt bytes n = loaded [bytes[n]] := by simp [byteAt,loaded,inside]
  rw [List.take_add_one,List.getElem?_eq_getElem inside,Option.toList_some,loaded_append,last,List.length_take_of_le (by omega)]

theorem littleEndian_loaded (short : bytes.length ≤ 8) : (Reference.littleEndian bytes).toNat = loaded bytes := by
  have small := loaded_lt bytes
  have room : 256 ^ bytes.length ≤ 256 ^ 8 := Nat.pow_le_pow_right (by decide) short
  rw [Reference.littleEndian,BitVec.toNat_ofNat]
  exact Nat.mod_eq_of_lt (by unfold loaded at small; omega)

theorem readUInt32LE_loaded (data : List UInt8) (inside : offset + 4 ≤ data.length) :
    readUInt32LE (data.map UInt8.toNat) offset = loaded ((data.drop offset).take 4) := by
  have long : 4 ≤ (data.drop offset).length := by
    rw [List.length_drop]
    omega
  have read : readUInt32LE (data.map UInt8.toNat) offset = byteAt data offset + 256 * byteAt data (offset + 1) +
    65536 * byteAt data (offset + 2) + 16777216 * byteAt data (offset + 3) := rfl
  have none' : loaded [] = 0 := rfl
  rw [loaded_take (by omega),loaded_take (by omega),loaded_take (by omega),loaded_take (by omega),List.take_zero,none',
    byteAt_drop,byteAt_drop,byteAt_drop,byteAt_drop,read]
  simp only [Nat.add_zero]
  omega

theorem readUInt64LE_word (data : List UInt8) (inside : offset + 8 ≤ data.length) :
    readUInt64LE (data.map UInt8.toNat) offset = (Reference.littleEndian ((data.drop offset).take 8)).toNat := by
  have long : 8 ≤ (data.drop offset).length := by
    rw [List.length_drop]
    omega
  have halves : (data.drop offset).take 8 = (data.drop offset).take 4 ++ (data.drop (offset + 4)).take 4 := by
    rw [← List.drop_drop,← List.take_add]
  have four : ((data.drop offset).take 4).length = 4 := List.length_take_of_le (by omega)
  have low := loaded_lt ((data.drop offset).take 4)
  rw [four] at low
  rw [littleEndian_loaded (List.length_take_le _ _),halves,loaded_append,four,readUInt64LE,
    readUInt32LE_loaded data (by omega),readUInt32LE_loaded data (by omega),← Nat.shiftLeft_add_eq_or_of_lt (by omega),
    Nat.shiftLeft_eq]
  omega

theorem gather_loaded (data : List UInt8) (whole : tail + remaining = data.length) (first count : ℕ) :
    gather (data.map UInt8.toNat) tail remaining first count = loaded ((data.drop (tail + first)).take count) := by
  have folded : ∀ count k, (List.range count).reverse.foldl (fun k i =>
      if first + i + 1 ≤ remaining then k ^^^ ((data.map UInt8.toNat).getD (tail + first + i) 0 <<< (8 * i)) else k)
        (256 ^ count * k) = 256 ^ count * k + loaded ((data.drop (tail + first)).take count) := by
    intro count
    induction count with
    | zero => simp [loaded]
    | succ count ih =>
        intro k
        have small := byteAt_lt data (tail + first + count)
        rw [List.range_succ,List.reverse_append,List.reverse_singleton,List.singleton_append,List.foldl_cons]
        by_cases inside : first + count + 1 ≤ remaining
        · have bytes : 256 ^ (count + 1) = 2 ^ (8 * (count + 1)) := by
            rw [Nat.pow_mul]
          have place : byteAt data (tail + first + count) <<< (8 * count) = 256 ^ count * byteAt data (tail + first + count) := by
            rw [Nat.shiftLeft_eq,Nat.pow_mul,Nat.mul_comm]
          have below : 256 ^ count * byteAt data (tail + first + count) < 2 ^ (8 * (count + 1)) := by
            rw [← bytes,Nat.pow_succ]
            exact Nat.mul_lt_mul_of_pos_left small (Nat.pow_pos (by decide))
          have joined : 256 ^ (count + 1) * k ^^^ (data.map UInt8.toNat).getD (tail + first + count) 0 <<< (8 * count) =
              256 ^ count * (256 * k + byteAt data (tail + first + count)) := by
            change 256 ^ (count + 1) * k ^^^ byteAt data (tail + first + count) <<< (8 * count) = _
            rw [place,bytes,xor_two_pow_mul k below,← bytes]
            ring
          rw [if_pos inside,joined,ih,loaded_take (by rw [List.length_drop]; omega),byteAt_drop]
          ring
        · have short : (data.drop (tail + first)).length ≤ count := by
            rw [List.length_drop]
            omega
          have shift : 256 ^ (count + 1) * k = 256 ^ count * (256 * k) := by ring
          rw [if_neg inside,shift,ih,List.take_of_length_le short,List.take_of_length_le (by omega)]
  have none' := folded count 0
  rwa [Nat.mul_zero,Nat.zero_add] at none'

theorem length_tailOf (data : List UInt8) : (Reference.tailOf data).length = data.length % 16 := by
  rw [Reference.tailOf,List.length_drop]
  omega

theorem tail1_word (data : List UInt8) :
    (if 1 ≤ data.length % 16 then mix1 (gather (data.map UInt8.toNat) (data.length / 16 * 16) (data.length % 16) 0 8)
      else 0) = (Reference.tail1 data).toNat := by
  have whole : data.length / 16 * 16 + data.length % 16 = data.length := by omega
  rw [gather_loaded data whole,Nat.add_zero,Reference.tail1,length_tailOf]
  split
  · rw [← mix1_word,littleEndian_loaded (List.length_take_le _ _)]
    rfl
  · rfl

theorem tail2_word (data : List UInt8) :
    (if 9 ≤ data.length % 16 then mix2 (gather (data.map UInt8.toNat) (data.length / 16 * 16) (data.length % 16) 8 7)
      else 0) = (Reference.tail2 data).toNat := by
  have whole : data.length / 16 * 16 + data.length % 16 = data.length := by omega
  have short : ((Reference.tailOf data).drop 8).length ≤ 7 := by
    rw [List.length_drop,length_tailOf]
    omega
  rw [gather_loaded data whole,← List.drop_drop,Reference.tail2,length_tailOf]
  split
  · rw [← mix2_word,littleEndian_loaded (by omega)]
    exact congrArg (fun bytes => mix2 (loaded bytes)) (List.take_of_length_le short)
  · rfl

end Loading

section Blocks
variable {data : List UInt8} {seed : BitVec 64}

theorem wideBody_succ (data : List UInt8) (seed : BitVec 64) (n : ℕ) :
    wideBody data seed (n + 1) = wideBlock (wideBody data seed n) (Reference.blockAt data n) := by
  rw [wideBody,List.range_succ,List.foldl_append]
  rfl

theorem wideBody_zero (data : List UInt8) (seed : BitVec 64) : wideBody data seed 0 = (seed.toNat,seed.toNat) := rfl
theorem bodyOf_zero (bytes : List ℕ) (seed : ℕ) : bodyOf bytes seed 0 = (seed,seed) := rfl

theorem bodyOf_succ (bytes : List ℕ) (seed n : ℕ) :
    bodyOf bytes seed (n + 1) = block bytes (bodyOf bytes seed n) n := by
  rw [bodyOf,List.range_succ,List.foldl_append]
  rfl

-- A word and one more constant: at most one bit of carry.
theorem wideBody_small (data : List UInt8) (seed : BitVec 64) (n : ℕ) :
    (wideBody data seed n).1 < 2 ^ 65 ∧ (wideBody data seed n).2 < 2 ^ 65 := by
  cases n with
  | zero =>
      have small := seed.isLt
      rw [wideBody_zero]
      exact ⟨by omega,by omega⟩
  | succ n =>
      rw [wideBody_succ,wideBlock]
      have first := BitVec.isLt (((Reference.rotations (words (wideBody data seed n)) (Reference.blockAt data n)).1 +
        (words (wideBody data seed n)).2) * 5)
      have small1 : N1 < 2 ^ 64 := by decide
      have small2 : N2 < 2 ^ 64 := by decide
      refine ⟨by omega,?_⟩
      have second (x : BitVec 64) := x.isLt
      dsimp only
      exact Nat.lt_of_lt_of_le (Nat.add_lt_add (second _) small2) (by decide)

theorem words_wideBody (data : List UInt8) (seed : BitVec 64) (n : ℕ) :
    words (wideBody data seed n) = Reference.body data seed n := by
  induction n with
  | zero =>
      exact Prod.ext (word_of_toNat seed) (word_of_toNat seed)
  | succ n ih =>
      have step : Reference.body data seed (n + 1) = Reference.block (Reference.body data seed n) (Reference.blockAt data n) := by
        rw [Reference.body,List.range_succ,List.foldl_append]
        rfl
      rw [wideBody_succ,words_wideBlock,ih,step]

theorem rotationsAt_exact_iff (inside : i < data.length / 16) (small : h.1 < 2 ^ 65 ∧ h.2 < 2 ^ 65) :
    words (rotationsAt (data.map UInt8.toNat) h i) = Reference.rotations (words h) (Reference.blockAt data i) ↔
      CarryHarmless h.1 (Reference.mix1 (Reference.blockAt data i).1) ∧
        CarryHarmless h.2 (Reference.mix2 (Reference.blockAt data i).2) := by
  rw [← rotated_exact_iff (show R2 < 64 by decide) small.1,← rotated_exact_iff (show R1 < 64 by decide) small.2,rotationsAt,
    readUInt64LE_word data (by omega),readUInt64LE_word data (by omega),mix1_word,mix2_word]
  exact Prod.ext_iff

theorem block_wide (same : words (rotationsAt (data.map UInt8.toNat) h i) = Reference.rotations (words h) (Reference.blockAt data i)) :
    block (data.map UInt8.toNat) h i = wideBlock h (Reference.blockAt data i) := by
  have fivefold (r h : ℕ) : multiply64 (r + h) M = ((BitVec.ofNat 64 r + BitVec.ofNat 64 h) * 5).toNat := by
    have five : BitVec.ofNat 64 M = 5 := by decide
    rw [multiply64_word,BitVec.ofNat_add,five]
  have first : BitVec.ofNat 64 (rotationsAt (data.map UInt8.toNat) h i).1 =
      (Reference.rotations (words h) (Reference.blockAt data i)).1 := congrArg Prod.fst same
  have second : BitVec.ofNat 64 (rotationsAt (data.map UInt8.toNat) h i).2 =
      (Reference.rotations (words h) (Reference.blockAt data i)).2 := congrArg Prod.snd same
  have unfolded : block (data.map UInt8.toNat) h i =
      (multiply64 ((rotationsAt (data.map UInt8.toNat) h i).1 + h.2) M + N1,
        multiply64 ((rotationsAt (data.map UInt8.toNat) h i).2 +
          (multiply64 ((rotationsAt (data.map UInt8.toNat) h i).1 + h.2) M + N1)) M + N2) := by
    simp only [block,rotationsAt]
  rw [unfolded,fivefold,fivefold,first,second,wideBlock]
  simp only [words]

theorem BlocksHarmless.shorter (harmless : BlocksHarmless data seed n) (fewer : m ≤ n) : BlocksHarmless data seed m where
  first i less := harmless.first i (less.trans_le fewer)
  second i less := harmless.second i (less.trans_le fewer)

theorem BlocksHarmless.succ (harmless : BlocksHarmless data seed n)
    (first : CarryHarmless (wideBody data seed n).1 (Reference.mix1 (Reference.blockAt data n).1))
    (second : CarryHarmless (wideBody data seed n).2 (Reference.mix2 (Reference.blockAt data n).2)) :
    BlocksHarmless data seed (n + 1) := by
  constructor
  · intro i less
    rcases Nat.lt_succ_iff_lt_or_eq.mp less with earlier | rfl
    · exact harmless.first i earlier
    · exact first
  · intro i less
    rcases Nat.lt_succ_iff_lt_or_eq.mp less with earlier | rfl
    · exact harmless.second i earlier
    · exact second

theorem bodyOf_wide (within : n ≤ data.length / 16) (harmless : BlocksHarmless data seed n) :
    bodyOf (data.map UInt8.toNat) seed.toNat n = wideBody data seed n := by
  induction n with
  | zero => rw [bodyOf_zero,wideBody_zero]
  | succ n ih =>
      have before := ih (by omega) (harmless.shorter (Nat.le_succ n))
      rw [bodyOf_succ,wideBody_succ,before]
      refine block_wide ((rotationsAt_exact_iff (by omega) (wideBody_small data seed n)).mpr ?_)
      exact ⟨harmless.first n (by omega),harmless.second n (by omega)⟩

theorem same_rotations_iff (within : n ≤ data.length / 16) :
    (∀ i < n, words (rotationsAt (data.map UInt8.toNat) (bodyOf (data.map UInt8.toNat) seed.toNat i) i) =
      Reference.rotations (Reference.body data seed i) (Reference.blockAt data i)) ↔ BlocksHarmless data seed n := by
  have exactly {i : ℕ} (less : i < n) (harmless : BlocksHarmless data seed i) :
      words (rotationsAt (data.map UInt8.toNat) (bodyOf (data.map UInt8.toNat) seed.toNat i) i) =
        Reference.rotations (Reference.body data seed i) (Reference.blockAt data i) ↔
      CarryHarmless (wideBody data seed i).1 (Reference.mix1 (Reference.blockAt data i).1) ∧
        CarryHarmless (wideBody data seed i).2 (Reference.mix2 (Reference.blockAt data i).2) := by
    rw [bodyOf_wide (by omega) harmless,← words_wideBody]
    exact rotationsAt_exact_iff (by omega) (wideBody_small data seed i)
  constructor
  · intro same
    have reached : ∀ m ≤ n, BlocksHarmless data seed m := by
      intro m
      induction m with
      | zero => exact fun _ => ⟨fun _ none => absurd none (Nat.not_lt_zero _),fun _ none => absurd none (Nat.not_lt_zero _)⟩
      | succ m ih =>
          intro bound
          have before := ih (by omega)
          obtain ⟨first,second⟩ := (exactly bound before).mp (same m bound)
          exact before.succ first second
    exact reached n (Nat.le_refl n)
  · intro harmless i less
    refine (exactly less (harmless.shorter (Nat.le_of_lt less))).mpr ?_
    exact ⟨harmless.first i less,harmless.second i less⟩

end Blocks

section Finalization
variable {data : List UInt8} {seed : BitVec 64}

def finish (k : BitVec 64) : BitVec 64 :=
  let k := k * 0xff51afd7ed558ccd
  let k := (k ^^^ k >>> 33) * 0xc4ceb9fe1a85ec53
  k ^^^ k >>> 33

theorem finish_injective (same : finish x = finish y) : x = y := by
  apply mul_injective (show (0xff51afd7ed558ccd : BitVec 64) * 0x4f74430c22a54005 = 1 by decide)
  apply xorShift_injective (s:=33) (by decide)
  apply mul_injective (show (0xc4ceb9fe1a85ec53 : BitVec 64) * 0x9cb4b2f8129337db = 1 by decide)
  exact xorShift_injective (s:=33) (by decide) same

theorem fmix64_finish (k : ℕ) : BitVec.ofNat 64 (fmix64 k) = finish (BitVec.ofNat 64 (k ^^^ k >>> 33)) := by
  have shifted (x : BitVec 64) : BitVec.ofNat 64 (x.toNat >>> 33) = x >>> 33 := by
    rw [← BitVec.toNat_ushiftRight,word_of_toNat]
  rw [fmix64,finish]
  simp only [multiply64_word,BitVec.ofNat_xor,word_of_toNat,shifted]
  rfl

-- The shift brings the carry down into the word, and nothing after it forgets.
theorem fmix64_exact_iff (k : ℕ) : BitVec.ofNat 64 (fmix64 k) = Reference.fmix (BitVec.ofNat 64 k) ↔ SumHarmless k := by
  have reference (w : BitVec 64) : Reference.fmix w = finish (w ^^^ w >>> 33) := rfl
  rw [fmix64_finish,reference,BitVec.ofNat_xor,ofNat_shiftRight k (by decide),SumHarmless,
    ← shifted_carry_iff (BitVec.ofNat 64 k) (k / 2 ^ 64) (by decide)]
  constructor
  · intro same
    exact (BitVec.xor_right_inj _).mp (finish_injective same)
  · intro same
    rw [same]

theorem finalWords_wide (data : List UInt8) (seed : BitVec 64) :
    Reference.finalWords data seed =
      (Reference.fmix (BitVec.ofNat 64 (wideFinal data seed).1),Reference.fmix (BitVec.ofNat 64 (wideFinal data seed).2)) := by
  rw [Reference.finalWords,wideFinal,← words_wideBody]
  simp only [BitVec.ofNat_add,BitVec.ofNat_xor,word_of_toNat,words]

theorem finalNumbers_wide (same : bodyOf (data.map UInt8.toNat) seed.toNat (data.length / 16) =
      wideBody data seed (data.length / 16)) :
    finalNumbers (data.map UInt8.toNat) seed.toNat =
      (fmix64 (wideFinal data seed).1,fmix64 (wideFinal data seed).2) := by
  have absorbed (condition : Prop) [Decidable condition] (h mixed : ℕ) :
      (if condition then h ^^^ mixed else h) = h ^^^ if condition then mixed else 0 := by
    split
    · rfl
    · exact (Nat.xor_zero h).symm
  rw [finalNumbers,List.length_map,same,wideFinal]
  simp only [absorbed,tail1_word,tail2_word]

theorem same_final_iff (same : bodyOf (data.map UInt8.toNat) seed.toNat (data.length / 16) =
      wideBody data seed (data.length / 16)) :
    words (finalNumbers (data.map UInt8.toNat) seed.toNat) = Reference.finalWords data seed ↔
      SumHarmless (wideFinal data seed).1 ∧ SumHarmless (wideFinal data seed).2 := by
  rw [finalNumbers_wide same,finalWords_wide,← fmix64_exact_iff,← fmix64_exact_iff]
  exact Prod.ext_iff

end Finalization

theorem sameWords_iff (data : List UInt8) (seed : BitVec 64) : SameWords data seed ↔ CarriesHarmless data seed := by
  have rotations : _ ↔ BlocksHarmless data seed _ := same_rotations_iff (Nat.le_refl _)
  constructor
  · rintro ⟨same,final⟩
    have blocks := rotations.mp same
    obtain ⟨first,second⟩ := (same_final_iff (bodyOf_wide (Nat.le_refl _) blocks)).mp final
    exact ⟨blocks,first,second⟩
  · rintro ⟨blocks,first,second⟩
    exact ⟨rotations.mpr blocks,(same_final_iff (bodyOf_wide (Nat.le_refl _) blocks)).mpr ⟨first,second⟩⟩

-- The words on the way are the published ones exactly where every carry is harmless,
-- and then so is the hash. A carry that reaches the second sum of the finalizer
-- alone always shows in the hash.
theorem murmur128_exact (data : List UInt8) (seed : BitVec 64) :
    (CarriesHarmless data seed →
      hash (data.map UInt8.toNat) seed.toNat % 2 ^ 64 = (Reference.hash data seed).toNat) ∧
    (SameWords data seed ↔ CarriesHarmless data seed) ∧
    (BlocksHarmless data seed (data.length / 16) → SumHarmless (wideFinal data seed).1 →
      (hash (data.map UInt8.toNat) seed.toNat % 2 ^ 64 = (Reference.hash data seed).toNat ↔
        SumHarmless (wideFinal data seed).2)) := by
  have cut : hash (data.map UInt8.toNat) seed.toNat % 2 ^ 64 = (Reference.hash data seed).toNat ↔
      (words (finalNumbers (data.map UInt8.toNat) seed.toNat)).1 +
          (words (finalNumbers (data.map UInt8.toNat) seed.toNat)).2 =
        (Reference.finalWords data seed).1 + (Reference.finalWords data seed).2 := by
    rw [hash_finalNumbers,← BitVec.toNat_ofNat,BitVec.toNat_inj,BitVec.ofNat_add,Reference.hash,words]
  refine ⟨?_,sameWords_iff data seed,?_⟩
  · intro harmless
    rw [cut,((sameWords_iff data seed).mpr harmless).final]
  · intro blocks first
    have same := bodyOf_wide (Nat.le_refl _) blocks
    have firstSame := (fmix64_exact_iff (wideFinal data seed).1).mpr first
    rw [cut,finalNumbers_wide same,finalWords_wide,words,firstSame,← fmix64_exact_iff]
    exact BitVec.add_right_inj _

theorem sumHarmless_iff (ordinary : h < 2 ^ 97) : SumHarmless h ↔ h < 2 ^ 64 := by
  unfold SumHarmless
  omega

theorem murmur128_exact_short :
    hash (bytesOf "10.0.0.1") 0 % 2 ^ 64 = (Reference.hash "10.0.0.1".toUTF8.data.toList 0).toNat := by
  refine (murmur128_exact "10.0.0.1".toUTF8.data.toList 0).1 ⟨⟨?_,?_⟩,?_,?_⟩
  · intro i none
    exact absurd none (Nat.not_lt_zero i)
  · intro i none
    exact absurd none (Nat.not_lt_zero i)
  · rw [SumHarmless]
    decide +kernel
  · rw [SumHarmless]
    decide +kernel

-- One more byte, and the second sum of the finalizer no longer fits.
theorem murmur128_carries :
    hash (bytesOf "10.0.0.10") 0 % 2 ^ 64 ≠ (Reference.hash "10.0.0.10".toUTF8.data.toList 0).toNat := by
  decide +kernel

end PhantomFlow.Cardinality.MurmurHash3_64
