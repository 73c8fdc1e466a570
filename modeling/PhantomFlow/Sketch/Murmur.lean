import PhantomFlow.Library.JsWords
import PhantomFlow.Sketch.CountMinSketch

namespace PhantomFlow.Sketch.MurmurHash3
open Library Library.JsInt32

-- MurmurHash3_x86_32 as published, on words.
namespace Reference

def c1 : BitVec 32 := 0xcc9e2d51
def c2 : BitVec 32 := 0x1b873593

def littleEndian (bytes : List UInt8) : BitVec 32 :=
  BitVec.ofNat 32 (bytes.foldr (fun byte value => byte.toNat + 256 * value) 0)

def scramble (k : BitVec 32) : BitVec 32 := (k * c1).rotateLeft 15 * c2

def block (h k : BitVec 32) : BitVec 32 := (h ^^^ scramble k).rotateLeft 13 * 5 + 0xe6546b64

def blocks : List UInt8 → List (BitVec 32)
  | b0 :: b1 :: b2 :: b3 :: rest => littleEndian [b0,b1,b2,b3] :: blocks rest
  | _ => []

def tailOf : List UInt8 → List UInt8
  | _ :: _ :: _ :: _ :: rest => tailOf rest
  | tail => tail

def body (h : BitVec 32) (data : List UInt8) : BitVec 32 :=
  let h := (blocks data).foldl block h
  if tailOf data = [] then h else h ^^^ scramble (littleEndian (tailOf data))

def mixed (h : BitVec 32) (length : ℕ) : BitVec 32 :=
  let h := h ^^^ BitVec.ofNat 32 length
  h ^^^ h >>> 16

def remixed (h : BitVec 32) (length : ℕ) : BitVec 32 :=
  let h := mixed h length * 0x85ebca6b
  h ^^^ h >>> 13

def finalize (h : BitVec 32) (length : ℕ) : BitVec 32 :=
  let h := remixed h length * 0xc2b2ae35
  h ^^^ h >>> 16

def hash (data : List UInt8) (seed : BitVec 32) : BitVec 32 := finalize (body seed data) data.length

def words (data : List UInt8) : List (BitVec 32) :=
  blocks data ++ if tailOf data = [] then [] else [littleEndian (tailOf data)]

def products (data : List UInt8) (seed : BitVec 32) : List (BitVec 32) :=
  (words data).flatMap (fun k => [k * c1,scramble k]) ++
    [mixed (body seed data) data.length * 0x85ebca6b,remixed (body seed data) data.length * 0xc2b2ae35]

end Reference

def scrambleProducts (k1 : ℤ) : List ℤ := [product k1 C1,scramble k1]

def bodyProducts : List UInt8 → List ℤ
  | b0 :: b1 :: b2 :: b3 :: rest =>
    scrambleProducts (b0.toNat + 256 * b1.toNat + 65536 * b2.toNat + 16777216 * b3.toNat) ++ bodyProducts rest
  | [] => []
  | tail => scrambleProducts (tail.foldr (fun byte k1 => bitOr (shl k1 8) byte.toNat) 0)

def finalProducts (h1 : ℤ) (length : ℕ) : List ℤ :=
  let h1 := bitXor h1 length
  let h1 := bitXor h1 (ushr h1 16)
  let first := product h1 0x85ebca6b
  [first,product (bitXor first (ushr first 13)) 0xc2b2ae35]

def products (data : List UInt8) (seed : ℤ) : List ℤ :=
  bodyProducts data ++ finalProducts (body seed data) data.length

theorem length_map_pair (f : α → β) (a b : α) : ([a,b].map f).length = 2 := rfl
theorem scrambleProducts_length (k1 : ℤ) : (scrambleProducts k1).length = 2 := rfl
theorem finalProducts_length (h1 : ℤ) (length : ℕ) : (finalProducts h1 length).length = 2 := rfl

-- The operands of the scrambling are unsigned, those of the finalization signed.
structure ScrambleExact (k : BitVec 32) : Prop where
  first : Representable (k.toNat * 0xcc9e2d51)
  second : Representable (((k * Reference.c1).rotateLeft 15).toNat * 0x1b873593)

structure FinalExact (h : BitVec 32) (length : ℕ) : Prop where
  first : Representable ((Reference.mixed h length).toInt.natAbs * 0x85ebca6b)
  second : Representable ((Reference.remixed h length).toInt.natAbs * 0xc2b2ae35)

structure Exact (data : List UInt8) (seed : BitVec 32) : Prop where
  scrambles : ∀ k ∈ Reference.words data, ScrambleExact k
  final : FinalExact (Reference.body seed data) data.length

section Words

theorem product_word (x y : ℤ) : product x y = (word (times x y)).toNat := mask_word _

theorem rotate_word (x : ℤ) (n : ℕ) (short : n < 32) : rotate x n = ((word x).rotateLeft n).toNat := by
  rw [rotate,bitOr_word,shl_word,ushr_word,ushr_word,word_toInt,word_toInt,word_toNat,BitVec.ushiftRight_zero,
    BitVec.rotateLeft_def,Nat.mod_eq_of_lt short]

theorem product_exact_iff (x y : ℤ) (bound : (x * y).natAbs < 2 ^ 64) :
    product x y = (word x * word y).toNat ↔ Representable (x * y).natAbs := by
  rw [product_word,← word_times_iff x y bound,Int.natCast_inj,BitVec.toNat_inj]

theorem product_unsigned_iff (w : BitVec 32) (constant : ℕ) (short : constant < 2 ^ 32) :
    product w.toNat constant = (w * word constant).toNat ↔ Representable (w.toNat * constant) := by
  have size : ((w.toNat : ℤ) * constant).natAbs = w.toNat * constant := by
    rw [Int.natAbs_mul,Int.natAbs_natCast,Int.natAbs_natCast]
  have below := Nat.mul_lt_mul'' w.isLt short
  rw [← size] at below
  have exactly := product_exact_iff w.toNat constant below
  rwa [word_toNat,size] at exactly

theorem product_signed_iff (w : BitVec 32) (constant : ℕ) (short : constant < 2 ^ 32) :
    product w.toInt constant = (w * word constant).toNat ↔ Representable (w.toInt.natAbs * constant) := by
  have size : (w.toInt * constant).natAbs = w.toInt.natAbs * constant := by
    rw [Int.natAbs_mul,Int.natAbs_natCast]
  have half : w.toInt.natAbs < 2 ^ 32 := by
    have low := w.le_toInt
    have high := w.toInt_lt
    omega
  have below := Nat.mul_lt_mul'' half short
  rw [← size] at below
  have exactly := product_exact_iff w.toInt constant below
  rwa [word_toInt,size] at exactly

end Words

section Scrambling
variable {k : BitVec 32}

theorem scramble_rotated (first : product k.toNat C1 = (k * Reference.c1).toNat) :
    scramble k.toNat = product ((k * Reference.c1).rotateLeft 15).toNat 0x1b873593 := by
  rw [scramble,first,rotate_word _ R1 (by decide),word_toNat]
  rfl

theorem scramble_exact_iff (k : BitVec 32) :
    product k.toNat C1 = (k * Reference.c1).toNat ∧ scramble k.toNat = (Reference.scramble k).toNat ↔
      ScrambleExact k := by
  have first := product_unsigned_iff k 0xcc9e2d51 (by decide)
  have second := product_unsigned_iff ((k * Reference.c1).rotateLeft 15) 0x1b873593 (by decide)
  constructor
  · rintro ⟨same,same'⟩
    rw [scramble_rotated same] at same'
    exact ⟨first.mp same,second.mp same'⟩
  · rintro ⟨exact',exact''⟩
    have same : product k.toNat C1 = (k * Reference.c1).toNat := first.mpr exact'
    refine ⟨same,?_⟩
    rw [scramble_rotated same]
    exact second.mpr exact''

theorem block_word (exactly : ScrambleExact k) (h : BitVec 32) :
    block h.toNat k.toNat = (Reference.block h k).toNat := by
  have scrambled := ((scramble_exact_iff k).mpr exactly).2
  have rotated : rotate (bitXor h.toNat (scramble k.toNat)) R2 =
      ((h ^^^ Reference.scramble k).rotateLeft 13).toNat := by
    rw [rotate_word _ R2 (by decide),bitXor_word,scrambled,word_toInt,word_toNat,word_toNat]
    rfl
  -- Times five a word stays far below 2^53.
  have fivefold : word (times ((h ^^^ Reference.scramble k).rotateLeft 13).toNat M) =
      (h ^^^ Reference.scramble k).rotateLeft 13 * 5 := by
    have small : (((h ^^^ Reference.scramble k).rotateLeft 13).toNat * M).natAbs < 2 ^ 53 := by
      have below := ((h ^^^ Reference.scramble k).rotateLeft 13).isLt
      unfold M
      omega
    rw [(word_times_iff _ _ (by omega)).mpr (representable_small small),word_toNat]
    rfl
  have added (x y : ℤ) : word (x + y) = word x + word y := BitVec.ofInt_add x y
  have ones : word 0xffffffff = BitVec.allOnes 32 := by decide
  rw [block,rotated,ushr_word,BitVec.ushiftRight_zero,added,bitAnd_word,word_toInt,ones,BitVec.and_allOnes,fivefold]
  rfl

end Scrambling

section Loading

theorem littleEndian_block (b0 b1 b2 b3 : UInt8) :
    (b0.toNat + 256 * b1.toNat + 65536 * b2.toNat + 16777216 * b3.toNat : ℤ) =
      (Reference.littleEndian [b0,b1,b2,b3]).toNat := by
  have := b0.toNat_lt
  have := b1.toNat_lt
  have := b2.toNat_lt
  have := b3.toNat_lt
  simp only [Reference.littleEndian,List.foldr_cons,List.foldr_nil,BitVec.toNat_ofNat]
  omega

theorem body_block (h1 : ℤ) (b0 b1 b2 b3 : UInt8) (rest : List UInt8) :
    body h1 (b0 :: b1 :: b2 :: b3 :: rest) =
      body (block h1 (Reference.littleEndian [b0,b1,b2,b3]).toNat) rest := by
  rw [← littleEndian_block]
  rfl

theorem bodyProducts_block (b0 b1 b2 b3 : UInt8) (rest : List UInt8) :
    bodyProducts (b0 :: b1 :: b2 :: b3 :: rest) =
      scrambleProducts (Reference.littleEndian [b0,b1,b2,b3]).toNat ++ bodyProducts rest := by
  rw [← littleEndian_block]
  rfl

theorem appendByte (k : ℕ) (byte : UInt8) (short : k < 65536) :
    bitOr (shl k 8) byte.toNat = ((byte.toNat + 256 * k : ℕ) : ℤ) := by
  have small := byte.toNat_lt
  have joined : k <<< 8 ||| byte.toNat = byte.toNat + 256 * k := by
    rw [← Nat.shiftLeft_add_eq_or_of_lt small,Nat.shiftLeft_eq]
    omega
  have shifted : k <<< 8 < 2 ^ 32 := by
    rw [Nat.shiftLeft_eq]
    omega
  have whole : word k <<< 8 ||| word byte.toNat = BitVec.ofNat 32 (byte.toNat + 256 * k) := by
    apply BitVec.eq_of_toNat_eq
    rw [BitVec.toNat_or,BitVec.toNat_shiftLeft,word_natCast,word_natCast,BitVec.toNat_ofNat,BitVec.toNat_ofNat,
      BitVec.toNat_ofNat,Nat.mod_eq_of_lt (by omega : k < 2 ^ 32),Nat.mod_eq_of_lt shifted,
      Nat.mod_eq_of_lt (by omega : byte.toNat < 2 ^ 32),joined,Nat.mod_eq_of_lt (by omega)]
  rw [bitOr_word,shl_word,word_toInt,whole,← word_natCast,← toInt32_word,toInt32]
  exact Int.bmod_eq_of_le (by omega) (by omega)

theorem littleEndian_tail (tail : List UInt8) (short : tail.length ≤ 3) :
    tail.foldr (fun byte k1 => bitOr (shl k1 8) byte.toNat) 0 = ((Reference.littleEndian tail).toNat : ℤ) := by
  have loaded : ∀ tail : List UInt8, tail.length ≤ 3 →
      tail.foldr (fun byte value => byte.toNat + 256 * value) 0 < 256 ^ tail.length ∧
      tail.foldr (fun byte k1 => bitOr (shl k1 8) byte.toNat) (0 : ℤ) =
        ((tail.foldr (fun byte value => byte.toNat + 256 * value) 0 : ℕ) : ℤ) := by
    intro tail
    induction tail with
    | nil => exact fun _ => ⟨Nat.one_pos,rfl⟩
    | cons byte rest ih =>
        intro short
        rw [List.length_cons] at short
        obtain ⟨small,same⟩ := ih (by omega)
        have byte' := byte.toNat_lt
        have room : 256 ^ rest.length ≤ 256 ^ 2 := Nat.pow_le_pow_right (by decide) (by omega)
        rw [List.foldr_cons,List.foldr_cons,same,appendByte _ _ (by omega)]
        refine ⟨?_,rfl⟩
        rw [List.length_cons,Nat.pow_succ]
        omega
  obtain ⟨small,same⟩ := loaded tail short
  have room : 256 ^ tail.length ≤ 256 ^ 3 := Nat.pow_le_pow_right (by decide) short
  rw [same,Reference.littleEndian,BitVec.toNat_ofNat,Nat.mod_eq_of_lt (by omega)]

-- The blocks one after another, and what is left of them.
@[elab_as_elim]
theorem blocks_induction {motive : List UInt8 → Prop} (nil : motive [])
    (tail : ∀ byte rest, (byte :: rest).length ≤ 3 → motive (byte :: rest))
    (block : ∀ b0 b1 b2 b3 rest, motive rest → motive (b0 :: b1 :: b2 :: b3 :: rest))
    (data : List UInt8) : motive data := by
  induction size : data.length using Nat.strong_induction_on generalizing data with
  | h n ih =>
      rcases data with _ | ⟨b0,_ | ⟨b1,_ | ⟨b2,_ | ⟨b3,rest⟩⟩⟩⟩
      · exact nil
      · exact tail b0 [] (by simp)
      · exact tail b0 [b1] (by simp)
      · exact tail b0 [b1,b2] (by simp)
      · refine block b0 b1 b2 b3 rest (ih rest.length ?_ rest rfl)
        rw [← size]
        simp only [List.length_cons]
        omega

section Tail
variable (byte : UInt8) (rest : List UInt8) (short : (byte :: rest).length ≤ 3)
include short

theorem tail_cases : rest = [] ∨ (∃ b1, rest = [b1]) ∨ ∃ b1 b2, rest = [b1,b2] := by
  rcases rest with _ | ⟨b1,_ | ⟨b2,_ | ⟨b3,rest⟩⟩⟩
  · exact .inl rfl
  · exact .inr (.inl ⟨b1,rfl⟩)
  · exact .inr (.inr ⟨b1,b2,rfl⟩)
  · simp only [List.length_cons] at short
    omega

theorem body_tail (h1 : ℤ) :
    body h1 (byte :: rest) = bitXor h1 (scramble (Reference.littleEndian (byte :: rest)).toNat) := by
  rw [← littleEndian_tail (byte :: rest) short]
  rcases tail_cases byte rest short with rfl | ⟨b1,rfl⟩ | ⟨b1,b2,rfl⟩
  · rfl
  · rfl
  · rfl

theorem bodyProducts_tail :
    bodyProducts (byte :: rest) = scrambleProducts (Reference.littleEndian (byte :: rest)).toNat := by
  rw [← littleEndian_tail (byte :: rest) short]
  rcases tail_cases byte rest short with rfl | ⟨b1,rfl⟩ | ⟨b1,b2,rfl⟩
  · rfl
  · rfl
  · rfl

theorem reference_tail : Reference.blocks (byte :: rest) = [] ∧ Reference.tailOf (byte :: rest) = byte :: rest := by
  rcases tail_cases byte rest short with rfl | ⟨b1,rfl⟩ | ⟨b1,b2,rfl⟩
  · exact ⟨rfl,rfl⟩
  · exact ⟨rfl,rfl⟩
  · exact ⟨rfl,rfl⟩

theorem reference_words_tail : Reference.words (byte :: rest) = [Reference.littleEndian (byte :: rest)] := by
  obtain ⟨blocks,tail⟩ := reference_tail byte rest short
  rw [Reference.words,blocks,tail]
  rfl

end Tail

theorem reference_words (b0 b1 b2 b3 : UInt8) (rest : List UInt8) :
    Reference.words (b0 :: b1 :: b2 :: b3 :: rest) =
      Reference.littleEndian [b0,b1,b2,b3] :: Reference.words rest := rfl

theorem reference_body (h : BitVec 32) (b0 b1 b2 b3 : UInt8) (rest : List UInt8) :
    Reference.body h (b0 :: b1 :: b2 :: b3 :: rest) =
      Reference.body (Reference.block h (Reference.littleEndian [b0,b1,b2,b3])) rest := by
  have blocks : Reference.blocks (b0 :: b1 :: b2 :: b3 :: rest) =
      Reference.littleEndian [b0,b1,b2,b3] :: Reference.blocks rest := rfl
  have tail : Reference.tailOf (b0 :: b1 :: b2 :: b3 :: rest) = Reference.tailOf rest := rfl
  rw [Reference.body,Reference.body,blocks,tail,List.foldl_cons]

end Loading

theorem body_word (data : List UInt8) (seed : BitVec 32) (exactly : ∀ k ∈ Reference.words data, ScrambleExact k) :
    word (body seed.toNat data) = Reference.body seed data := by
  induction data using blocks_induction generalizing seed with
  | nil => exact word_toNat seed
  | tail byte rest short =>
      obtain ⟨blocks,tail⟩ := reference_tail byte rest short
      have listed := reference_words_tail byte rest short
      have scrambled := ((scramble_exact_iff _).mpr (exactly _ (by rw [listed]; exact List.mem_cons_self))).2
      rw [body_tail byte rest short,bitXor_word,word_toInt,scrambled,word_toNat,word_toNat,Reference.body,blocks,tail]
      rfl
  | block b0 b1 b2 b3 rest ih =>
      rw [reference_words,List.forall_mem_cons] at exactly
      rw [body_block,block_word exactly.1,reference_body]
      exact ih _ exactly.2

theorem scrambleProducts_iff (k : BitVec 32) :
    scrambleProducts k.toNat = [k * Reference.c1,Reference.scramble k].map (fun w => (w.toNat : ℤ)) ↔
      ScrambleExact k := by
  rw [← scramble_exact_iff k,scrambleProducts]
  simp only [List.map_cons,List.map_nil,List.cons.injEq,and_true]

theorem bodyProducts_iff (data : List UInt8) :
    bodyProducts data = ((Reference.words data).flatMap
        (fun k => [k * Reference.c1,Reference.scramble k])).map (fun w => (w.toNat : ℤ)) ↔
      ∀ k ∈ Reference.words data, ScrambleExact k := by
  induction data using blocks_induction with
  | nil =>
      have none' : bodyProducts [] = [] := rfl
      have nothing : Reference.words [] = [] := rfl
      rw [none',nothing]
      simp
  | tail byte rest short =>
      rw [bodyProducts_tail byte rest short,reference_words_tail byte rest short,List.flatMap_singleton,scrambleProducts_iff]
      simp
  | block b0 b1 b2 b3 rest ih =>
      rw [bodyProducts_block,reference_words,List.flatMap_cons,List.map_append,List.forall_mem_cons,
        ← scrambleProducts_iff,← ih]
      constructor
      · intro same
        exact List.append_inj same ((scrambleProducts_length _).trans (length_map_pair _ _ _).symm)
      · rintro ⟨first,others⟩
        rw [first,others]

section Finalization
variable (h1 : ℤ) (length : ℕ)

theorem mixed_word : bitXor (bitXor h1 length) (ushr (bitXor h1 length) 16) =
    (Reference.mixed (word h1) length).toInt := by
  rw [bitXor_word _ (ushr _ _),ushr_word,bitXor_word,word_toInt,word_toNat,word_natCast]
  rfl

theorem remixed_word (first : product (Reference.mixed (word h1) length).toInt 0x85ebca6b =
      (Reference.mixed (word h1) length * 0x85ebca6b).toNat) :
    bitXor (product (Reference.mixed (word h1) length).toInt 0x85ebca6b)
        (ushr (product (Reference.mixed (word h1) length).toInt 0x85ebca6b) 13) =
      (Reference.remixed (word h1) length).toInt := by
  rw [first,bitXor_word,ushr_word,word_toNat,word_toNat]
  rfl

theorem finalProducts_iff :
    finalProducts h1 length =
        [Reference.mixed (word h1) length * 0x85ebca6b,Reference.remixed (word h1) length * 0xc2b2ae35].map
          (fun w => (w.toNat : ℤ)) ↔
      FinalExact (word h1) length := by
  have first := product_signed_iff (Reference.mixed (word h1) length) 0x85ebca6b (by decide)
  have second := product_signed_iff (Reference.remixed (word h1) length) 0xc2b2ae35 (by decide)
  simp only [finalProducts,mixed_word,List.map_cons,List.map_nil,List.cons.injEq,and_true]
  constructor
  · rintro ⟨same,same'⟩
    rw [remixed_word h1 length same] at same'
    exact ⟨first.mp same,second.mp same'⟩
  · rintro ⟨exact',exact''⟩
    have same : product (Reference.mixed (word h1) length).toInt 0x85ebca6b =
      (Reference.mixed (word h1) length * 0x85ebca6b).toNat := first.mpr exact'
    refine ⟨same,?_⟩
    rw [remixed_word h1 length same]
    exact second.mpr exact''

theorem finalize_word (exactly : FinalExact (word h1) length) :
    finalize h1 length = (Reference.finalize (word h1) length).toNat := by
  have both := (finalProducts_iff h1 length).mpr exactly
  simp only [finalProducts,mixed_word,List.map_cons,List.map_nil,List.cons.injEq,and_true] at both
  obtain ⟨first,second⟩ := both
  simp only [finalize,mixed_word]
  rw [second,ushr_word,BitVec.ushiftRight_zero,bitXor_word,ushr_word,word_toInt,word_toNat,word_toNat]
  rfl

end Finalization

-- The script multiplies doubles. Where no product of the reference computation needs
-- more than 53 bits the two hashes agree, and their products agree nowhere else.
theorem murmur_exact (data : List UInt8) (seed : BitVec 32) :
    (Exact data seed → hashBytes data seed.toNat = (Reference.hash data seed).toNat) ∧
      (products data seed.toNat = (Reference.products data seed).map (fun w => (w.toNat : ℤ)) ↔ Exact data seed) := by
  constructor
  · rintro ⟨scrambles,final⟩
    have reached := body_word data seed scrambles
    rw [← reached] at final
    rw [hashBytes,finalize_word _ _ final,reached,Int.toNat_natCast,Reference.hash]
  · rw [products,Reference.products,List.map_append]
    constructor
    · intro same
      obtain ⟨same,same'⟩ := List.append_inj' same ((finalProducts_length _ _).trans (length_map_pair _ _ _).symm)
      have scrambles := (bodyProducts_iff data).mp same
      have reached := body_word data seed scrambles
      rw [← reached] at same'
      have final := (finalProducts_iff _ _).mp same'
      rw [reached] at final
      exact ⟨scrambles,final⟩
    · rintro ⟨scrambles,final⟩
      have reached := body_word data seed scrambles
      rw [← reached] at final ⊢
      rw [(bodyProducts_iff data).mpr scrambles,(finalProducts_iff _ _).mpr final]

-- A published test vector of the reference.
example : Reference.hash [0x74,0x65,0x73,0x74] 0x9747b28c = 0x704b81dc := by decide +kernel

-- Two bytes under a seed with which no product has more than 53 bits.
theorem murmur_exact_bytes : hashBytes [4,3] 1214397379 = (Reference.hash [4,3] 1214397379).toNat := by
  refine (murmur_exact [4,3] 1214397379).1 ⟨?_,⟨by decide +kernel,by decide +kernel⟩⟩
  intro k listed
  have only : Reference.words [4,3] = [772] := by decide +kernel
  rw [only,List.mem_singleton] at listed
  subst k
  exact ⟨by decide +kernel,by decide +kernel⟩

theorem murmur_rounds : hashBytes [0x61] 0 = 1945630711 ∧ Reference.hash [0x61] 0 = 1009084850 := by decide +kernel

end PhantomFlow.Sketch.MurmurHash3
