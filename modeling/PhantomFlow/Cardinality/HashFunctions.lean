import Mathlib.Data.Nat.Bitwise

namespace PhantomFlow.Cardinality

inductive HashType where
  | murmur3 | xxhash | fnv1a
  deriving DecidableEq

def bytesOf (text : String) : List ℕ := text.toUTF8.data.toList.map UInt8.toNat

-- Big integers: only the products and rotations are cut to 64 bits, the sums are not.
namespace MurmurHash3_64

def mask : ℕ := 0xFFFFFFFFFFFFFFFF
def C1 : ℕ := 0x87c37b91114253d5
def C2 : ℕ := 0x4cf5ad432745937f
def R1 : ℕ := 31
def R2 : ℕ := 27
def M : ℕ := 5
def N1 : ℕ := 0x52dce729
def N2 : ℕ := 0x38495ab5

def multiply64 (a b : ℕ) : ℕ := (a * b) &&& mask
def rotateLeft64 (value shift : ℕ) : ℕ := ((value <<< shift) ||| (value >>> (64 - shift))) &&& mask

def fmix64 (k : ℕ) : ℕ :=
  let k := k ^^^ (k >>> 33)
  let k := multiply64 k 0xff51afd7ed558ccd
  let k := k ^^^ (k >>> 33)
  let k := multiply64 k 0xc4ceb9fe1a85ec53
  k ^^^ (k >>> 33)

def readUInt32LE (bytes : List ℕ) (offset : ℕ) : ℕ :=
  bytes.getD offset 0 + 256 * bytes.getD (offset + 1) 0 + 65536 * bytes.getD (offset + 2) 0 +
    16777216 * bytes.getD (offset + 3) 0

def readUInt64LE (bytes : List ℕ) (offset : ℕ) : ℕ :=
  (readUInt32LE bytes (offset + 4) <<< 32) ||| readUInt32LE bytes offset

def mix1 (k1 : ℕ) : ℕ := multiply64 (rotateLeft64 (multiply64 k1 C1) R1) C2
def mix2 (k2 : ℕ) : ℕ := multiply64 (rotateLeft64 (multiply64 k2 C2) 33) C1

def block (bytes : List ℕ) (h : ℕ × ℕ) (i : ℕ) : ℕ × ℕ :=
  let h1 := multiply64 (rotateLeft64 (h.1 ^^^ mix1 (readUInt64LE bytes (i * 16))) R2 + h.2) M + N1
  let h2 := multiply64 (rotateLeft64 (h.2 ^^^ mix2 (readUInt64LE bytes (i * 16 + 8))) R1 + h1) M + N2
  (h1,h2)

def gather (bytes : List ℕ) (tail remaining first count : ℕ) : ℕ :=
  (List.range count).reverse.foldl (fun k i =>
    if first + i + 1 ≤ remaining then k ^^^ (bytes.getD (tail + first + i) 0 <<< (8 * i)) else k) 0

def hash (bytes : List ℕ) (seed : ℕ) : ℕ :=
  let nblocks := bytes.length / 16
  let (h1,h2) := (List.range nblocks).foldl (block bytes) (seed,seed)
  let tail := nblocks * 16
  let remaining := bytes.length % 16
  let h2 := if 9 ≤ remaining then h2 ^^^ mix2 (gather bytes tail remaining 8 7) else h2
  let h1 := if 1 ≤ remaining then h1 ^^^ mix1 (gather bytes tail remaining 0 8) else h1
  let h1 := h1 ^^^ bytes.length
  let h2 := h2 ^^^ bytes.length
  let h1 := h1 + h2
  let h2 := h2 + h1
  fmix64 h1 + fmix64 h2

end MurmurHash3_64

namespace FNV1aHash

def FNV_OFFSET_BASIS : ℕ := 0xcbf29ce484222325
def FNV_PRIME : ℕ := 0x100000001b3

def hash (bytes : List ℕ) : ℕ :=
  bytes.foldl (fun hash byte => ((hash ^^^ byte) * FNV_PRIME) &&& MurmurHash3_64.mask) FNV_OFFSET_BASIS

end FNV1aHash

-- `xxhash` falls back to MurmurHash3.
def createHashFunction : HashType → String → ℕ
  | .murmur3,data | .xxhash,data => MurmurHash3_64.hash (bytesOf data) 0
  | .fnv1a,data => FNV1aHash.hash (bytesOf data)

-- The scan from bit `bits - 1` downwards; it stops at the first set bit.
def countLeadingZeros (value : ℕ) : ℕ → ℕ
  | 0 => 0
  | bits + 1 => if value &&& (1 <<< bits) = 0 then countLeadingZeros value bits + 1 else 0

def extractBucket (hash precision : ℕ) : ℕ := hash &&& ((1 <<< precision) - 1)

def extractValue (hash precision : ℕ) : ℕ := hash >>> precision

-- An all-zero value part counts every remaining bit; `countLeadingZeros` has the
-- same shortcut, which the scan itself reaches.
def getLeadingZeroCount (hash precision : ℕ) : ℕ :=
  let value := extractValue hash precision
  if value = 0 then 64 - precision + 1 else countLeadingZeros value (64 - precision) + 1

theorem extractBucket_lt (hash precision : ℕ) : extractBucket hash precision < 2 ^ precision := by
  rw [extractBucket,Nat.one_shiftLeft,Nat.and_two_pow_sub_one_eq_mod]
  exact Nat.mod_lt _ (Nat.two_pow_pos precision)

end PhantomFlow.Cardinality
