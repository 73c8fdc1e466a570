import PhantomFlow.Compression.RoundTrip

namespace PhantomFlow.Compression
open Library

section Frames
variable {data rest : List UInt8}

-- Without a byte 0xFF in the data every escape of its encoding is complete, so the
-- decoder goes on after it as if from the start.
theorem decodeRuns_encodeRuns_append (plain : 0xFF ∉ data) (rest : List UInt8) :
    decodeRuns (encodeRuns 0 data ++ rest) = data ++ decodeRuns rest := by
  induction data using runs_induction with
  | nil => rfl
  | run byte n after positive ends ih =>
      have ordinary : byte ≠ 0xFF := by
        intro escape
        apply plain
        rw [escape]
        exact List.mem_append_left _ (List.mem_replicate.mpr ⟨Nat.ne_of_gt positive,rfl⟩)
      have later := ih (fun listed => plain (List.mem_append_right _ listed))
      have whole : List.replicate n byte = List.replicate (255 * (n / 255)) byte ++ List.replicate (n % 255) byte := by
        rw [← List.replicate_add,Nat.div_add_mod]
      rw [encodeRuns_replicate_append n ends,runChunks,List.append_assoc,List.append_assoc,decodeRuns_chunks,
        decodeRuns_encodeRun (by omega) (.inl ordinary),later,whole]
      simp only [List.append_assoc]

-- The last two bytes of a size are no escapes. The first two may be, and then take
-- their count and their byte from the size.
theorem decodeRuns_size (third : c ≠ 0xFF) (a b : UInt8) (rest : List UInt8) :
    ∃ read, decodeRuns (a :: b :: c :: 0 :: rest) = read ++ decodeRuns rest := by
  have zero : (0 : UInt8) ≠ 0xFF := by decide
  by_cases first : a = 0xFF
  · refine ⟨List.replicate b.toNat c ++ [0],?_⟩
    rw [first,decodeRuns_escape,decodeRuns_literal zero,List.append_assoc]
    rfl
  · by_cases second : b = 0xFF
    · refine ⟨a :: List.replicate c.toNat 0,?_⟩
      rw [decodeRuns_literal first,second,decodeRuns_escape]
      rfl
    · refine ⟨[a,b,c,0],?_⟩
      rw [decodeRuns_literal first,decodeRuns_literal second,decodeRuns_literal third,decodeRuns_literal zero]
      rfl

theorem decodeRuns_header (size : ℕ) (small : size ≤ 65536) (rest : List UInt8) :
    ∃ read, decodeRuns (magic ++ toLeBytes (UInt32.ofNat size) ++ rest) = magic ++ read ++ decodeRuns rest := by
  have value : (UInt32.ofNat size).toNat = size := by
    rw [UInt32.toNat_ofNat']
    omega
  have third : (UInt32.ofNat size >>> 16).toUInt8 ≠ 0xFF := by
    intro escape
    have number := congrArg UInt8.toNat escape
    rw [UInt32.toNat_toUInt8,UInt32.toNat_shiftRight,value] at number
    change size >>> 16 % 256 = 255 at number
    rw [Nat.shiftRight_eq_div_pow] at number
    omega
  have fourth : (UInt32.ofNat size >>> 24).toUInt8 = 0 := by
    apply UInt8.toNat_inj.mp
    rw [UInt32.toNat_toUInt8,UInt32.toNat_shiftRight,value]
    change size >>> 24 % 256 = 0
    rw [Nat.shiftRight_eq_div_pow]
    omega
  obtain ⟨read,sized⟩ := decodeRuns_size third (UInt32.ofNat size).toUInt8 (UInt32.ofNat size >>> 8).toUInt8 rest
  refine ⟨read,?_⟩
  rw [toLeBytes,fourth,magic]
  simp only [List.cons_append,List.nil_append]
  rw [decodeRuns_literal (by decide),decodeRuns_literal (by decide),decodeRuns_literal (by decide),
    decodeRuns_literal (by decide),sized]

end Frames

namespace Lz4Compressor
variable (compressor : Lz4Compressor)

def framesOf (chunks : List (List UInt8)) : List UInt8 := chunks.flatMap compressor.simpleCompress

theorem compressStream_frames {chunks : List (List UInt8)} (nonempty : ∀ chunk ∈ chunks, chunk ≠ []) :
    (compressor.compressStream (chunks.map .ok)).2 = compressor.framesOf chunks := by
  induction chunks with
  | nil => rfl
  | cons chunk rest ih =>
      obtain ⟨first,others⟩ := List.forall_mem_cons.mp nonempty
      have filled : chunk.isEmpty = false := by
        rw [List.isEmpty_eq_false_iff]
        exact first
      simp only [List.map_cons,compressStream,compress,filled,Bool.false_eq_true,if_false,framesOf,List.flatMap_cons]
      rw [ih others]
      rfl

theorem decodeRuns_frames_longer {chunks : List (List UInt8)} (plain : ∀ chunk ∈ chunks, 0xFF ∉ chunk)
    (small : ∀ chunk ∈ chunks, chunk.length ≤ 65536) :
    chunks.flatten.length + 4 * chunks.length ≤ (decodeRuns (compressor.framesOf chunks)).length := by
  induction chunks with
  | nil => exact Nat.zero_le _
  | cons chunk rest ih =>
      obtain ⟨first,others⟩ := List.forall_mem_cons.mp plain
      obtain ⟨little,fewer⟩ := List.forall_mem_cons.mp small
      obtain ⟨read,header⟩ := decodeRuns_header chunk.length little (encodeRuns 0 chunk ++ compressor.framesOf rest)
      have later := ih others fewer
      have decoded : decodeRuns (compressor.framesOf (chunk :: rest)) =
          magic ++ read ++ (chunk ++ decodeRuns (compressor.framesOf rest)) := by
        rw [← decodeRuns_encodeRuns_append first,← header,framesOf,List.flatMap_cons,simpleCompress]
        simp only [List.append_assoc]
        rfl
      have four : magic.length = 4 := rfl
      rw [decoded,List.flatten_cons]
      simp only [List.length_append,List.length_cons,four]
      omega

theorem decompress_frames (chunk : List UInt8) (rest : List (List UInt8)) (plain : 0xFF ∉ chunk) :
    compressor.decompress (compressor.framesOf (chunk :: rest)) =
      .ok (chunk ++ decodeRuns (compressor.framesOf rest)) := by
  have frames : compressor.framesOf (chunk :: rest) =
      magic ++ (toLeBytes (UInt32.ofNat chunk.length) ++ (encodeRuns 0 chunk ++ compressor.framesOf rest)) := by
    rw [framesOf,List.flatMap_cons,simpleCompress]
    simp only [List.append_assoc]
    rfl
  rw [frames,decompress,if_neg (by simp [magic]),simpleDecompress,if_neg (by simp [magic,toLeBytes]),
    if_neg (by simp [magic]),← decodeRuns_encodeRuns_append plain]
  simp [magic,toLeBytes]

theorem stream_decodable_exact (level : UInt32) (chunks : List (List UInt8)) (plain : 0xFF ∉ chunks.flatten)
    (reads : ∀ chunk ∈ chunks, chunk ≠ [] ∧ chunk.length ≤ (withLevel level).blockSize) :
    (withLevel level).decompress ((withLevel level).compressStream (chunks.map .ok)).2 = .ok chunks.flatten ↔
      chunks.length ≤ 1 := by
  have everywhere : ∀ chunk ∈ chunks, 0xFF ∉ chunk := by
    intro chunk listed escape
    exact plain (List.mem_flatten_of_mem listed escape)
  rw [compressStream_frames _ (fun chunk listed => (reads chunk listed).1)]
  cases chunks with
  | nil => exact iff_of_true rfl (Nat.zero_le 1)
  | cons chunk rest =>
      obtain ⟨first,others⟩ := List.forall_mem_cons.mp everywhere
      have small : ∀ later ∈ rest, later.length ≤ 65536 :=
        fun later listed => (reads later (List.mem_cons_of_mem chunk listed)).2
      have longer := decodeRuns_frames_longer (withLevel level) others small
      rw [decompress_frames _ chunk rest first,Except.ok.injEq,List.flatten_cons,List.append_cancel_left_eq,
        List.length_cons]
      constructor
      · intro same
        rw [same] at longer
        omega
      · intro few
        have none : rest = [] := List.eq_nil_of_length_eq_zero (by omega)
        rw [none]
        rfl

theorem stream_decodable_exact_once :
    (withLevel 1).decompress ((withLevel 1).compressStream ([[1,1,1,1,2]].map .ok)).2 = .ok [1,1,1,1,2] :=
  (stream_decodable_exact 1 [[1,1,1,1,2]] (by decide) (by decide)).mpr (by decide)

-- Two reads of one byte each.
theorem second_frame_read_as_data :
    ¬ ∀ chunks : List (List UInt8), 0xFF ∉ chunks.flatten →
      (∀ chunk ∈ chunks, chunk ≠ [] ∧ chunk.length ≤ (withLevel 1).blockSize) →
      (withLevel 1).decompress ((withLevel 1).compressStream (chunks.map .ok)).2 = .ok chunks.flatten := by
  intro all
  have decoded := all [[1],[2]] (by decide) (by decide)
  have garbled : (withLevel 1).decompress ((withLevel 1).compressStream ([[1],[2]].map .ok)).2 =
      .ok [1,0x4C,0x5A,0x34,0x01,1,0,0,0,2] := by decide
  rw [garbled] at decoded
  cases decoded

end Lz4Compressor
end PhantomFlow.Compression
