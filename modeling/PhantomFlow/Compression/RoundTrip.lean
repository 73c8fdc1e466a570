import Mathlib.Algebra.Ring.Nat
import PhantomFlow.Compression.Lz4Compressor
import PhantomFlow.Library.MaximalRuns

namespace PhantomFlow.Compression
open Library

section Encoder

theorem encodeRuns_skip (skip : ℕ) (data : List UInt8) : encodeRuns skip data = encodeRuns 0 (data.drop skip) := by
  induction skip generalizing data with
  | zero => rfl
  | succ skip ih =>
      cases data with
      | nil => rfl
      | cons byte rest => exact ih rest

theorem countRun_replicate (bound : count ≤ 255) (ends : after.head? ≠ some byte) :
    countRun byte count (List.replicate n byte ++ after) = min 255 (count + n) := by
  induction n generalizing count with
  | zero =>
      cases after with
      | nil => simp [countRun]; omega
      | cons next rest =>
          have other : next ≠ byte := by simpa using ends
          simp [countRun,other]; omega
  | succ n ih =>
      rw [List.replicate_succ,List.cons_append,countRun]
      by_cases room : count < 255
      · rw [if_pos ⟨rfl,room⟩,ih room]; omega
      · rw [if_neg (by omega)]; omega

def runChunks (byte : UInt8) (n : ℕ) : List UInt8 :=
  (List.replicate (n / 255) [0xFF,255,byte]).flatten ++ encodeRun byte (n % 255)

theorem encodeRuns_replicate_append (n : ℕ) (ends : after.head? ≠ some byte) :
    encodeRuns 0 (List.replicate n byte ++ after) = runChunks byte n ++ encodeRuns 0 after := by
  induction n using Nat.strongRecOn with
  | ind n ih =>
      cases n with
      | zero => simp [runChunks,encodeRun]
      | succ n =>
          rw [List.replicate_succ,List.cons_append,encodeRuns,countRun_replicate (by omega) ends,encodeRuns_skip]
          by_cases short : n + 1 < 255
          · have whole : min 255 (1 + n) = n + 1 := by omega
            have done : (List.replicate n byte ++ after).drop n = after := List.drop_left' (by simp)
            simp only [whole,Nat.add_sub_cancel,done,runChunks,Nat.div_eq_of_lt short,Nat.mod_eq_of_lt short,
              List.replicate_zero,List.flatten_nil,List.nil_append]
          · have full : min 255 (1 + n) = 255 := by omega
            have left : (List.replicate n byte ++ after).drop 254 = List.replicate (n - 254) byte ++ after := by
              rw [List.drop_append_of_le_length (by simp; omega),List.drop_replicate]
            have quotient : (n + 1) / 255 = (n - 254) / 255 + 1 := by omega
            have remainder : (n + 1) % 255 = (n - 254) % 255 := by omega
            simp only [full]
            rw [left,ih (n - 254) (by omega),runChunks,runChunks,quotient,remainder,List.replicate_succ,
              List.flatten_cons]
            simp [encodeRun]

def runCost (n : ℕ) : ℕ := 3 * (n / 255) + min 3 (n % 255)

theorem length_encodeRun (byte : UInt8) (count : ℕ) : (encodeRun byte count).length = min 3 count := by
  unfold encodeRun
  split
  · simp; omega
  · rw [List.length_replicate]; omega

theorem length_runChunks (byte : UInt8) (n : ℕ) : (runChunks byte n).length = runCost n := by
  simp only [runChunks,runCost,List.length_append,length_encodeRun,List.length_flatten,List.map_replicate,
    List.length_cons,List.length_nil,List.sum_replicate_nat]
  omega

theorem length_encodeRuns_replicate (n : ℕ) (ends : after.head? ≠ some byte) :
    (encodeRuns 0 (List.replicate n byte ++ after)).length = runCost n + (encodeRuns 0 after).length := by
  rw [encodeRuns_replicate_append n ends,List.length_append,length_runChunks]

theorem le_length_encodeRuns (data : List UInt8) : min 3 data.length ≤ (encodeRuns 0 data).length := by
  induction data using runs_induction with
  | nil => simp
  | run byte n after positive ends ih =>
      rw [length_encodeRuns_replicate n ends,List.length_append,List.length_replicate,runCost]
      omega

theorem length_encodeRuns_repeat (bound : count ≤ 255) (byte : UInt8) (data : List UInt8) :
    (encodeRuns 0 (List.replicate count byte ++ data)).length ≤ min 3 count + (encodeRuns 0 data).length := by
  obtain ⟨n,after,equal,ends⟩ := exists_head_run byte data
  rw [equal,← List.append_assoc,← List.replicate_add,length_encodeRuns_replicate _ ends,
    length_encodeRuns_replicate _ ends,runCost,runCost]
  omega

end Encoder

section Decoder

theorem decodeRuns_escape (count repeated : UInt8) (rest : List UInt8) :
    decodeRuns (0xFF :: count :: repeated :: rest) = List.replicate count.toNat repeated ++ decodeRuns rest := by
  rw [decodeRuns,if_pos rfl]

theorem decodeRuns_literal (ordinary : byte ≠ 0xFF) (rest : List UInt8) :
    decodeRuns (byte :: rest) = byte :: decodeRuns rest := by
  match rest with
  | [] => rfl
  | [_] => rfl
  | _ :: _ :: _ => rw [decodeRuns,if_neg ordinary]

theorem decodeRuns_short (short : data.length ≤ 2) : decodeRuns data = data := by
  match data with
  | [] => rfl
  | [_] => rfl
  | [_,_] => rfl
  | _ :: _ :: _ :: _ => simp at short

theorem decodeRuns_literals (ordinary : byte ≠ 0xFF) (n : ℕ) (rest : List UInt8) :
    decodeRuns (List.replicate n byte ++ rest) = List.replicate n byte ++ decodeRuns rest := by
  induction n with
  | zero => rfl
  | succ n ih => rw [List.replicate_succ,List.cons_append,decodeRuns_literal ordinary,ih,List.cons_append]

theorem decodeRuns_chunks (q : ℕ) (byte : UInt8) (rest : List UInt8) :
    decodeRuns ((List.replicate q [0xFF,255,byte]).flatten ++ rest) = List.replicate (255 * q) byte ++ decodeRuns rest := by
  induction q with
  | zero => rfl
  | succ q ih =>
      have grow : 255 * (q + 1) = 255 + 255 * q := by omega
      rw [List.replicate_succ,List.flatten_cons,List.append_assoc,List.cons_append,List.cons_append,List.cons_append,
        List.nil_append,decodeRuns_escape,ih,grow,List.replicate_add,List.append_assoc]
      rfl

theorem decodeRuns_encodeRun (bound : count ≤ 255) (written : byte ≠ 0xFF ∨ count = 0 ∨ 3 < count)
    (rest : List UInt8) :
    decodeRuns (encodeRun byte count ++ rest) = List.replicate count byte ++ decodeRuns rest := by
  unfold encodeRun
  split
  · have same : (UInt8.ofNat count).toNat = count := by simp; omega
    rw [List.cons_append,List.cons_append,List.cons_append,List.nil_append,decodeRuns_escape,same]
  · rcases written with ordinary | none | long
    · exact decodeRuns_literals ordinary count rest
    · subst none; rfl
    · contradiction

theorem length_encodeRuns_decodeRuns (stream : List UInt8) :
    (encodeRuns 0 (decodeRuns stream)).length ≤ stream.length := by
  induction stream using decodeRuns.induct with
  | case1 count repeated rest ih =>
      have cost := length_encodeRuns_repeat (Nat.le_of_lt_succ count.toNat_lt) repeated (decodeRuns rest)
      rw [decodeRuns_escape]
      simp only [List.length_cons]
      omega
  | case2 byte count repeated rest ordinary ih =>
      have cost := length_encodeRuns_repeat (show 1 ≤ 255 by omega) byte (decodeRuns (count :: repeated :: rest))
      rw [decodeRuns_literal ordinary]
      simp only [List.length_cons] at ih ⊢
      simp only [List.replicate_one,List.singleton_append] at cost
      omega
  | case3 byte rest short ih =>
      have cost := length_encodeRuns_repeat (show 1 ≤ 255 by omega) byte (decodeRuns rest)
      rw [decodeRuns]
      · simp only [List.replicate_one,List.singleton_append] at cost
        simp only [List.length_cons]
        omega
      · exact short
  | case4 => simp [decodeRuns,encodeRuns]

end Decoder

-- What of a run of 0xFF is not written as an escape is read as one, unless less
-- than two bytes follow.
def Readable (n : ℕ) (after : List UInt8) : Prop := n % 255 = 0 ∨ 3 < n % 255 ∨ n % 255 + after.length ≤ 2

theorem encodeRuns_short (short : data.length ≤ 2) : encodeRuns 0 data = data := by
  match data with
  | [] => rfl
  | [_] => rfl
  | [first,second] =>
      by_cases same : second = first
      · subst second; simp [encodeRuns,countRun,encodeRun]
      · simp [encodeRuns,countRun,encodeRun,same]
  | _ :: _ :: _ :: _ => simp at short

theorem exposed_escape {stream : List UInt8} (positive : 0 < count) (bound : count ≤ 3)
    (long : 3 ≤ count + stream.length) :
    ∃ c repeated rest, List.replicate count 0xFF ++ stream = 0xFF :: c :: repeated :: rest ∧ (count = 3 → c = 0xFF) := by
  match count,stream with
  | 0,_ => omega
  | 1,[] | 1,[_] | 2,[] => simp at long
  | 1,c :: repeated :: rest => exact ⟨c,repeated,rest,rfl,by simp⟩
  | 2,repeated :: rest => exact ⟨0xFF,repeated,rest,rfl,by simp⟩
  | 3,rest => exact ⟨0xFF,0xFF,rest,rfl,fun _ => rfl⟩

-- An escape misread here stands for less than three bytes of the data, or it would
-- start with three bytes 0xFF and stand for 255. So the decoder would have a shorter
-- stream for the same data than the encoder.
theorem decodeRuns_misread (positive : 0 < count) (bound : count ≤ 3) (ends : after.head? ≠ some 0xFF)
    (long : 2 < count + after.length) :
    decodeRuns (List.replicate count 0xFF ++ encodeRuns 0 after) ≠ List.replicate count 0xFF ++ after := by
  intro same
  have size : (encodeRuns 0 (List.replicate count 0xFF ++ after)).length = count + (encodeRuns 0 after).length := by
    rw [length_encodeRuns_replicate count ends,runCost]
    omega
  have enough := le_length_encodeRuns after
  have long' : 3 ≤ count + (encodeRuns 0 after).length := by omega
  obtain ⟨c,repeated,rest,stream,third⟩ := exposed_escape positive bound long'
  rw [stream,decodeRuns_escape] at same
  have streamSize := congrArg List.length stream
  simp only [List.length_append,List.length_replicate,List.length_cons] at streamSize
  have cheap := length_encodeRuns_repeat (Nat.le_of_lt_succ c.toNat_lt) repeated (decodeRuns rest)
  have rest' := length_encodeRuns_decodeRuns rest
  rw [same,size] at cheap
  have copies : 3 ≤ c.toNat := by omega
  have leads : repeated = 0xFF := by
    have heads := congrArg List.head? same
    obtain ⟨m,extra⟩ : ∃ m, c.toNat = m + 1 := ⟨c.toNat - 1,by omega⟩
    obtain ⟨k,more⟩ : ∃ k, count = k + 1 := ⟨count - 1,by omega⟩
    simpa [extra,more,List.replicate_succ] using heads
  subst repeated
  obtain ⟨more,tail,equal,stops⟩ := exists_head_run 0xFF (decodeRuns rest)
  rw [equal,← List.append_assoc,← List.replicate_add] at same
  have lengths := (replicate_append_unique stops ends same).1
  have full : c = 0xFF := third (by omega)
  rw [full] at lengths
  have value : (0xFF : UInt8).toNat = 255 := rfl
  omega

theorem roundTrip_replicate (n : ℕ) (ends : after.head? ≠ some byte) :
    decodeRuns (encodeRuns 0 (List.replicate n byte ++ after)) = List.replicate n byte ++ after ↔
      (byte = 0xFF → Readable n after) ∧ decodeRuns (encodeRuns 0 after) = after := by
  have split : List.replicate n byte = List.replicate (255 * (n / 255)) byte ++ List.replicate (n % 255) byte := by
    rw [← List.replicate_add,Nat.div_add_mod]
  rw [encodeRuns_replicate_append n ends,runChunks,List.append_assoc,decodeRuns_chunks,split,List.append_assoc,
    List.append_cancel_left_eq]
  by_cases written : byte ≠ 0xFF ∨ n % 255 = 0 ∨ 3 < n % 255
  · rw [decodeRuns_encodeRun (by omega) written,List.append_cancel_left_eq]
    constructor
    · intro same
      refine ⟨fun escape => ?_,same⟩
      rcases written with ordinary | none | many
      · exact absurd escape ordinary
      · exact .inl none
      · exact .inr (.inl many)
    · exact And.right
  · have escape : byte = 0xFF := by
      by_contra ordinary
      exact written (.inl ordinary)
    subst byte
    have few : 0 < n % 255 ∧ n % 255 ≤ 3 := by omega
    rw [encodeRun,if_neg (by omega)]
    constructor
    · intro same
      by_cases short : n % 255 + after.length ≤ 2
      · refine ⟨fun _ => .inr (.inr short),?_⟩
        rw [encodeRuns_short (by omega),decodeRuns_short (by omega)]
      · exact absurd same (decodeRuns_misread few.1 few.2 ends (by omega))
    · intro both
      have short : n % 255 + after.length ≤ 2 := by
        rcases both.1 rfl with none | many | short
        · omega
        · omega
        · exact short
      rw [encodeRuns_short (by omega),decodeRuns_short (by simp; omega)]

theorem roundTrip_iff (data : List UInt8) :
    decodeRuns (encodeRuns 0 data) = data ↔ EveryRun 0xFF Readable data := by
  induction data using runs_induction with
  | nil => simp [encodeRuns,decodeRuns]
  | run byte n after positive ends ih =>
      rw [roundTrip_replicate n ends,everyRun_replicate_append positive ends,ih]

namespace Lz4Compressor

theorem simpleDecompress_simpleCompress (compressor : Lz4Compressor) (data : List UInt8) :
    compressor.simpleDecompress (compressor.simpleCompress data) = decodeRuns (encodeRuns 0 data) := by
  have long : ¬ (compressor.simpleCompress data).length < 8 := by simp [simpleCompress,magic,toLeBytes]
  rw [simpleDecompress,if_neg long]
  simp [simpleCompress,magic,toLeBytes]

theorem decompress_compress_iff (compressor : Lz4Compressor) (d : List UInt8) :
    compressor.compress d >>= compressor.decompress = .ok d ↔
      ∀ before n after, d = before ++ List.replicate n 0xFF ++ after → 0 < n →
        before.getLast? ≠ some 0xFF → after.head? ≠ some 0xFF →
        n % 255 = 0 ∨ 3 < n % 255 ∨ n % 255 + after.length ≤ 2 := by
  change _ ↔ EveryRun 0xFF Readable d
  rw [← roundTrip_iff]
  cases d with
  | nil => simp [compress,decompress,encodeRuns,decodeRuns,bind,Except.bind]
  | cons byte rest =>
      have written : (compressor.simpleCompress (byte :: rest)).isEmpty = false := rfl
      simp [compress,decompress,bind,Except.bind,written,simpleDecompress_simpleCompress]

-- The escape 0xFF 0x00 0x01 stands for no byte at all.
theorem unescaped_literal_lost :
    ¬ ∀ d : List UInt8, d.length < 2 ^ 32 → (Lz4Compressor.compress {} d >>= Lz4Compressor.decompress {}) = .ok d := by
  intro all
  have lost : (Lz4Compressor.compress {} [0xFF,0x00,0x01] >>= Lz4Compressor.decompress {}) = .ok [] := by rfl
  have kept := all [0xFF,0x00,0x01] (by decide)
  rw [lost] at kept
  cases kept

end Lz4Compressor

end PhantomFlow.Compression
