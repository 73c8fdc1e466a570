import PhantomFlow.Compression.RoundTrip

namespace PhantomFlow.Compression

def declaredSize (data : List UInt8) : ℕ :=
  (data.getD 4 0).toNat + 256 * (data.getD 5 0).toNat + 65536 * (data.getD 6 0).toNat + 16777216 * (data.getD 7 0).toNat

def expandedLength : List UInt8 → ℕ
  | byte :: count :: repeated :: rest =>
    if byte = 0xFF then count.toNat + expandedLength rest else expandedLength (count :: repeated :: rest) + 1
  | _ :: rest => expandedLength rest + 1
  | [] => 0

def Headed (data : List UInt8) : Prop := 8 ≤ data.length ∧ data.take 4 = magic

instance (data : List UInt8) : Decidable (Headed data) := inferInstanceAs (Decidable (_ ∧ _))

theorem length_decodeRuns (stream : List UInt8) : (decodeRuns stream).length = expandedLength stream := by
  induction stream using decodeRuns.induct with
  | case1 count repeated rest ih =>
      rw [decodeRuns_escape,expandedLength,if_pos rfl,List.length_append,List.length_replicate,ih]
  | case2 byte count repeated rest ordinary ih =>
      rw [decodeRuns_literal ordinary,expandedLength,if_neg ordinary,List.length_cons,ih]
  | case3 byte rest short ih =>
      rw [decodeRuns,expandedLength,List.length_cons,ih]
      · exact short
      · exact short
  | case4 => rfl

namespace Lz4Compressor
variable (compressor : Lz4Compressor)

theorem decompress_ok (data : List UInt8) : ∃ x, compressor.decompress data = .ok x := by
  unfold decompress
  split
  · exact ⟨_,rfl⟩
  · exact ⟨_,rfl⟩

def Detects (data : List UInt8) : Prop :=
  ∀ x, compressor.decompress data = .ok x → Headed data ∧ declaredSize data = x.length

def RejectsPrefixes (x : List UInt8) : Prop :=
  ∀ compressed shorter, compressor.compress x = .ok compressed → shorter <+: compressed → shorter ≠ compressed →
    ∀ y, compressor.decompress shorter ≠ .ok y

theorem detects_iff (nonempty : data ≠ []) :
    compressor.Detects data ↔ Headed data ∧ declaredSize data = expandedLength (data.drop 8) := by
  have decompressed : compressor.decompress data = .ok (compressor.simpleDecompress data) := by
    rw [decompress,if_neg]
    intro none
    exact nonempty (List.isEmpty_iff.mp none)
  have expanded (headed : Headed data) :
      (compressor.simpleDecompress data).length = expandedLength (data.drop 8) := by
    rw [simpleDecompress,if_neg (Nat.not_lt_of_le headed.1),if_neg (not_not.mpr headed.2),length_decodeRuns]
  constructor
  · intro detects
    obtain ⟨headed,size⟩ := detects _ decompressed
    rw [expanded headed] at size
    exact ⟨headed,size⟩
  · intro declared x done
    rw [decompressed] at done
    cases done
    rw [expanded declared.1]
    exact declared

theorem prefixes_accepted (nonempty : x ≠ []) : ¬ compressor.RejectsPrefixes x := by
  intro rejects
  have compressed : compressor.compress x = .ok (compressor.simpleCompress x) := by
    rw [compress,if_neg]
    intro none
    exact nonempty (List.isEmpty_iff.mp none)
  obtain ⟨y,accepted⟩ := compressor.decompress_ok []
  exact rejects _ [] compressed List.nil_prefix (by simp [simpleCompress,magic]) y accepted

theorem corrupt_input_exact (d : List UInt8) (nonempty : d ≠ []) :
    (compressor.Detects d ↔ Headed d ∧ declaredSize d = expandedLength (d.drop 8)) ∧
      ∀ x ≠ [], ¬ compressor.RejectsPrefixes x :=
  ⟨compressor.detects_iff nonempty,fun _ some' => compressor.prefixes_accepted some'⟩

theorem corrupt_input_exact_byte : Detects {} (simpleCompress {} [7]) :=
  ((corrupt_input_exact {} (simpleCompress {} [7]) (by decide)).1).mpr ⟨by decide,by decide⟩

-- One byte without a header is decompressed to nothing.
theorem corrupt_byte_accepted : ¬ ∀ d ≠ [], Detects {} d := by
  intro all
  have headed := (all [0] (by decide) [] rfl).1
  exact absurd headed.1 (by decide)

end Lz4Compressor
end PhantomFlow.Compression
