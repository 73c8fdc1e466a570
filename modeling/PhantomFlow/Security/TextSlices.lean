import PhantomFlow.Security.SecurityEngine

namespace PhantomFlow.Security
open Library Analysis
open PatternMatcher (extractContext findPatternMatches)
open String (utf8Len)

section Bytes
variable {text rest : List Char} {n : ℕ}

theorem dropBytes_parts (dropped : dropBytes text n = some rest) : ∃ before, text = before ++ rest ∧ utf8Len before = n := by
  fun_induction dropBytes text n with
  | case1 text =>
      cases dropped
      exact ⟨[],rfl,rfl⟩
  | case2 => cases dropped
  | case3 c text n fits ih =>
      obtain ⟨before,rfl,length⟩ := ih dropped
      refine ⟨c :: before,rfl,?_⟩
      rw [String.utf8Len_cons,length]
      exact Nat.sub_add_cancel fits
  | case4 => cases dropped

theorem dropBytes_isSome_iff (text : List Char) (n : ℕ) : (dropBytes text n).isSome = true ↔ CharBoundary text n := by
  fun_induction dropBytes text n with
  | case1 text => exact ⟨fun _ => charBoundary_zero text,fun _ => rfl⟩
  | case2 n =>
      rw [charBoundary_nil]
      exact ⟨fun none => absurd none (by decide),fun zero => absurd zero (Nat.succ_ne_zero n)⟩
  | case3 c text n fits ih =>
      rw [ih,charBoundary_cons,or_iff_right (Nat.succ_ne_zero n)]
      exact (and_iff_right fits).symm
  | case4 c text n short =>
      rw [charBoundary_cons,or_iff_right (Nat.succ_ne_zero n)]
      exact ⟨fun none => absurd none (by decide),fun both => absurd both.1 short⟩

theorem takeBytes_isSome (text : List Char) (n : ℕ) : (takeBytes text n).isSome = (dropBytes text n).isSome := by
  fun_induction takeBytes text n with
  | case1 text => simp [dropBytes]
  | case2 n => rfl
  | case3 c text n fits ih => simp [dropBytes,fits,ih]
  | case4 c text n short => simp [dropBytes,short]

theorem takeBytes_isSome_iff (text : List Char) (n : ℕ) : (takeBytes text n).isSome = true ↔ CharBoundary text n := by
  rw [takeBytes_isSome,dropBytes_isSome_iff]

end Bytes

theorem sliceBytes_isSome_iff (text : String) (start finish : ℕ) : (sliceBytes text start finish).isSome = true ↔
    start ≤ finish ∧ CharBoundary text.toList start ∧ CharBoundary text.toList finish := by
  rw [sliceBytes]
  split
  · rename_i ordered
    rw [Option.isSome_map,and_iff_right ordered]
    cases dropped : dropBytes text.toList start with
    | none =>
        have off := (dropBytes_isSome_iff text.toList start).not.mp (by rw [dropped]; decide)
        exact ⟨fun none => absurd none Bool.false_ne_true,fun both => absurd both.1 off⟩
    | some rest =>
        have on := (dropBytes_isSome_iff text.toList start).mp (by rw [dropped]; rfl)
        obtain ⟨before,parts,length⟩ := dropBytes_parts dropped
        have moved : CharBoundary text.toList finish ↔ CharBoundary rest (finish - start) := by
          have total : utf8Len before + (finish - start) = finish := by rw [length]; exact Nat.add_sub_cancel' ordered
          rw [parts,← total]
          exact (charBoundary_append before).trans (by rw [total])
        rw [Option.bind_some,takeBytes_isSome_iff,moved]
        exact (and_iff_right on).symm
  · rename_i crossed
    exact ⟨fun none => absurd none (by decide),fun both => absurd both.1 crossed⟩

-- What the regex crate promises of a match.
structure MatchRange (text : String) (start finish : ℕ) : Prop where
  ordered : start ≤ finish
  first : CharBoundary text.toList start
  last : CharBoundary text.toList finish

theorem MatchRange.inside (range : MatchRange text start finish) : finish ≤ text.utf8ByteSize := by
  rw [← String.utf8Len_toList]
  exact range.last.le_length

-- The two ends of the context, moved from the match by half the context length.
def contextStart (config : MatchingConfig) (start : ℕ) : ℕ := start - config.maxContextLength / 2

def contextEnd (config : MatchingConfig) (text : String) (finish : ℕ) : ℕ :=
  min (finish + config.maxContextLength / 2) text.utf8ByteSize

theorem extractContext_isSome_iff (config : MatchingConfig) (range : MatchRange text start finish) :
    (extractContext config text start finish).isSome = true ↔
      ¬Straddled text.toList (contextStart config start) ∧ ¬Straddled text.toList (contextEnd config text finish) := by
  have inside := range.inside
  have ordered := range.ordered
  have within : contextEnd config text finish ≤ utf8Len text.toList := by
    rw [String.utf8Len_toList]
    exact min_le_right _ _
  have crossing : contextStart config start ≤ contextEnd config text finish := by
    rw [contextStart,contextEnd]
    omega
  rw [← charBoundary_iff_not_straddled (crossing.trans within),← charBoundary_iff_not_straddled within,extractContext,
    Option.isSome_map,sliceBytes_isSome_iff]
  exact and_iff_right crossing

theorem contextOf_isSome_iff (content : String) :
    (contextOf content).isSome = true ↔ ¬Straddled content.toList (min 100 content.utf8ByteSize) := by
  have within : min 100 content.utf8ByteSize ≤ utf8Len content.toList := by
    rw [String.utf8Len_toList]
    exact min_le_right _ _
  rw [← charBoundary_iff_not_straddled within,contextOf,sliceBytes_isSome_iff,and_iff_right (Nat.zero_le _)]
  exact and_iff_right (charBoundary_zero _)

theorem findPatternMatches_isSome_iff (crate : RegexCrate R) (config : MatchingConfig) (text : String)
    (pattern : CompiledPattern R)
    (ranges : ∀ entry ∈ crate.findIter (pattern.regex.getD crate.empty) text, MatchRange text entry.1 entry.2.1) :
    (findPatternMatches crate config text pattern).isSome = true ↔
      ∀ entry ∈ crate.findIter (pattern.regex.getD crate.empty) text,
        ¬Straddled text.toList (contextStart config entry.1) ∧ ¬Straddled text.toList (contextEnd config text entry.2.1) := by
  rw [findPatternMatches,mapM_isSome_iff]
  apply forall₂_congr
  intro entry listed
  rw [← extractContext_isSome_iff config (ranges entry listed)]
  cases cut : extractContext config text entry.1 entry.2.1 with
  | none => simp [cut]
  | some context => simp [cut]

theorem extractContext_ascii (config : MatchingConfig) (range : MatchRange text start finish)
    (ascii : ∀ c ∈ text.toList, c.utf8Size = 1) : (extractContext config text start finish).isSome = true := by
  have clear (offset : ℕ) : ¬Straddled text.toList offset := by
    rintro ⟨before,c,after,parts,above,below⟩
    rw [ascii c (by rw [parts]; simp)] at below
    omega
  exact (extractContext_isSome_iff config range).mpr ⟨clear _,clear _⟩

theorem extractContext_narrow (config : MatchingConfig) (range : MatchRange text start finish)
    (narrow : config.maxContextLength < 2) : (extractContext config text start finish).isSome = true := by
  have none : config.maxContextLength / 2 = 0 := Nat.div_eq_of_lt narrow
  have inside := range.inside
  have before := range.first.le_length
  rw [extractContext_isSome_iff config range,contextStart,contextEnd,none,Nat.sub_zero,Nat.add_zero,min_eq_left inside,
    ← charBoundary_iff_not_straddled before,← charBoundary_iff_not_straddled range.last.le_length]
  exact ⟨range.first,range.last⟩

theorem slices_exact (config : MatchingConfig) (range : MatchRange text start finish) (signature : ThreatSignature)
    (request : SecurityAnalysisRequest) :
    ((extractContext config text start finish).isSome = true ↔
      ¬Straddled text.toList (contextStart config start) ∧ ¬Straddled text.toList (contextEnd config text finish)) ∧
    ((matchSignature signature request).isSome = true ↔ patternFound request signature = false ∨
      ¬Straddled (contentToCheck request).toList (min 100 (contentToCheck request).utf8ByteSize)) := by
  refine ⟨extractContext_isSome_iff config range,?_⟩
  rw [matchSignature_isSome_iff,contextOf_isSome_iff]

def boundaryRequest : SecurityAnalysisRequest :=
  ⟨"3","curl",String.ofList ("/bin/sh".toList ++ List.replicate 91 'a' ++ ['é']),[]⟩

theorem slices_exact_accents : (extractContext { maxContextLength := 4 } "éaébéc" 5 6).isSome = true ∧
    (matchSignature criticalSignature boundaryRequest).isSome = true := by
  have first : CharBoundary "éaébéc".toList 5 := ⟨"éaé".toList,by decide,by decide⟩
  have last : CharBoundary "éaébéc".toList 6 := ⟨"éaéb".toList,by decide,by decide⟩
  have slices := slices_exact { maxContextLength := 4 } ⟨by decide,first,last⟩ criticalSignature boundaryRequest
  constructor
  · refine slices.1.mpr ?_
    rw [← charBoundary_iff_not_straddled (by decide),← charBoundary_iff_not_straddled (by decide)]
    exact ⟨⟨"éa".toList,by decide,by decide⟩,⟨"éaébé".toList,by decide,by decide⟩⟩
  · have content : (contentToCheck boundaryRequest).toList =
        ("/bin/sh".toList ++ List.replicate 91 'a' ++ ['é']) ++ " curl ".toList := by
      have body : fromUtf8Lossy [] = "" := rfl
      simp [contentToCheck,boundaryRequest,body]
    have before : utf8Len ("/bin/sh".toList ++ List.replicate 91 'a' ++ ['é']) = 100 := by
      rw [String.utf8Len_append,String.utf8Len_append,utf8Len_replicate]
      decide
    have long : min 100 (contentToCheck boundaryRequest).utf8ByteSize = 100 := by
      rw [← String.utf8Len_toList,content,String.utf8Len_append,before]
      decide
    have within : 100 ≤ utf8Len (contentToCheck boundaryRequest).toList := by
      rw [content,String.utf8Len_append,before]
      exact Nat.le_add_right _ _
    refine slices.2.mpr (Or.inr ?_)
    rw [long,← charBoundary_iff_not_straddled within,content]
    exact ⟨_,List.prefix_append _ _,before⟩

-- A two-byte character a hundred bytes before the match, and one over the hundredth
-- byte of the content.
def accented : String := String.ofList ('é' :: List.replicate 101 'a')

def accentedRequest : SecurityAnalysisRequest :=
  ⟨"2","curl",String.ofList ("/bin/sh".toList ++ List.replicate 92 'a' ++ ['é']),[]⟩

theorem accented_content : (contentToCheck accentedRequest).toList =
    ("/bin/sh".toList ++ List.replicate 92 'a') ++ 'é' :: " curl ".toList := by
  have body : fromUtf8Lossy [] = "" := rfl
  simp [contentToCheck,accentedRequest,body]

theorem slices_panic : MatchRange accented 101 102 ∧ (extractContext {} accented 101 102).isSome = false ∧
    (matchSignature criticalSignature accentedRequest).isSome = false := by
  have text : accented.toList = 'é' :: List.replicate 101 'a' := String.toList_ofList
  have range (n : ℕ) (inside : n ≤ 101) : CharBoundary accented.toList (n + 2) := by
    have plain : ∀ c ∈ List.replicate 101 'a', c.utf8Size = 1 := by
      intro c listed
      rw [List.eq_of_mem_replicate listed]
      rfl
    rw [text,charBoundary_cons]
    exact Or.inr ⟨Nat.le_add_left 2 n,charBoundary_ascii plain inside⟩
  have match' : MatchRange accented 101 102 := ⟨by decide,range 99 (by decide),range 100 (by decide)⟩
  have within : Straddled accented.toList 1 := ⟨[],'é',List.replicate 101 'a',text,by decide,by decide⟩
  refine ⟨match',?_,?_⟩
  · rw [Bool.eq_false_iff,ne_eq,extractContext_isSome_iff {} match']
    exact fun clear => clear.1 within
  · have present : patternFound accentedRequest criticalSignature = true := by
      rw [patternFound,contains,accented_content]
      rfl
    have long : min 100 (contentToCheck accentedRequest).utf8ByteSize = 100 := by
      rw [← String.utf8Len_toList,accented_content,String.utf8Len_append,String.utf8Len_append,utf8Len_replicate]
      decide
    rw [Bool.eq_false_iff,ne_eq,matchSignature_isSome_iff,contextOf_isSome_iff,present,long]
    rintro (absent | clear)
    · cases absent
    · have before : utf8Len ("/bin/sh".toList ++ List.replicate 92 'a') = 99 := by
        rw [String.utf8Len_append,utf8Len_replicate]
        decide
      exact clear ⟨_,'é'," curl ".toList,accented_content,by rw [before]; decide,by rw [before]; decide⟩

end PhantomFlow.Security
