import Mathlib.Data.String.Basic

namespace PhantomFlow.Library
open String (utf8Len)

-- The byte offsets of a text that lie between two of its characters, and those
-- that lie within one.
def CharBoundary (text : List Char) (offset : ℕ) : Prop := ∃ before, before <+: text ∧ utf8Len before = offset

def Straddled (text : List Char) (offset : ℕ) : Prop :=
  ∃ before c after, text = before ++ c :: after ∧ utf8Len before < offset ∧ offset < utf8Len before + c.utf8Size

theorem utf8Len_replicate (n : ℕ) (c : Char) : utf8Len (List.replicate n c) = n * c.utf8Size := by
  induction n with
  | zero => rw [List.replicate_zero,String.utf8Len_nil,Nat.zero_mul]
  | succ n ih => rw [List.replicate_succ,String.utf8Len_cons,ih,Nat.succ_mul]

section Boundaries
variable {text rest : List Char} {offset : ℕ}

theorem charBoundary_zero (text : List Char) : CharBoundary text 0 := ⟨[],List.nil_prefix,rfl⟩

theorem CharBoundary.le_length (boundary : CharBoundary text offset) : offset ≤ utf8Len text := by
  obtain ⟨before,⟨after,rfl⟩,rfl⟩ := boundary
  rw [String.utf8Len_append]
  exact Nat.le_add_right _ _

theorem charBoundary_nil : CharBoundary [] offset ↔ offset = 0 := by
  constructor
  · intro boundary
    exact Nat.le_zero.mp boundary.le_length
  · intro zero
    rw [zero]
    exact charBoundary_zero []

theorem charBoundary_cons (c : Char) :
    CharBoundary (c :: rest) offset ↔ offset = 0 ∨ c.utf8Size ≤ offset ∧ CharBoundary rest (offset - c.utf8Size) := by
  constructor
  · rintro ⟨before,inside,rfl⟩
    cases before with
    | nil => exact Or.inl rfl
    | cons d before =>
        obtain ⟨rfl,within⟩ := List.cons_prefix_cons.mp inside
        rw [String.utf8Len_cons,Nat.add_sub_cancel]
        exact Or.inr ⟨Nat.le_add_left _ _,before,within,rfl⟩
  · rintro (zero | ⟨enough,before,within,length⟩)
    · rw [zero]
      exact charBoundary_zero _
    · refine ⟨c :: before,List.cons_prefix_cons.mpr ⟨rfl,within⟩,?_⟩
      rw [String.utf8Len_cons,length]
      exact Nat.sub_add_cancel enough

theorem charBoundary_append (before : List Char) :
    CharBoundary (before ++ rest) (utf8Len before + offset) ↔ CharBoundary rest offset := by
  induction before with
  | nil => rw [List.nil_append,String.utf8Len_nil,Nat.zero_add]
  | cons c before ih =>
      have positive := Char.utf8Size_pos c
      rw [List.cons_append,charBoundary_cons,String.utf8Len_cons,or_iff_right (by omega),← ih]
      have later : utf8Len before + c.utf8Size + offset - c.utf8Size = utf8Len before + offset := by omega
      rw [later]
      exact and_iff_right (by omega)

theorem straddled_cons (c : Char) : Straddled (c :: rest) offset ↔
    0 < offset ∧ offset < c.utf8Size ∨ c.utf8Size < offset ∧ Straddled rest (offset - c.utf8Size) := by
  constructor
  · rintro ⟨before,d,after,parts,above,below⟩
    cases before with
    | nil =>
        obtain ⟨rfl,rfl⟩ := List.cons.inj parts
        rw [String.utf8Len_nil] at above below
        exact Or.inl ⟨above,by omega⟩
    | cons e before =>
        obtain ⟨rfl,rfl⟩ := List.cons.inj parts
        rw [String.utf8Len_cons] at above below
        exact Or.inr ⟨by omega,before,d,after,rfl,by omega,by omega⟩
  · rintro (⟨above,below⟩ | ⟨enough,before,d,after,rfl,above,below⟩)
    · refine ⟨[],c,rest,rfl,above,?_⟩
      rw [String.utf8Len_nil]
      omega
    · refine ⟨c :: before,d,after,rfl,?_,?_⟩
      · rw [String.utf8Len_cons]; omega
      · rw [String.utf8Len_cons]; omega

theorem charBoundary_iff_not_straddled (inside : offset ≤ utf8Len text) :
    CharBoundary text offset ↔ ¬Straddled text offset := by
  induction text generalizing offset with
  | nil =>
      rw [String.utf8Len_nil,Nat.le_zero] at inside
      rw [inside,charBoundary_nil]
      constructor
      · rintro _ ⟨before,c,after,parts,_⟩
        exact absurd parts.symm (List.append_ne_nil_of_right_ne_nil before (List.cons_ne_nil c after))
      · intro _; rfl
  | cons c rest ih =>
      have positive := Char.utf8Size_pos c
      rw [String.utf8Len_cons] at inside
      have later : CharBoundary rest (offset - c.utf8Size) ↔ ¬Straddled rest (offset - c.utf8Size) := ih (by omega)
      rw [charBoundary_cons,straddled_cons,later]
      by_cases zero : offset = 0
      · constructor
        · rintro _ (within | beyond)
          · omega
          · omega
        · intro _; exact Or.inl zero
      · rw [or_iff_right zero]
        constructor
        · rintro ⟨enough,clear⟩ (within | beyond)
          · omega
          · exact clear beyond.2
        · intro clear
          have enough : c.utf8Size ≤ offset := by
            by_contra short
            exact clear (Or.inl ⟨by omega,by omega⟩)
          refine ⟨enough,?_⟩
          rintro ⟨before,d,after,parts,above,below⟩
          exact clear (Or.inr ⟨by omega,before,d,after,parts,above,below⟩)

theorem charBoundary_ascii (ascii : ∀ c ∈ text, c.utf8Size = 1) (inside : offset ≤ utf8Len text) :
    CharBoundary text offset := by
  apply (charBoundary_iff_not_straddled inside).mpr
  rintro ⟨before,c,after,rfl,above,below⟩
  rw [ascii c (List.mem_append_right _ List.mem_cons_self)] at below
  omega

end Boundaries

-- `String::from_utf8_lossy`: every maximal part of the bytes that is no character
-- becomes one replacement character.
section Lossy

def secondFits (first second : UInt8) : Bool :=
  (first = 0xE0 && 0xA0 ≤ second && second ≤ 0xBF) || (0xE1 ≤ first && first ≤ 0xEC && 0x80 ≤ second && second ≤ 0xBF) ||
    (first = 0xED && 0x80 ≤ second && second ≤ 0x9F) || (0xEE ≤ first && first ≤ 0xEF && 0x80 ≤ second && second ≤ 0xBF) ||
    (first = 0xF0 && 0x90 ≤ second && second ≤ 0xBF) || (0xF1 ≤ first && first ≤ 0xF3 && 0x80 ≤ second && second ≤ 0xBF) ||
    (first = 0xF4 && 0x80 ≤ second && second ≤ 0x8F)

def brokenLength (first : UInt8) : List UInt8 → ℕ
  | [] => 1
  | [second] => if secondFits first second then 2 else 1
  | second :: third :: _ =>
    if secondFits first second then (if 0xF0 ≤ first && 0x80 ≤ third && third ≤ 0xBF then 3 else 2) else 1

def lossyAfter : ℕ → List UInt8 → List Char
  | _,[] => []
  | skip + 1,_ :: rest => lossyAfter skip rest
  | 0,first :: rest =>
    match (first :: rest).toByteArray.utf8DecodeChar? 0 with
    | some c => c :: lossyAfter (c.utf8Size - 1) rest
    | none => Char.ofNat 0xFFFD :: lossyAfter (brokenLength first rest - 1) rest

def fromUtf8Lossy (bytes : List UInt8) : String := String.ofList (lossyAfter 0 bytes)

theorem lossyAfter_append (skipped bytes : List UInt8) : lossyAfter skipped.length (skipped ++ bytes) = lossyAfter 0 bytes := by
  induction skipped with
  | nil => rfl
  | cons byte rest ih => exact ih

theorem lossyAfter_encoded (text : List Char) : lossyAfter 0 (text.flatMap String.utf8EncodeChar) = text := by
  induction text with
  | nil => rfl
  | cons c rest ih =>
      have decoded : (String.utf8EncodeChar c ++ rest.flatMap String.utf8EncodeChar).toByteArray.utf8DecodeChar? 0 = some c := by
        rw [List.toByteArray_append]
        exact ByteArray.utf8DecodeChar?_utf8EncodeChar_append
      have length := String.length_utf8EncodeChar c
      rw [List.flatMap_cons]
      cases bytes : String.utf8EncodeChar c with
      | nil => exact absurd bytes String.utf8EncodeChar_ne_nil
      | cons first more =>
          rw [bytes,List.length_cons] at length
          rw [bytes] at decoded
          rw [List.cons_append] at decoded ⊢
          rw [lossyAfter,decoded]
          have skipped : c.utf8Size - 1 = more.length := by omega
          simp only [skipped,lossyAfter_append,ih]

theorem fromUtf8Lossy_encoded (text : String) : fromUtf8Lossy (text.toList.flatMap String.utf8EncodeChar) = text := by
  rw [fromUtf8Lossy,lossyAfter_encoded,String.ofList_toList]

end Lossy
end PhantomFlow.Library
