import Mathlib

namespace PhantomFlow.Library

-- The Unicode tables that `toLowerCase` reads: what a character becomes, and which
-- characters are cased and which are ignored beside a sigma. On ASCII they are known.
structure CaseTables where
  lower : Char → List Char
  cased : Char → Bool
  ignorable : Char → Bool
  lower_ascii : ∀ c, c.toNat < 128 → lower c = [c.toLower]
  cased_ascii : ∀ c, c.toNat < 128 → cased c = c.isAlpha
  ignorable_ascii : ∀ c, c.toNat < 128 → ignorable c = decide (c ∈ ['\x27','.',':','^','\x60'])

def asciiLower (text : List Char) : List Char := text.map Char.toLower

namespace CaseTables
variable (tables : CaseTables)

-- Whether a cased character stands in front, with nothing but ignored ones between.
def casedBefore (before : Bool) (text : List Char) : Bool :=
  text.foldl (fun before c => tables.cased c || tables.ignorable c && before) before

def casedAfter : List Char → Bool → Bool
  | [],next => next
  | c :: rest,next => tables.cased c || tables.ignorable c && casedAfter rest next

-- A capital sigma at the end of a word has a form of its own.
def lowerChar (before after : Bool) (c : Char) : List Char :=
  if c = '\u03A3' then (if before && !after then ['\u03C2'] else ['\u03C3']) else tables.lower c

def lowerIn (before : Bool) : List Char → Bool → List Char
  | [],_ => []
  | c :: rest,next =>
    tables.lowerChar before (tables.casedAfter rest next) c ++ lowerIn (tables.casedBefore before [c]) rest next

def toLowerCase (text : List Char) : List Char := tables.lowerIn false text false

def ascii : CaseTables where
  lower c := [c.toLower]
  cased c := c.isAlpha
  ignorable c := decide (c ∈ ['\x27','.',':','^','\x60'])
  lower_ascii _ _ := rfl
  cased_ascii _ _ := rfl
  ignorable_ascii _ _ := rfl

variable {tables}

theorem casedBefore_append (before : Bool) (first second : List Char) :
    tables.casedBefore before (first ++ second) = tables.casedBefore (tables.casedBefore before first) second :=
  List.foldl_append

theorem casedAfter_append (first second : List Char) (next : Bool) :
    tables.casedAfter (first ++ second) next = tables.casedAfter first (tables.casedAfter second next) := by
  induction first with
  | nil => rfl
  | cons c rest ih => rw [List.cons_append,casedAfter,casedAfter,ih]

theorem lowerIn_append (before : Bool) (first second : List Char) (next : Bool) :
    tables.lowerIn before (first ++ second) next =
      tables.lowerIn before first (tables.casedAfter second next) ++
        tables.lowerIn (tables.casedBefore before first) second next := by
  induction first generalizing before with
  | nil => rfl
  | cons c rest ih =>
      rw [List.cons_append,lowerIn,lowerIn,ih,casedAfter_append,List.append_assoc]
      rfl

-- What stands within a text stands, in its own context, within the lowered text.
theorem lowerIn_infix (tables : CaseTables) (before : Bool) (inside : part <:+: text) (next : Bool) :
    ∃ before' next', tables.lowerIn before' part next' <:+: tables.lowerIn before text next := by
  obtain ⟨front,back,rfl⟩ := inside
  refine ⟨tables.casedBefore before front,tables.casedAfter back next,?_⟩
  rw [List.append_assoc,lowerIn_append,lowerIn_append]
  exact ⟨_,_,List.append_assoc _ _ _⟩

section Ascii
variable {c : Char}

theorem lowerChar_ascii (ascii : c.toNat < 128) (before after : Bool) : tables.lowerChar before after c = [c.toLower] := by
  unfold lowerChar
  rw [if_neg]
  · exact tables.lower_ascii c ascii
  · intro sigma
    rw [sigma] at ascii
    exact absurd ascii (by decide)

theorem lowerIn_ascii (ascii : text.all (fun c => decide (c.toNat < 128)) = true) (before next : Bool) :
    tables.lowerIn before text next = asciiLower text := by
  induction text generalizing before with
  | nil => rfl
  | cons c rest ih =>
      rw [List.all_cons,Bool.and_eq_true] at ascii
      rw [lowerIn,lowerChar_ascii (of_decide_eq_true ascii.1),ih ascii.2]
      rfl

theorem isAlpha_ascii (letter : c.isAlpha = true) : c.toNat < 128 := by
  simp only [Char.isAlpha,Char.isUpper,Char.isLower,Bool.or_eq_true,Bool.and_eq_true,decide_eq_true_eq,
    UInt32.le_iff_toNat_le] at letter
  cases letter with
  | inl upper => exact lt_of_le_of_lt upper.2 (by decide)
  | inr lower => exact lt_of_le_of_lt lower.2 (by decide)

theorem letter_facts (tables : CaseTables) (letter : c.isAlpha = true) : tables.cased c = true ∧ tables.ignorable c = false := by
  have ascii := isAlpha_ascii letter
  refine ⟨(tables.cased_ascii c ascii).trans letter,?_⟩
  rw [tables.ignorable_ascii c ascii]
  apply decide_eq_false
  intro ignored
  simp only [List.mem_cons,List.not_mem_nil,or_false] at ignored
  obtain rfl | rfl | rfl | rfl | rfl := ignored <;> exact absurd letter (by decide)

theorem eq_or_letters {d : Char} (same : c.toLower = d.toLower) : c = d ∨ c.isAlpha = true ∧ d.isAlpha = true := by
  have kinds : c.isAlpha = d.isAlpha := by
    rw [← Char.isAlpha_toLower_eq_isAlpha c,same,Char.isAlpha_toLower_eq_isAlpha]
  cases letter : c.isAlpha with
  | true => exact Or.inr ⟨rfl,kinds.symm.trans letter⟩
  | false =>
      have small : ∀ e : Char, e.isAlpha = false → e.toLower = e := by
        intro e other
        apply Char.toLower_eq_of_not_isUpper
        intro upper
        simp [Char.isAlpha,upper] at other
      rw [small c letter,small d (kinds.symm.trans letter)] at same
      exact Or.inl same

structure Alike (tables : CaseTables) (c d : Char) : Prop where
  lower : ∀ before after, tables.lowerChar before after c = tables.lowerChar before after d
  cased : tables.cased c = tables.cased d
  ignorable : tables.ignorable c = tables.ignorable d

theorem alike_refl (c : Char) : Alike tables c c := ⟨fun _ _ => rfl,rfl,rfl⟩

theorem alike_of_toLower {d : Char} (same : c.toLower = d.toLower) : Alike tables c d := by
  cases eq_or_letters same with
  | inl equal =>
      subst equal
      exact alike_refl c
  | inr letters =>
      have one := letter_facts tables letters.1
      have other := letter_facts tables letters.2
      refine ⟨?_,one.1.trans other.1.symm,one.2.trans other.2.symm⟩
      intro before after
      rw [lowerChar_ascii (isAlpha_ascii letters.1),lowerChar_ascii (isAlpha_ascii letters.2),same]

theorem casedAfter_alike (alike : List.Forall₂ (Alike tables) first second) (next : Bool) :
    tables.casedAfter first next = tables.casedAfter second next := by
  induction alike with
  | nil => rfl
  | cons head _ ih => rw [casedAfter,casedAfter,head.cased,head.ignorable,ih]

theorem lowerIn_alike (alike : List.Forall₂ (Alike tables) first second) (before next : Bool) :
    tables.lowerIn before first next = tables.lowerIn before second next := by
  induction alike generalizing before with
  | nil => rfl
  | @cons c d rest rest' head tail ih =>
      have context : tables.casedBefore before [c] = tables.casedBefore before [d] := by
        simp only [casedBefore,List.foldl_cons,List.foldl_nil,head.cased,head.ignorable]
      rw [lowerIn,lowerIn,head.lower,casedAfter_alike tail,context,ih]

end Ascii

end CaseTables

end PhantomFlow.Library
