import Mathlib.Data.List.TakeWhile
import PhantomFlow.Library.OrderedMap
import PhantomFlow.Soar.PlaybookExecutor

namespace PhantomFlow.Soar
open Library

-- A parameter is a string, or anything else, here by its JSON text.
inductive ParamValue where
  | text (s : String)
  | other (json : String)
deriving DecidableEq

abbrev Params := OrderedMap String ParamValue

-- What a key reads as: null or undefined, a value with its text, or one whose text
-- cannot be formed, as `String` of it throws.
inductive ContextValue where
  | nothing
  | text (s : String)
  | throws (thrown : Thrown)
deriving DecidableEq

abbrev ExecutionContext := OrderedMap String ContextValue

section Interpolation
-- A context reads by its own properties first, and then by what its object inherits.
variable (inherited : String → ContextValue) (context : ExecutionContext)

def readKey (key : String) : ContextValue := (context.get key).getD (inherited key)

def replacement (key : List Char) : Except Thrown (List Char) :=
  match readKey inherited context (String.ofList key) with
  | .nothing => .ok []
  | .text s => .ok s.toList
  | .throws thrown => .error thrown

def isWord (c : Char) : Bool := c.isAlphanum || c = '_'

def placeholderKey (text : List Char) : Option (List Char) :=
  match text with
  | '\x7b' :: '\x7b' :: rest =>
    let key := rest.takeWhile isWord
    if key ≠ [] ∧ ['\x7d','\x7d'].isPrefixOf (rest.dropWhile isWord) then some key else none
  | _ => none

-- `skip` characters are left of the placeholder that has been replaced.
def replaceFrom (skip : ℕ) : List Char → Except Thrown (List Char)
  | [] => .ok []
  | c :: rest =>
    if 0 < skip then replaceFrom (skip - 1) rest
    else
      match placeholderKey (c :: rest) with
      | some key => do
        let replaced ← replacement inherited context key
        let later ← replaceFrom (key.length + 3) rest
        return replaced ++ later
      | none => do
        let later ← replaceFrom 0 rest
        return c :: later

def interpolate : ParamValue → Except Thrown ParamValue
  | .text s => (replaceFrom inherited context 0 s.toList).map (fun replaced => .text (String.ofList replaced))
  | .other json => .ok (.other json)

-- A property of this name is not made by an assignment.
def assignParam (out : Params) (name : String) (value : ParamValue) : Params :=
  if name = "__proto__" then out else out.set name value

def resolveEntries (out : Params) : List (String × ParamValue) → Except Thrown Params
  | [] => .ok out
  | (name,value) :: rest => do
    let interpolated ← interpolate inherited context value
    resolveEntries (assignParam out name interpolated) rest

def resolveParams (params : Params) : Except Thrown Params := resolveEntries inherited context .empty params.entries

end Interpolation

-- A text is read from left to right as placeholders and characters that begin none.
inductive Piece where
  | literal (c : Char)
  | placeholder (key : List Char)

def opened : List Char := ['\x7b','\x7b']
def closed : List Char := ['\x7d','\x7d']

def IsKey (key : List Char) : Prop := key ≠ [] ∧ ∀ c ∈ key, isWord c = true

inductive Reads : List Char → List Piece → Prop where
  | nil : Reads [] []
  | placeholder (named : IsKey key) (later : Reads rest pieces) :
      Reads (opened ++ key ++ closed ++ rest) (.placeholder key :: pieces)
  | literal (plain : ∀ key rest', IsKey key → c :: rest ≠ opened ++ key ++ closed ++ rest') (later : Reads rest pieces) :
      Reads (c :: rest) (.literal c :: pieces)

theorem placeholderKey_of (named : IsKey key) (rest : List Char) :
    placeholderKey (opened ++ key ++ closed ++ rest) = some key := by
  have taken : (key ++ (closed ++ rest)).takeWhile isWord = key := by
    rw [List.takeWhile_append_of_pos named.2]
    exact List.append_nil key
  have dropped : (key ++ (closed ++ rest)).dropWhile isWord = closed ++ rest := by
    rw [List.dropWhile_append_of_pos named.2]
    rfl
  rw [List.append_assoc,List.append_assoc]
  unfold placeholderKey
  change (if (key ++ (closed ++ rest)).takeWhile isWord ≠ [] ∧
    ['\x7d','\x7d'].isPrefixOf ((key ++ (closed ++ rest)).dropWhile isWord) then
      some ((key ++ (closed ++ rest)).takeWhile isWord) else none) = some key
  rw [taken,dropped]
  exact if_pos ⟨named.1,rfl⟩

theorem placeholderKey_some {text : List Char} (found : placeholderKey text = some key) :
    IsKey key ∧ ∃ rest, text = opened ++ key ++ closed ++ rest := by
  unfold placeholderKey at found
  split at found
  · rename_i rest
    dsimp only at found
    split at found
    · rename_i both
      cases found
      refine ⟨⟨both.1,fun c member => List.mem_takeWhile_imp member⟩,?_⟩
      obtain ⟨after,split⟩ := List.isPrefixOf_iff_prefix.mp both.2
      refine ⟨after,?_⟩
      have parts := List.takeWhile_append_dropWhile (p:=isWord) (l:=rest)
      rw [← split] at parts
      rw [List.append_assoc,List.append_assoc]
      exact congrArg (fun tail => '\x7b' :: '\x7b' :: tail) parts.symm
    · cases found
  · cases found

theorem reads_exists (text : List Char) : ∃ pieces, Reads text pieces := by
  -- By the length of the text, as a placeholder takes several characters off it.
  induction length : text.length using Nat.strong_induction_on generalizing text with
  | _ n ih =>
      cases text with
      | nil => exact ⟨[],.nil⟩
      | cons c rest =>
          cases found : placeholderKey (c :: rest) with
          | some key =>
              obtain ⟨named,after,split⟩ := placeholderKey_some found
              have shorter : after.length < n := by
                rw [← length,split]
                simp [opened]
                omega
              obtain ⟨pieces,reads⟩ := ih after.length shorter after rfl
              rw [split]
              exact ⟨_,.placeholder named reads⟩
          | none =>
              obtain ⟨pieces,reads⟩ := ih rest.length (by rw [← length]; exact Nat.lt_succ_self _) rest rfl
              refine ⟨_,.literal ?_ reads⟩
              intro key rest' named split
              rw [split,placeholderKey_of named] at found
              cases found

section Rendering
variable (inherited : String → ContextValue) (context : ExecutionContext)

def Piece.rendered : Piece → Except Thrown (List Char)
  | .literal c => .ok [c]
  | .placeholder key => replacement inherited context key

def rendered (pieces : List Piece) : Except Thrown (List Char) :=
  (pieces.mapM (Piece.rendered inherited context)).map List.flatten

theorem rendered_cons (piece : Piece) (pieces : List Piece) : rendered inherited context (piece :: pieces) = do
    let text ← piece.rendered inherited context
    let later ← rendered inherited context pieces
    return text ++ later := by
  unfold rendered
  rw [List.mapM_cons]
  cases piece.rendered inherited context with
  | error thrown => rfl
  | ok text => cases pieces.mapM (Piece.rendered inherited context) <;> rfl

theorem rendered_isOk (pieces : List Piece) :
    (rendered inherited context pieces).isOk = true ↔ ∀ piece ∈ pieces, (piece.rendered inherited context).isOk = true := by
  induction pieces with
  | nil => exact ⟨fun _ _ none => absurd none List.not_mem_nil,fun _ => rfl⟩
  | cons piece pieces ih =>
      rw [rendered_cons,List.forall_mem_cons,← ih]
      cases piece.rendered inherited context with
      | error thrown => exact ⟨fun never => absurd never Bool.false_ne_true,fun both => absurd both.1 Bool.false_ne_true⟩
      | ok text => cases rendered inherited context pieces <;> exact ⟨fun last => ⟨rfl,last⟩,And.right⟩

theorem replaceFrom_skip (before rest : List Char) :
    replaceFrom inherited context before.length (before ++ rest) = replaceFrom inherited context 0 rest := by
  induction before with
  | nil => rfl
  | cons c before ih =>
      rw [List.cons_append,List.length_cons,replaceFrom,if_pos (Nat.succ_pos _),Nat.add_sub_cancel,ih]

theorem replaceFrom_placeholder (named : IsKey key) (rest : List Char) :
    replaceFrom inherited context 0 (opened ++ key ++ closed ++ rest) = do
      let replaced ← replacement inherited context key
      let later ← replaceFrom inherited context 0 rest
      return replaced ++ later := by
  have found := placeholderKey_of named rest
  have parts : opened ++ key ++ closed ++ rest = '\x7b' :: (('\x7b' :: (key ++ closed)) ++ rest) := by
    simp [opened]
  have length : ('\x7b' :: (key ++ closed)).length = key.length + 3 := by simp [closed]
  have skipped := replaceFrom_skip inherited context ('\x7b' :: (key ++ closed)) rest
  rw [length] at skipped
  rw [parts] at found ⊢
  rw [replaceFrom,if_neg (Nat.lt_irrefl 0),found,← skipped]

theorem replaceFrom_reads (reads : Reads text pieces) :
    replaceFrom inherited context 0 text = rendered inherited context pieces := by
  induction reads with
  | nil => rfl
  | placeholder named later ih => rw [replaceFrom_placeholder inherited context named,ih,rendered_cons]; rfl
  | @literal c rest pieces plain later ih =>
      have none : placeholderKey (c :: rest) = none := by
        cases found : placeholderKey (c :: rest) with
        | none => rfl
        | some key =>
            obtain ⟨named,after,split⟩ := placeholderKey_some found
            exact absurd split (plain key after named)
      rw [replaceFrom,if_neg (Nat.lt_irrefl 0),none,ih,rendered_cons]
      rfl

end Rendering

section Resolving
variable {inherited : String → ContextValue} {context : ExecutionContext}

theorem resolveEntries_proto (resolved : resolveEntries inherited context out entries = .ok params) :
    params.get "__proto__" = out.get "__proto__" := by
  induction entries generalizing out with
  | nil => cases resolved; rfl
  | cons entry rest ih =>
      obtain ⟨name,value⟩ := entry
      rw [resolveEntries] at resolved
      cases done : interpolate inherited context value with
      | error thrown => rw [done] at resolved; cases resolved
      | ok interpolated =>
          rw [done] at resolved
          have later := ih resolved
          rw [later,assignParam]
          split
          · rfl
          · rename_i other
            exact OrderedMap.get_set_other _ _ (fun same => other same.symm)

theorem resolveEntries_get (distinct : (entries.map Prod.fst).Nodup)
    (resolved : resolveEntries inherited context out entries = .ok params) (other : name ≠ "__proto__") :
    (∀ value, entries.lookup name = some value →
        ∃ interpolated, interpolate inherited context value = .ok interpolated ∧ params.get name = some interpolated) ∧
      (entries.lookup name = none → params.get name = out.get name) := by
  induction entries generalizing out with
  | nil =>
      cases resolved
      exact ⟨fun value found => absurd found (by simp),fun _ => rfl⟩
  | cons entry rest ih =>
      obtain ⟨first,value⟩ := entry
      rw [List.map_cons,List.nodup_cons] at distinct
      rw [resolveEntries] at resolved
      cases done : interpolate inherited context value with
      | error thrown => rw [done] at resolved; cases resolved
      | ok interpolated =>
          rw [done] at resolved
          obtain ⟨present,absent⟩ := ih distinct.2 resolved
          by_cases same : name = first
          · subst first
            have unlisted : rest.lookup name = none := by
              rw [List.lookup_eq_none_iff]
              intro pair member
              have apart : name ≠ pair.1 := by
                rintro rfl
                exact distinct.1 (List.mem_map.mpr ⟨pair,member,rfl⟩)
              simpa using apart
            have here := absent unlisted
            rw [assignParam,if_neg other,OrderedMap.get_set_self] at here
            rw [List.lookup_cons_self]
            refine ⟨?_,fun none => by cases none⟩
            intro value' found
            cases found
            exact ⟨interpolated,done,here⟩
          · rw [OrderedMap.lookup_past rest value same]
            refine ⟨present,fun none => ?_⟩
            rw [absent none,assignParam]
            split
            · rfl
            · exact OrderedMap.get_set_other _ _ same

theorem resolveEntries_isOk (out : Params) (entries : List (String × ParamValue)) :
    (resolveEntries inherited context out entries).isOk = true ↔
      ∀ entry ∈ entries, (interpolate inherited context entry.2).isOk = true := by
  induction entries generalizing out with
  | nil => exact ⟨fun _ _ none => absurd none List.not_mem_nil,fun _ => rfl⟩
  | cons entry rest ih =>
      obtain ⟨name,value⟩ := entry
      rw [resolveEntries,List.forall_mem_cons]
      cases interpolate inherited context value with
      | error thrown => exact ⟨fun never => absurd never Bool.false_ne_true,fun both => absurd both.1 Bool.false_ne_true⟩
      | ok interpolated => exact (ih _).trans ⟨fun later => ⟨rfl,later⟩,And.right⟩

end Resolving
end PhantomFlow.Soar
