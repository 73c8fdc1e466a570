import PhantomFlow.Detection.SigmaEngine
import PhantomFlow.Library.Separators

namespace PhantomFlow.Detection
open Library Ingestion
variable {tables : CaseTables} {numbers : NumberText} {found : List Char} {separator : Bool → Char}

-- For either context a character to write runs of: it is written and lowered as it is,
-- and what is looked for neither begins nor ends with it.
structure Separates (tables : CaseTables) (found : List Char) (separator : Bool → Char) : Prop where
  first : ∀ cased, found.head? ≠ some (separator cased)
  last : ∀ cased, found.getLast? ≠ some (separator cased)
  ascii : ∀ cased, (separator cased).toNat < 128
  lower : ∀ cased, (separator cased).toLower = separator cased
  plain : ∀ cased, Json.escape (separator cased) = [separator cased]
  cased : ∀ cased, tables.cased (separator cased) = cased
  kept : ∀ cased, tables.ignorable (separator cased) = false

theorem exists_apart [DecidableEq α] (first last : Option α) (xy : x ≠ y) (xz : x ≠ z) (yz : y ≠ z) :
    ∃ c ∈ [x,y,z], first ≠ some c ∧ last ≠ some c := by
  by_contra none
  have taken : ∀ c ∈ [x,y,z], first = some c ∨ last = some c := by
    intro c member
    by_contra free
    exact none ⟨c,member,fun same => free (Or.inl same),fun same => free (Or.inr same)⟩
  have atX := taken x (by simp)
  have atY := taken y (by simp)
  have atZ := taken z (by simp)
  grind

theorem exists_separates (tables : CaseTables) (found : List Char) : ∃ separator, Separates tables found separator := by
  obtain ⟨letter,letters,first,last⟩ :=
    exists_apart found.head? found.getLast? (show 'a' ≠ 'b' by decide) (show 'a' ≠ 'c' by decide) (show 'b' ≠ 'c' by decide)
  obtain ⟨digit,digits,first',last'⟩ :=
    exists_apart found.head? found.getLast? (show '0' ≠ '1' by decide) (show '0' ≠ '2' by decide) (show '1' ≠ '2' by decide)
  have plain : ∀ c ∈ ['a','b','c'] ++ ['0','1','2'], c.toNat < 128 ∧ c.toLower = c ∧ Json.escape c = [c] ∧
      decide (c ∈ ['\x27','.',':','^','\x60']) = false := by
    intro c member
    simp only [List.cons_append,List.nil_append,List.mem_cons,List.not_mem_nil,or_false] at member
    obtain rfl | rfl | rfl | rfl | rfl | rfl := member <;> decide
  have one := plain letter (List.mem_append_left _ letters)
  have other := plain digit (List.mem_append_right _ digits)
  have lettered : letter.isAlpha = true := by
    simp only [List.mem_cons,List.not_mem_nil,or_false] at letters
    obtain rfl | rfl | rfl := letters <;> decide
  have unlettered : digit.isAlpha = false := by
    simp only [List.mem_cons,List.not_mem_nil,or_false] at digits
    obtain rfl | rfl | rfl := digits <;> decide
  refine ⟨fun cased => if cased then letter else digit,?_,?_,?_,?_,?_,?_,?_⟩
  · intro cased
    cases cased with
    | true => exact first
    | false => exact first'
  · intro cased
    cases cased with
    | true => exact last
    | false => exact last'
  · intro cased
    cases cased with
    | true => exact one.1
    | false => exact other.1
  · intro cased
    cases cased with
    | true => exact one.2.1
    | false => exact other.2.1
  · intro cased
    cases cased with
    | true => exact one.2.2.1
    | false => exact other.2.2.1
  · intro cased
    cases cased with
    | true => exact (tables.cased_ascii letter one.1).trans lettered
    | false => exact (tables.cased_ascii digit other.1).trans unlettered
  · intro cased
    cases cased with
    | true => exact (tables.ignorable_ascii letter one.1).trans one.2.2.2
    | false => exact (tables.ignorable_ascii digit other.1).trans other.2.2.2

namespace Separates

theorem lowerIn_run (separates : Separates tables found separator) (cased : Bool) (n : ℕ) (before next : Bool) :
    tables.lowerIn before (List.replicate n (separator cased)) next = List.replicate n (separator cased) := by
  rw [CaseTables.lowerIn_ascii]
  · unfold asciiLower
    rw [List.map_replicate,separates.lower]
  · apply List.all_eq_true.mpr
    intro c member
    rw [List.eq_of_mem_replicate member]
    exact decide_eq_true (separates.ascii cased)

theorem escape_run (separates : Separates tables found separator) (cased : Bool) (n : ℕ) :
    (List.replicate n (separator cased)).flatMap Json.escape = List.replicate n (separator cased) := by
  induction n with
  | zero => rfl
  | succ n ih => rw [List.replicate_succ,List.flatMap_cons,ih,separates.plain,List.singleton_append]

theorem casedBefore_run (separates : Separates tables found separator) (cased : Bool) (n : ℕ) (before : Bool) :
    tables.casedBefore before (List.replicate (n + 1) (separator cased)) = cased := by
  rw [List.replicate_succ',CaseTables.casedBefore_append]
  change (tables.cased (separator cased) || tables.ignorable (separator cased) && _) = cased
  rw [separates.cased,separates.kept]
  exact Bool.or_false cased

theorem casedAfter_run (separates : Separates tables found separator) (cased : Bool) (n : ℕ) (rest : List Char) (next : Bool) :
    tables.casedAfter (List.replicate (n + 1) (separator cased) ++ rest) next = cased := by
  rw [List.replicate_succ,List.cons_append,CaseTables.casedAfter,separates.cased,separates.kept]
  exact Bool.or_false cased

end Separates

section Search
variable {n : ℕ} {contexts : String → Bool × Bool}

def parted (separator : Bool → Char) (n : ℕ) (contexts : String → Bool × Bool) (part : String → List Char)
    (needles : List String) : List Char :=
  needles.flatMap (fun m =>
    List.replicate n (separator (contexts m).1) ++ (part m ++ List.replicate n (separator (contexts m).2)))

def loweredPart (tables : CaseTables) (contexts : String → Bool × Bool) (m : String) : List Char :=
  tables.lowerIn (contexts m).1 (escaped m) (contexts m).2

theorem escape_parted (separates : Separates tables found separator) (needles : List String) :
    (parted separator n contexts String.toList needles).flatMap Json.escape = parted separator n contexts escaped needles := by
  induction needles with
  | nil => rfl
  | cons m rest ih =>
      unfold parted at ih ⊢
      rw [List.flatMap_cons,List.flatMap_cons,List.flatMap_append,List.flatMap_append,List.flatMap_append,ih,
        separates.escape_run,separates.escape_run]
      rfl

theorem lowerIn_parted (separates : Separates tables found separator) (needles : List String) (before : Bool)
    (fixed : ∀ before, tables.lowerIn before back false = back) :
    tables.lowerIn before (parted separator (n + 1) contexts escaped needles ++ back) false =
      parted separator (n + 1) contexts (loweredPart tables contexts) needles ++ back := by
  induction needles generalizing before with
  | nil => exact fixed before
  | cons m rest ih =>
      have later : ∀ before, tables.lowerIn before (parted separator (n + 1) contexts escaped rest ++ back) false =
          parted separator (n + 1) contexts (loweredPart tables contexts) rest ++ back := ih
      have split : ∀ part, parted separator (n + 1) contexts part (m :: rest) ++ back =
          List.replicate (n + 1) (separator (contexts m).1) ++ (part m ++
            (List.replicate (n + 1) (separator (contexts m).2) ++ (parted separator (n + 1) contexts part rest ++ back))) := by
        intro part
        unfold parted
        rw [List.flatMap_cons,List.append_assoc,List.append_assoc,List.append_assoc]
      rw [split,split,CaseTables.lowerIn_append,separates.lowerIn_run,separates.casedBefore_run,
        CaseTables.lowerIn_append,separates.casedAfter_run,CaseTables.lowerIn_append,separates.lowerIn_run,later]
      rfl

theorem search_parted (separates : Separates tables found separator) (long : found.length ≤ n) (needles : List String)
    (front : ∀ before next, tables.lowerIn before start next = start)
    (between : ∀ before next, tables.lowerIn before middle next = middle)
    (back : ∀ before, tables.lowerIn before finish false = finish)
    (inside : found <:+: tables.toLowerCase (start ++ (List.replicate (n + 1) (separator false) ++ (middle ++
      (List.replicate (n + 1) (separator false) ++ (parted separator (n + 1) contexts escaped needles ++ finish)))))) :
    found <:+: start ∨ found <:+: middle ∨ (∃ m ∈ needles, found <:+: loweredPart tables contexts m) ∨ found <:+: finish := by
  unfold CaseTables.toLowerCase at inside
  rw [CaseTables.lowerIn_append,front,CaseTables.lowerIn_append,separates.lowerIn_run,CaseTables.lowerIn_append,between,
    CaseTables.lowerIn_append,separates.lowerIn_run,lowerIn_parted separates needles _ back] at inside
  have long' : found.length ≤ n + 1 := long.trans (Nat.le_succ n)
  cases infix_run (separates.first false) (separates.last false) long' inside with
  | inl here => exact Or.inl here
  | inr inside =>
      cases infix_run (separates.first false) (separates.last false) long' inside with
      | inl here => exact Or.inr (Or.inl here)
      | inr inside =>
          refine Or.inr (Or.inr (infix_runs (fun m => ⟨⟨?_,?_⟩,?_,?_⟩) long' needles inside))
          · exact separates.first _
          · exact separates.last _
          · exact separates.first _
          · exact separates.last _

end Search

section Frames

def infixes (text : List Char) : List (List Char) := text.tails.flatMap List.inits

theorem mem_infixes (inside : found <:+: text) : found ∈ infixes text := by
  obtain ⟨before,after,split⟩ := inside
  apply List.mem_flatMap.mpr
  refine ⟨found ++ after,(List.mem_tails _ _).mpr ⟨before,?_⟩,(List.mem_inits _ _).mpr (List.prefix_append _ _)⟩
  rw [← List.append_assoc]
  exact split

theorem framed_of_both (string : found <:+: ['"',':','"'] ∨ found <:+: ['"','\x7d'])
    (array : found <:+: ['"',':','[','"'] ∨ found <:+: ['"',']','\x7d']) : Framed found := by
  have known : (infixes ['"',':','"'] ++ infixes ['"','\x7d']).all (fun found =>
      decide (found <:+: ['"',':','[','"'] ∨ found <:+: ['"',']','\x7d'] →
        found <:+: ['\x7b','"'] ∨ found <:+: ['"',':'] ∨ found <:+: ['\x7d'])) = true := by decide
  have member : found ∈ infixes ['"',':','"'] ++ infixes ['"','\x7d'] := by
    cases string with
    | inl inside => exact List.mem_append_left _ (mem_infixes inside)
    | inr inside => exact List.mem_append_right _ (mem_infixes inside)
  exact of_decide_eq_true (List.all_eq_true.mp known found member) array

end Frames

theorem matchRule_iff (typed : eventTypeFields rule event = some fields) (needles : rule.contains.getD [] ≠ []) :
    (∃ reported, matchRule tables numbers rule event = some reported) ↔
      ∀ needle ∈ rule.contains.getD [], lowered tables needle <:+: haystack tables numbers event := by
  have all : (rule.contains.getD []).all (fun needle => decide (lowered tables needle <:+: haystack tables numbers event)) =
      true ↔ ∀ needle ∈ rule.contains.getD [], lowered tables needle <:+: haystack tables numbers event := by
    rw [List.all_eq_true]
    exact forall₂_congr (fun needle _ => decide_eq_true_iff)
  unfold matchRule containsFields
  rw [typed,← all]
  cases (rule.contains.getD []).all (fun needle => decide (lowered tables needle <:+: haystack tables numbers event)) with
  | true => simp [needles]
  | false => simp [needles]

theorem eventTypeFields_some (rule : SigmaRule) (event : UnifiedEventSchema)
    (typed : rule.eventType.getD "" = "" ∨ rule.eventType = some event.eventType) :
    ∃ fields, eventTypeFields rule event = some fields := by
  unfold eventTypeFields
  by_cases none : rule.eventType.getD "" = ""
  · exact ⟨[],if_pos none⟩
  · have own : rule.eventType.getD "" = event.eventType := by
      rw [typed.resolve_left none]
      rfl
    rw [if_neg none,if_pos own]
    exact ⟨_,rfl⟩

def FindsNeedles (tables : CaseTables) (numbers : NumberText) (rule : SigmaRule) : Prop :=
  ∀ rules event, rule ∈ rules → (rule.eventType.getD "" = "" ∨ rule.eventType = some event.eventType) →
    (∀ needle ∈ rule.contains.getD [], Occurs needle event.rawPayload) →
      ∃ reported ∈ evaluate tables numbers rules event, matchRule tables numbers rule event = some reported

def eventOf (eventType : String) (payload : Payload) : UnifiedEventSchema where
  eventId := "evt-1"
  source := "test"
  srcIp := "1.2.3.4"
  dstIp := none
  timestamp := "2024-01-02T00:00:00.000Z"
  eventType := eventType
  severity := .severity .high
  rawPayload := payload
  userId := none
  host := none
  metadata := ⟨payload.keys,"2024-01-02T00:00:00.000Z"⟩

section Necessity
variable {n : ℕ} {contexts : String → Bool × Bool}

def runName (separator : Bool → Char) (n : ℕ) : String := String.ofList (List.replicate (n + 1) (separator false))

def runText (separator : Bool → Char) (n : ℕ) (contexts : String → Bool × Bool) (needles : List String) : String :=
  String.ofList (List.replicate (n + 1) (separator false) ++ parted separator (n + 1) contexts String.toList needles)

theorem quote_runName (separates : Separates tables found separator) (n : ℕ) :
    Json.quote (runName separator n).toList = '"' :: (List.replicate (n + 1) (separator false) ++ ['"']) := by
  unfold Json.quote runName
  rw [String.toList_ofList,separates.escape_run]

theorem quote_runText (separates : Separates tables found separator) (n : ℕ) (contexts : String → Bool × Bool)
    (needles : List String) : Json.quote (runText separator n contexts needles).toList =
      '"' :: (List.replicate (n + 1) (separator false) ++ (parted separator (n + 1) contexts escaped needles ++ ['"'])) := by
  unfold Json.quote runText
  rw [String.toList_ofList,List.flatMap_append,separates.escape_run,escape_parted separates,List.append_assoc]

theorem occurs_runText (needles : List String) (member : m ∈ needles) :
    asciiLower m.toList <:+: asciiLower (runText separator n contexts needles).toList := by
  apply List.IsInfix.map
  unfold runText
  rw [String.toList_ofList]
  have part : m.toList <:+: List.replicate (n + 1) (separator (contexts m).1) ++
      (m.toList ++ List.replicate (n + 1) (separator (contexts m).2)) := ⟨_,_,List.append_assoc _ _ _⟩
  obtain ⟨before,after,rfl⟩ := List.append_of_mem member
  refine part.trans ?_
  unfold parted
  rw [List.flatMap_append,List.flatMap_cons]
  refine List.IsInfix.trans ?_ (List.suffix_append _ _).isInfix
  exact (List.prefix_append _ _).isInfix.trans (List.suffix_append _ _).isInfix

def stringPayload (separator : Bool → Char) (n : ℕ) (contexts : String → Bool × Bool) (needles : List String) : Payload :=
  .ofList [(runName separator n,.string (runText separator n contexts needles))]

def arrayPayload (separator : Bool → Char) (n : ℕ) (contexts : String → Bool × Bool) (needles : List String) : Payload :=
  .ofList [(runName separator n,.array [.string (runText separator n contexts needles)])]

theorem haystack_string (separates : Separates tables found separator) (needles : List String) (eventType : String) :
    haystack tables numbers (eventOf eventType (stringPayload separator n contexts needles)) =
      tables.toLowerCase (['\x7b','"'] ++ (List.replicate (n + 1) (separator false) ++ (['"',':','"'] ++
        (List.replicate (n + 1) (separator false) ++ (parted separator (n + 1) contexts escaped needles ++ ['"','\x7d']))))) := by
  apply congrArg tables.toLowerCase
  change Json.stringify numbers (.object [(runName separator n,.string (runText separator n contexts needles))]) = _
  rw [Json.stringify,Json.stringifyProperties,Json.stringify,quote_runName separates,quote_runText separates]
  simp

theorem haystack_array (separates : Separates tables found separator) (needles : List String) (eventType : String) :
    haystack tables numbers (eventOf eventType (arrayPayload separator n contexts needles)) =
      tables.toLowerCase (['\x7b','"'] ++ (List.replicate (n + 1) (separator false) ++ (['"',':','[','"'] ++
        (List.replicate (n + 1) (separator false) ++ (parted separator (n + 1) contexts escaped needles ++
          ['"',']','\x7d']))))) := by
  apply congrArg tables.toLowerCase
  change Json.stringify numbers (.object [(runName separator n,.array [.string (runText separator n contexts needles)])]) = _
  rw [Json.stringify,Json.stringifyProperties,Json.stringify,Json.stringifyItems,Json.stringify,quote_runName separates,
    quote_runText separates]
  simp

end Necessity

theorem haystack_of_finds {id : String} (payload : Payload)
    (finds : FindsNeedles tables numbers ⟨id,title,level,eventType,some (first :: others)⟩)
    (occurs : ∀ m ∈ first :: others, Occurs m payload) (member : needle ∈ first :: others) :
    lowered tables needle <:+: haystack tables numbers (eventOf (eventType.getD "") payload) := by
  have typed : eventType.getD "" = "" ∨ eventType = some (eventType.getD "") := by
    cases eventType with
    | none => exact Or.inl rfl
    | some name => exact Or.inr rfl
  obtain ⟨found,_,matched⟩ := finds [_] (eventOf (eventType.getD "") payload) List.mem_cons_self typed occurs
  obtain ⟨fields,kind⟩ := eventTypeFields_some ⟨id,title,level,eventType,some (first :: others)⟩
    (eventOf (eventType.getD "") payload) typed
  exact (matchRule_iff kind (List.cons_ne_nil _ _)).mp ⟨found,matched⟩ needle member

-- A needle that no part of a rule's needles holds in some context is missed in one of the
-- two payloads that are made for it.
theorem needle_reached (id title : String) (level : EventSeverity) (eventType : Option String) (first : String)
    (others : List String) (finds : FindsNeedles tables numbers ⟨id,title,level,eventType,some (first :: others)⟩)
    (member : needle ∈ first :: others) : Framed (lowered tables needle) ∨
      ∃ m ∈ first :: others, ∀ before next, lowered tables needle <:+: tables.lowerIn before (escaped m) next := by
  by_contra missed
  have apart : ∀ m, ∃ context : Bool × Bool, m ∈ first :: others →
      ¬ lowered tables needle <:+: tables.lowerIn context.1 (escaped m) context.2 := by
    intro m
    by_contra always
    apply missed
    refine Or.inr ⟨m,?_,?_⟩
    · by_contra absent
      exact always ⟨(false,false),fun inside => absurd inside absent⟩
    · intro before next
      by_contra free
      exact always ⟨(before,next),fun _ => free⟩
  choose contexts free using apart
  obtain ⟨separator,separates⟩ := exists_separates tables (lowered tables needle)
  have long := le_refl (lowered tables needle).length
  have string := haystack_of_finds (stringPayload separator (lowered tables needle).length contexts (first :: others))
    finds (fun m inside => ⟨_,.property List.mem_cons_self .here,occurs_runText _ inside⟩) member
  have array := haystack_of_finds (arrayPayload separator (lowered tables needle).length contexts (first :: others))
    finds (fun m inside => ⟨_,.property List.mem_cons_self (.item List.mem_cons_self .here),occurs_runText _ inside⟩) member
  rw [haystack_string separates] at string
  rw [haystack_array separates] at array
  have inString := search_parted separates long (first :: others) (fun _ _ => CaseTables.lowerIn_ascii rfl _ _)
    (fun _ _ => CaseTables.lowerIn_ascii rfl _ _) (fun _ => CaseTables.lowerIn_ascii rfl _ _) string
  have inArray := search_parted separates long (first :: others) (fun _ _ => CaseTables.lowerIn_ascii rfl _ _)
    (fun _ _ => CaseTables.lowerIn_ascii rfl _ _) (fun _ => CaseTables.lowerIn_ascii rfl _ _) array
  have parts : ¬ ∃ m ∈ first :: others, lowered tables needle <:+: loweredPart tables contexts m := by
    intro inside
    obtain ⟨m,within,here⟩ := inside
    exact free m within here
  apply missed
  left
  cases inString with
  | inl start => exact Or.inl start
  | inr inString =>
      cases inArray with
      | inl start => exact Or.inl start
      | inr inArray =>
          apply framed_of_both
          · exact inString.imp_right (fun rest => rest.resolve_left parts)
          · exact inArray.imp_right (fun rest => rest.resolve_left parts)

theorem needles_found_exact (tables : CaseTables) (numbers : NumberText) (id title : String) (level : EventSeverity)
    (eventType : Option String) (first : String) (others : List String) :
    FindsNeedles tables numbers ⟨id,title,level,eventType,some (first :: others)⟩ ↔
      ∀ needle ∈ first :: others, Framed (lowered tables needle) ∨
        ∃ m ∈ first :: others, ∀ before next, lowered tables needle <:+: tables.lowerIn before (escaped m) next := by
  constructor
  · intro finds needle member
    exact needle_reached id title level eventType first others finds member
  · intro reached rules event inside typed occurs
    have found : ∀ needle ∈ first :: others, lowered tables needle <:+: haystack tables numbers event := by
      intro needle member
      cases reached needle member with
      | inl framed => exact framed_haystack (occurs first List.mem_cons_self) framed
      | inr other =>
          obtain ⟨m,within,always⟩ := other
          obtain ⟨before,next,part⟩ := occurs_haystack (occurs m within)
          exact (always before next).trans part
    obtain ⟨fields,kind⟩ := eventTypeFields_some _ event typed
    obtain ⟨reported,matched⟩ := (matchRule_iff kind (List.cons_ne_nil _ _)).mpr found
    exact ⟨reported,List.mem_filterMap.mpr ⟨_,inside,matched⟩,matched⟩

-- Printable ASCII without quotes and backslashes is found in any context.
theorem plain_needle (plain : needle.toList.all (fun c => decide (c.toNat < 128)) = true) (kept : escaped needle = needle.toList)
    (before next : Bool) : lowered tables needle <:+: tables.lowerIn before (escaped needle) next := by
  rw [kept,CaseTables.lowerIn_ascii plain]
  unfold lowered CaseTables.toLowerCase
  rw [CaseTables.lowerIn_ascii plain]

-- A quoted attack text is not found, though the payload is that text.
theorem quoted_needle_missed :
    Occurs "' OR \"1\"=\"1" (.ofList [("body",.string "' OR \"1\"=\"1")]) ∧
      evaluate .ascii .zero [⟨"sqli","Tautology",.high,none,some ["' OR \"1\"=\"1"]⟩]
        (eventOf "http_request" (.ofList [("body",.string "' OR \"1\"=\"1")])) = [] ∧
      ¬ FindsNeedles .ascii .zero ⟨"sqli","Tautology",.high,none,some ["' OR \"1\"=\"1"]⟩ := by
  have occurs : Occurs "' OR \"1\"=\"1" (.ofList [("body",.string "' OR \"1\"=\"1")]) :=
    ⟨_,.property List.mem_cons_self .here,List.infix_rfl⟩
  have missed : evaluate .ascii .zero [⟨"sqli","Tautology",.high,none,some ["' OR \"1\"=\"1"]⟩]
      (eventOf "http_request" (.ofList [("body",.string "' OR \"1\"=\"1")])) = [] := by
    decide
  refine ⟨occurs,missed,?_⟩
  intro finds
  obtain ⟨reported,member,_⟩ := finds _ (eventOf "http_request" (.ofList [("body",.string "' OR \"1\"=\"1")]))
    List.mem_cons_self (Or.inl rfl) (fun needle inside => by
      rw [List.mem_singleton.mp inside]
      exact occurs)
  rw [missed] at member
  cases member

end PhantomFlow.Detection
