import PhantomFlow.Analysis.PatternMatcher
import PhantomFlow.Library.Machine

namespace PhantomFlow.Analysis
open Library Library.Machine
variable {R : Type u} (crate : RegexCrate R)

inductive Operation (R : Type u) where
  | addPattern (pattern : PatternDefinition)
  | addPatterns (patterns : List PatternDefinition)
  | enablePattern (id : String)
  | disablePattern (id : String)
  | matchText (text : String) (iteration : Iteration R)

inductive Answer where
  | done (result : Except PatternError Unit)
  | found (result : Option (List PatternMatch))

def step (matcher : PatternMatcher R) : Operation R → PatternMatcher R × Answer
  | .addPattern pattern => ((matcher.addPattern crate pattern).2,.done (matcher.addPattern crate pattern).1)
  | .addPatterns patterns => ((matcher.addPatterns crate patterns).2,.done (matcher.addPatterns crate patterns).1)
  | .enablePattern id => ((matcher.enablePattern id).2,.done (matcher.enablePattern id).1)
  | .disablePattern id => ((matcher.disablePattern id).2,.done (matcher.disablePattern id).1)
  | .matchText text iteration =>
    ((matcher.matchText crate iteration text).2,.found (matcher.matchText crate iteration text).1)

def matchesOf (config : MatchingConfig) (patterns : OrderedMap String (CompiledPattern R)) (text : String) :
    Option (List PatternMatch) :=
  PatternMatcher.collectMatches crate config text patterns.values

def SameMatches (first second : Option (List PatternMatch)) : Prop :=
  ∃ these those, first = some these ∧ second = some those ∧ these.Perm those

abbrev Recorded (R : Type u) := PatternMatcher R × (String → OrderedMap String (CompiledPattern R))

def recordingStep (s : Recorded R) (operation : Operation R) : Recorded R × Answer :=
  let next := step crate s.1 operation
  let snapshots :=
    match operation with
    | .matchText text _ => if s.1.cache.has text then s.2 else Function.update s.2 text s.1.patterns
    | _ => s.2
  ((next.1,snapshots),next.2)

def Transparent (s : Recorded R) (operation : Operation R) : Prop :=
  match operation with
  | .matchText text iteration =>
    SameMatches (s.1.matchText crate iteration text).1 (matchesOf crate s.1.config s.1.patterns text)
  | _ => True

-- A text that is not in the cache has all contexts cut at character boundaries; one
-- that is has the same matches as when it was put there.
def Unchanged (s : Recorded R) (operation : Operation R) : Prop :=
  match operation with
  | .matchText text _ =>
    if s.1.cache.has text then
      SameMatches (matchesOf crate s.1.config (s.2 text) text) (matchesOf crate s.1.config s.1.patterns text)
    else (matchesOf crate s.1.config s.1.patterns text).isSome = true
  | _ => True

def Dated (s : Recorded R) : Prop :=
  ∀ text found, s.1.cache.get text = some found → SameMatches (some found) (matchesOf crate s.1.config (s.2 text) text)

section Matches
variable {crate}

theorem SameMatches.symm {first second : Option (List PatternMatch)} (same : SameMatches first second) :
    SameMatches second first := by
  obtain ⟨these,those,one,two,order⟩ := same
  exact ⟨those,these,two,one,order.symm⟩

theorem SameMatches.trans {first second third : Option (List PatternMatch)} (same : SameMatches first second)
    (same' : SameMatches second third) : SameMatches first third := by
  obtain ⟨a,b,one,two,order⟩ := same
  obtain ⟨b',c,two',three,order'⟩ := same'
  rw [two] at two'
  cases two'
  exact ⟨a,c,one,three,order.trans order'⟩

theorem collectMatches_cons (config : MatchingConfig) (text : String) (pattern : CompiledPattern R)
    (rest : List (CompiledPattern R)) :
    PatternMatcher.collectMatches crate config text (pattern :: rest) =
      (if pattern.enabled then PatternMatcher.findPatternMatches crate config text pattern else some []).bind
        (fun found => (PatternMatcher.collectMatches crate config text rest).map (found ++ ·)) := by
  rw [PatternMatcher.collectMatches]
  split
  · cases PatternMatcher.findPatternMatches crate config text pattern with
    | none => rfl
    | some found =>
        cases PatternMatcher.collectMatches crate config text rest <;> rfl
  · cases PatternMatcher.collectMatches crate config text rest <;> simp

theorem collectMatches_perm {config : MatchingConfig} {text : String} {first second : List (CompiledPattern R)}
    (order : first.Perm second) {found : List PatternMatch}
    (collected : PatternMatcher.collectMatches crate config text first = some found) :
    ∃ found', PatternMatcher.collectMatches crate config text second = some found' ∧ found.Perm found' := by
  induction order generalizing found with
  | nil => exact ⟨found,collected,.refl _⟩
  | cons pattern _ ih =>
      rw [collectMatches_cons] at collected ⊢
      obtain ⟨own,here,collected⟩ := Option.bind_eq_some_iff.mp collected
      obtain ⟨later,there,rfl⟩ := Option.map_eq_some_iff.mp collected
      obtain ⟨later',there',same⟩ := ih there
      exact ⟨own ++ later',by rw [here,Option.bind_some,there']; rfl,same.append_left own⟩
  | swap first second rest =>
      rw [collectMatches_cons,collectMatches_cons] at collected ⊢
      obtain ⟨a,one,collected⟩ := Option.bind_eq_some_iff.mp collected
      obtain ⟨both,there,rfl⟩ := Option.map_eq_some_iff.mp collected
      obtain ⟨b,two,collected⟩ := Option.bind_eq_some_iff.mp there
      obtain ⟨later,last,rfl⟩ := Option.map_eq_some_iff.mp collected
      refine ⟨b ++ (a ++ later),by rw [two,Option.bind_some,one,Option.bind_some,last]; rfl,?_⟩
      rw [← List.append_assoc,← List.append_assoc]
      exact List.perm_append_comm.append_right later
  | trans _ _ ih ih' =>
      obtain ⟨middle,there,same⟩ := ih collected
      obtain ⟨last,there',same'⟩ := ih' there
      exact ⟨last,there',same.trans same'⟩

theorem matchText_cached {matcher : PatternMatcher R} (cached : matcher.cache.get text = some found)
    (iteration : Iteration R) : matcher.matchText crate iteration text = (some found,matcher) := by
  rw [PatternMatcher.matchText,PatternMatcher.getCachedMatches,cached]

theorem matchText_fresh (crate : RegexCrate R) {matcher : PatternMatcher R} (absent : matcher.cache.get text = none)
    (iteration : Iteration R) :
    (matchesOf crate matcher.config matcher.patterns text = none ∧
        matcher.matchText crate iteration text = (none,matcher)) ∨
      ∃ found, SameMatches (some found) (matchesOf crate matcher.config matcher.patterns text) ∧
        matcher.matchText crate iteration text = (some found,matcher.cacheMatches iteration text found) := by
  rw [PatternMatcher.matchText,PatternMatcher.getCachedMatches,absent]
  have order := iteration.values_perm matcher.patterns.values
  cases collected : PatternMatcher.collectMatches crate matcher.config text (iteration.values matcher.patterns.values) with
  | none =>
      refine .inl ⟨?_,rfl⟩
      cases now : matchesOf crate matcher.config matcher.patterns text with
      | none => rfl
      | some found =>
          obtain ⟨found',impossible,_⟩ := collectMatches_perm order.symm now
          rw [collected] at impossible
          cases impossible
  | some found =>
      obtain ⟨found',now,same⟩ := collectMatches_perm order collected
      refine .inr ⟨found.mergeSort PatternMatcher.ranksBefore,⟨_,found',rfl,now,?_⟩,rfl⟩
      exact (List.mergeSort_perm found _).trans same

theorem get_cacheMatches {matcher : PatternMatcher R} {iteration : Iteration R}
    (cached : (matcher.cacheMatches iteration text found).cache.get text' = some found') :
    text' = text ∧ found' = found ∨ matcher.cache.get text' = some found' := by
  have kept : ∀ (removed : List String) (cache : OrderedMap String (List PatternMatch)),
      (removed.foldl OrderedMap.delete cache).get text' = some found' → cache.get text' = some found' := by
    intro removed
    induction removed with
    | nil => intro cache here; exact here
    | cons key rest ih =>
        intro cache here
        have before := ih _ here
        rw [OrderedMap.get_delete] at before
        split at before
        · cases before
        · exact before
  unfold PatternMatcher.cacheMatches at cached
  split at cached
  · exact .inr cached
  · simp only [OrderedMap.get_set] at cached
    split at cached
    · rename_i same
      exact .inl ⟨same,(Option.some.inj cached).symm⟩
    · exact .inr (kept _ _ cached)

end Matches

section Runs
variable {crate}

theorem addPattern_frame (matcher : PatternMatcher R) (pattern : PatternDefinition) :
    (matcher.addPattern crate pattern).2.cache = matcher.cache ∧
      (matcher.addPattern crate pattern).2.config = matcher.config := by
  unfold PatternMatcher.addPattern
  split <;> exact ⟨rfl,rfl⟩

theorem addPatterns_frame (matcher : PatternMatcher R) (patterns : List PatternDefinition) :
    (matcher.addPatterns crate patterns).2.cache = matcher.cache ∧
      (matcher.addPatterns crate patterns).2.config = matcher.config := by
  induction patterns generalizing matcher with
  | nil => exact ⟨rfl,rfl⟩
  | cons pattern rest ih =>
      have first : (matcher.addPattern crate pattern).2.cache = matcher.cache ∧ _ := addPattern_frame matcher pattern
      unfold PatternMatcher.addPatterns
      cases added : matcher.addPattern crate pattern with
      | mk result next =>
      rw [added] at first
      cases result with
      | error error => exact first
      | ok done => exact ⟨(ih next).1.trans first.1,(ih next).2.trans first.2⟩

theorem setEnabled_frame (matcher : PatternMatcher R) (id : String) (enabled : Bool) :
    (matcher.setEnabled id enabled).2.cache = matcher.cache ∧
      (matcher.setEnabled id enabled).2.config = matcher.config := by
  unfold PatternMatcher.setEnabled
  split <;> exact ⟨rfl,rfl⟩

theorem cacheMatches_config (iteration : Iteration R) (matcher : PatternMatcher R) (text : String)
    (found : List PatternMatch) : (matcher.cacheMatches iteration text found).config = matcher.config := by
  unfold PatternMatcher.cacheMatches
  split <;> rfl

theorem Dated.of_frame {s : Recorded R} (dated : Dated crate s) {matcher : PatternMatcher R}
    (frame : matcher.cache = s.1.cache ∧ matcher.config = s.1.config) : Dated crate (matcher,s.2) := by
  intro text found cached
  rw [frame.1] at cached
  rw [frame.2]
  exact dated text found cached

theorem recordingStep_dated {s : Recorded R} (dated : Dated crate s) (operation : Operation R) :
    Dated crate (recordingStep crate s operation).1 := by
  cases operation with
  | addPattern pattern => exact dated.of_frame (addPattern_frame s.1 pattern)
  | addPatterns patterns => exact dated.of_frame (addPatterns_frame s.1 patterns)
  | enablePattern id => exact dated.of_frame (setEnabled_frame s.1 id true)
  | disablePattern id => exact dated.of_frame (setEnabled_frame s.1 id false)
  | matchText text iteration =>
      cases cached : s.1.cache.get text with
      | some found =>
          have here := OrderedMap.has_of_get cached
          simp only [recordingStep,step,matchText_cached cached,here,if_true]
          exact dated
      | none =>
          have absent := OrderedMap.has_of_get_none cached
          -- A new snapshot of the text meets no older answer to it.
          have older : ∀ text' found, s.1.cache.get text' = some found →
              SameMatches (some found)
                (matchesOf crate s.1.config (Function.update s.2 text s.1.patterns text') text') := by
            intro text' found there
            have other : text' ≠ text := by
              intro same
              rw [same,cached] at there
              cases there
            rw [Function.update_of_ne other]
            exact dated text' found there
          rcases matchText_fresh crate cached iteration with ⟨_,panics⟩ | ⟨found,right,answers⟩
          · simp only [recordingStep,step,panics,absent,Bool.false_eq_true,if_false]
            exact older
          · simp only [recordingStep,step,answers,absent,Bool.false_eq_true,if_false]
            intro text' found' there
            simp only [cacheMatches_config]
            rcases get_cacheMatches there with ⟨same,new⟩ | there
            · rw [same,new,Function.update_self]
              exact right
            · exact older text' found' there

theorem transparent_iff_unchanged {s : Recorded R} (dated : Dated crate s) (operation : Operation R) :
    Transparent crate s operation ↔ Unchanged crate s operation := by
  cases operation with
  | matchText text iteration =>
      cases cached : s.1.cache.get text with
      | some found =>
          have here := OrderedMap.has_of_get cached
          have before := dated text found cached
          simp only [Transparent,Unchanged,matchText_cached cached,here,if_true]
          exact ⟨fun now => before.symm.trans now,fun now => before.trans now⟩
      | none =>
          have absent := OrderedMap.has_of_get_none cached
          simp only [Transparent,Unchanged,absent,Bool.false_eq_true,if_false]
          rcases matchText_fresh crate cached iteration with ⟨nothing,panics⟩ | ⟨found,right,answers⟩
          · rw [nothing,panics]
            refine iff_of_false ?_ (by simp)
            intro impossible
            obtain ⟨_,_,missing,_⟩ := impossible
            cases missing
          · rw [answers]
            refine iff_of_true right ?_
            obtain ⟨_,now,_,there,_⟩ := right
            rw [there]
            rfl
  | _ => exact Iff.rfl

end Runs

theorem match_text_transparent_iff (config : MatchingConfig) (operations : List (Operation R)) :
    Along (recordingStep crate) (Transparent crate) (PatternMatcher.new config,fun _ => .empty) operations ↔
      Along (recordingStep crate) (Unchanged crate) (PatternMatcher.new config,fun _ => .empty) operations := by
  have start : Dated crate ((PatternMatcher.new config,fun _ => .empty) : Recorded R) := by
    intro text found cached
    cases cached
  have preserved : ∀ (s : Recorded R) (operation : Operation R), Dated crate s → True →
      Dated crate (recordingStep crate s operation).1 := fun s operation dated _ => recordingStep_dated dated operation
  exact along_exact preserved (fun s operation dated => transparent_iff_unchanged dated operation) start
    (fun _ _ => trivial)

def plainOrder : Iteration Unit := ⟨id,fun _ => .refl _,id,fun _ => .refl _⟩
def plainCrate : RegexCrate Unit := ⟨fun _ _ _ _ => .ok (),fun _ _ => [(0,1,"x")],()⟩

def plainPattern : PatternDefinition := ⟨"a","A","x",.xss,.high,.finite 1,true,.empty⟩

-- The answer that was cached while the pattern was enabled comes back after it is
-- disabled.
theorem disabled_pattern_still_matches :
    ¬ ∀ (crate : RegexCrate Unit) (operations : List (Operation Unit)),
      Along (recordingStep crate) (Transparent crate) (PatternMatcher.new {},fun _ => .empty) operations := by
  intro all
  have run := all plainCrate
    [.addPattern plainPattern,.matchText "x" plainOrder,.disablePattern "a",.matchText "x" plainOrder]
  generalize matcher : (PatternMatcher.addPattern plainCrate (.new {}) plainPattern).2 = added at *
  have last : SameMatches
      ((((added.matchText plainCrate plainOrder "x").2.disablePattern "a").2.matchText plainCrate plainOrder "x").1)
      (matchesOf plainCrate ((added.matchText plainCrate plainOrder "x").2.disablePattern "a").2.config
        ((added.matchText plainCrate plainOrder "x").2.disablePattern "a").2.patterns "x") := by
    rw [← matcher]
    exact run.2.2.2.1
  have before : added.cache.get "x" = none := by rw [← matcher]; rfl
  rcases matchText_fresh plainCrate before plainOrder with ⟨nothing,_⟩ | ⟨found,right,answers⟩
  · rw [← matcher] at nothing
    cases nothing
  · rw [answers] at last
    obtain ⟨these,now,same,there,order⟩ := right
    cases same
    have single : found.length = 1 := by
      rw [order.length_eq]
      rw [← matcher] at there
      cases there
      rfl
    obtain ⟨one,rfl⟩ := List.length_eq_one_iff.mp single
    have held : ((PatternMatcher.cacheMatches plainOrder added "x" [one]).disablePattern "a").2.cache.get "x" =
        some [one] := by
      rw [← matcher]
      rfl
    rw [matchText_cached held] at last
    obtain ⟨stale,current,same,nothing,order⟩ := last
    cases same
    rw [← matcher] at nothing
    cases nothing
    cases order.eq_nil

end PhantomFlow.Analysis
