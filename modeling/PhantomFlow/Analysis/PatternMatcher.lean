import PhantomFlow.Library.JsNumber
import PhantomFlow.Library.OrderedMap

namespace PhantomFlow.Analysis
open Library

inductive PatternCategory where
  | malware | exploit | phishing | dataExfiltration | commandInjection | sqlInjection | xss | pathTraversal
  | bruteForce | dDoS | botnet | cryptocurrency | socialEngineering | networkAnomaly | unknown
deriving DecidableEq

inductive PatternSeverity where
  | low | medium | high | critical
deriving DecidableEq

def PatternSeverity.rank : PatternSeverity → ℕ
  | .low => 1
  | .medium => 2
  | .high => 3
  | .critical => 4

structure PatternDefinition where
  id : String
  name : String
  pattern : String
  category : PatternCategory
  severity : PatternSeverity
  confidence : JsNumber ℚ
  enabled : Bool
  metadata : OrderedMap String String

structure CompiledPattern (R : Type u) where
  id : String
  name : String
  regex : Option R
  pattern : String
  category : PatternCategory
  severity : PatternSeverity
  confidence : JsNumber ℚ
  enabled : Bool
  metadata : OrderedMap String String

structure PatternMatch where
  patternId : String
  patternName : String
  category : PatternCategory
  severity : PatternSeverity
  confidence : JsNumber ℚ
  matchedText : String
  startPos : ℕ
  endPos : ℕ
  context : String
  metadata : OrderedMap String String

structure MatchingConfig where
  caseSensitive : Bool := false
  multiline : Bool := true
  dotall : Bool := false
  cacheSize : ℕ := 1000
  maxContextLength : ℕ := 200

inductive PatternError where
  | regexError (message : String)
  | patternNotFound (id : String)
  | invalidDefinition (message : String)
  | ioError (message : String)
deriving DecidableEq

-- The regex crate: building an expression, the matches of one in a text as byte
-- offsets with the text between them, and the expression `a^`.
structure RegexCrate (R : Type u) where
  build : (caseInsensitive multiLine dotMatchesNewLine : Bool) → String → Except String R
  findIter : R → String → List (ℕ × ℕ × String)
  empty : R

structure PatternMatcher (R : Type u) where
  patterns : OrderedMap String (CompiledPattern R)
  cache : OrderedMap String (List PatternMatch)
  config : MatchingConfig

structure Iteration (R : Type u) where
  values : List (CompiledPattern R) → List (CompiledPattern R)
  values_perm : ∀ patterns, (values patterns).Perm patterns
  keys : List String → List String
  keys_perm : ∀ texts, (keys texts).Perm texts

-- A slice between two byte offsets; off a character boundary it panics.
def dropBytes : List Char → ℕ → Option (List Char)
  | text,0 => some text
  | [],_ + 1 => none
  | c :: rest,n + 1 => if c.utf8Size ≤ n + 1 then dropBytes rest (n + 1 - c.utf8Size) else none

def takeBytes : List Char → ℕ → Option (List Char)
  | _,0 => some []
  | [],_ + 1 => none
  | c :: rest,n + 1 => if c.utf8Size ≤ n + 1 then (takeBytes rest (n + 1 - c.utf8Size)).map (c :: ·) else none

def sliceBytes (text : String) (start finish : ℕ) : Option String :=
  if start ≤ finish then
    ((dropBytes text.toList start).bind (fun rest => takeBytes rest (finish - start))).map String.ofList
  else none

namespace PatternMatcher
variable {R : Type u} (crate : RegexCrate R)

def new (config : MatchingConfig) : PatternMatcher R := ⟨.empty,.empty,config⟩

def compilePattern (config : MatchingConfig) (pattern : PatternDefinition) : Except PatternError (CompiledPattern R) :=
  match crate.build (!config.caseSensitive) config.multiline config.dotall pattern.pattern with
  | .error message => .error (.regexError message)
  | .ok regex =>
    .ok {
      id := pattern.id
      name := pattern.name
      regex := some regex
      pattern := pattern.pattern
      category := pattern.category
      severity := pattern.severity
      confidence := pattern.confidence
      enabled := pattern.enabled
      metadata := pattern.metadata }

def addPattern (matcher : PatternMatcher R) (pattern : PatternDefinition) :
    Except PatternError Unit × PatternMatcher R :=
  match compilePattern crate matcher.config pattern with
  | .error error => (.error error,matcher)
  | .ok compiled => (.ok (),{ matcher with patterns := matcher.patterns.set compiled.id compiled })

-- The patterns before the first one that fails stay.
def addPatterns (matcher : PatternMatcher R) : List PatternDefinition → Except PatternError Unit × PatternMatcher R
  | [] => (.ok (),matcher)
  | pattern :: rest =>
    match addPattern crate matcher pattern with
    | (.error error,next) => (.error error,next)
    | (.ok (),next) => addPatterns next rest

def setEnabled (matcher : PatternMatcher R) (patternId : String) (enabled : Bool) :
    Except PatternError Unit × PatternMatcher R :=
  match matcher.patterns.get patternId with
  | some pattern => (.ok (),{ matcher with patterns := matcher.patterns.set patternId { pattern with enabled } })
  | none => (.error (.patternNotFound patternId),matcher)

def enablePattern (matcher : PatternMatcher R) (patternId : String) : Except PatternError Unit × PatternMatcher R :=
  matcher.setEnabled patternId true

def disablePattern (matcher : PatternMatcher R) (patternId : String) : Except PatternError Unit × PatternMatcher R :=
  matcher.setEnabled patternId false

def extractContext (config : MatchingConfig) (text : String) (start finish : ℕ) : Option String :=
  let contextLength := config.maxContextLength
  let textLen := text.utf8ByteSize
  let contextStart := start - contextLength / 2
  let contextEnd := min (finish + contextLength / 2) textLen
  (sliceBytes text contextStart contextEnd).map (fun context =>
    (if 0 < contextStart then "..." else "") ++ context ++ (if contextEnd < textLen then "..." else ""))

def findPatternMatches (config : MatchingConfig) (text : String) (pattern : CompiledPattern R) :
    Option (List PatternMatch) :=
  (crate.findIter (pattern.regex.getD crate.empty) text).mapM (fun found => do
    let (startPos,endPos,matchedText) := found
    let context ← extractContext config text startPos endPos
    return {
      patternId := pattern.id
      patternName := pattern.name
      category := pattern.category
      severity := pattern.severity
      confidence := pattern.confidence
      matchedText := matchedText
      startPos := startPos
      endPos := endPos
      context := context
      metadata := (pattern.metadata.set "pattern_id" pattern.id).set "match_length" (toString (endPos - startPos)) })

def collectMatches (config : MatchingConfig) (text : String) : List (CompiledPattern R) → Option (List PatternMatch)
  | [] => some []
  | pattern :: rest =>
    if pattern.enabled then do
      let found ← findPatternMatches crate config text pattern
      let later ← collectMatches config text rest
      return found ++ later
    else collectMatches config text rest

-- The more severe match first, then the more confident one; a NaN is equal to all.
def ranksBefore (a b : PatternMatch) : Bool :=
  !(decide (a.severity.rank < b.severity.rank) ||
    decide (a.severity.rank = b.severity.rank) && JsNumber.lt a.confidence b.confidence)

def getCachedMatches (matcher : PatternMatcher R) (text : String) : Option (List PatternMatch) := matcher.cache.get text

def cacheMatches (iteration : Iteration R) (matcher : PatternMatcher R) (text : String) (found : List PatternMatch) :
    PatternMatcher R :=
  if found.isEmpty then matcher
  else
    let size := matcher.cache.size
    let keysToRemove :=
      if matcher.config.cacheSize ≤ size then
        (iteration.keys matcher.cache.keys).take (size - matcher.config.cacheSize + 1)
      else []
    { matcher with cache := (keysToRemove.foldl OrderedMap.delete matcher.cache).set text found }

def matchText (iteration : Iteration R) (matcher : PatternMatcher R) (text : String) :
    Option (List PatternMatch) × PatternMatcher R :=
  match matcher.getCachedMatches text with
  | some cached => (some cached,matcher)
  | none =>
    match collectMatches crate matcher.config text (iteration.values matcher.patterns.values) with
    | none => (none,matcher)
    | some found =>
      let sorted := found.mergeSort ranksBefore
      (some sorted,cacheMatches iteration matcher text sorted)

end PatternMatcher

end PhantomFlow.Analysis
