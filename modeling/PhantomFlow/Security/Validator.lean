import Mathlib.Algebra.Order.Ring.Rat
import Mathlib.Tactic.Linarith
import Mathlib.Tactic.NormNum
import Mathlib.Tactic.Ring
import Mathlib.Algebra.BigOperators.Group.List.Basic
import PhantomFlow.Library.Latest
import PhantomFlow.Library.OrderedMap

namespace PhantomFlow.Security
open Library

abbrev Severity := ℤ

namespace Severity
def low : Severity := 0
def medium : Severity := 1
def high : Severity := 2
def critical : Severity := 3
end Severity

structure ValidationRule where
  name : String
  pattern : String
  severity : Severity
  description : String
  enabled : Bool
deriving DecidableEq

structure RuleViolation where
  rule : String
  severity : Severity
  description : String
  location : String
  context : String
deriving DecidableEq

structure ValidationResult where
  valid : Bool
  score : ℚ
  violations : List RuleViolation
  timestamp : ℤ
deriving DecidableEq

structure SecurityRequest where
  path : String
  headers : List (String × String)
  body : String

-- The regexp package: compiling an expression, whether one matches, and its matches.
structure Regexp (R : Type u) where
  compile : String → Except String R
  matchString : R → String → Bool
  findAllString : R → String → List String

structure Validator (R : Type u) where
  patterns : OrderedMap String R
  rules : List ValidationRule

def defaultRules : List ValidationRule :=
  [{ name := "SQL Injection Detection"
     pattern := "(?i)(union|select|insert|update|delete|drop|create|alter|exec|execute)"
     severity := .high
     description := "Detects potential SQL injection attempts"
     enabled := true },
   { name := "XSS Pattern Detection"
     pattern := "(?i)(<script|javascript:|on\\w+\\s*=)"
     severity := .medium
     description := "Detects potential XSS attack patterns"
     enabled := true },
   { name := "Path Traversal Detection"
     pattern := "\\.\\./|\\.\\.\\\\|%2e%2e%2f|%2e%2e%5c"
     severity := .high
     description := "Detects directory traversal attempts"
     enabled := true },
   { name := "Command Injection Detection"
     pattern := "[;&|\x60$()]"
     severity := .critical
     description := "Detects potential command injection characters"
     enabled := true },
   { name := "Suspicious Headers"
     pattern := "(?i)(x-forwarded-for|x-real-ip|x-cluster-client-ip)"
     severity := .low
     description := "Detects suspicious proxy headers"
     enabled := true }]

namespace Validator
variable {R : Type u} (regexp : Regexp R)

-- A rule is added with its compiled pattern, which replaces one of the same name.
def addRule (v : Validator R) (rule : ValidationRule) : Validator R × Option String :=
  match regexp.compile rule.pattern with
  | .error err => (v,some ("invalid regex pattern for rule " ++ rule.name ++ ": " ++ err))
  | .ok compiled => (⟨v.patterns.set rule.name compiled,v.rules ++ [rule]⟩,none)

def addRules (v : Validator R) (rules : List ValidationRule) : Validator R :=
  rules.foldl (fun v rule => (v.addRule regexp rule).1) v

def newValidator : Validator R := addRules regexp ⟨.empty,[]⟩ defaultRules

def extractContext (input : String) (pattern : R) : String := String.intercalate ", " (regexp.findAllString pattern input)

def checkRule (v : Validator R) (input inputType : String) (rule : ValidationRule) : Option RuleViolation :=
  if rule.enabled then
    match v.patterns.get rule.name with
    | none => none
    | some pattern =>
      if regexp.matchString pattern input then
        some ⟨rule.name,rule.severity,rule.description,inputType,extractContext regexp input pattern⟩
      else none
  else none

def weight (severity : Severity) : ℚ := severity * (1/4)

def capped (score : ℚ) : ℚ := if 1 < score then 1 else score

def validateInput (v : Validator R) (now : ℤ) (input inputType : String) : ValidationResult :=
  let violations := v.rules.filterMap (v.checkRule regexp input inputType)
  let score := (violations.map (fun violation => weight violation.severity)).sum
  { valid := violations.isEmpty
    score := capped score
    violations := violations
    timestamp := now }

-- The headers come in the order in which the map is iterated.
def validateRequest (v : Validator R) (now : ℤ) (req : SecurityRequest) : ValidationResult :=
  let pathResult := v.validateInput regexp now req.path "path"
  let headerResults := req.headers.map (fun header => v.validateInput regexp now header.2 ("header:" ++ header.1))
  let bodyResults := if req.body = "" then [] else [v.validateInput regexp now req.body "body"]
  let violations :=
    pathResult.violations ++ headerResults.flatMap ValidationResult.violations ++
      bodyResults.flatMap ValidationResult.violations
  let score :=
    pathResult.score * (3/10) + (headerResults.map (fun result => result.score * (2/10))).sum +
      (bodyResults.map (fun result => result.score * (5/10))).sum
  { valid := violations.isEmpty
    score := capped score
    violations := violations
    timestamp := now }

def calculateThreatScore (result : ValidationResult) : ℚ :=
  if result.violations.isEmpty then 0
  else (result.violations.map (fun violation => weight violation.severity)).sum

end Validator

namespace Regexp
variable {R : Type u} (regexp : Regexp R)

def compiles (rule : ValidationRule) : Bool := (regexp.compile rule.pattern).isOk

def matchesRule (input : String) (rule : ValidationRule) : Bool :=
  match regexp.compile rule.pattern with
  | .error _ => false
  | .ok pattern => regexp.matchString pattern input

def latestMatches (rules : List ValidationRule) (input name : String) : Bool :=
  match latest ValidationRule.name name rules with
  | none => false
  | some rule => regexp.matchesRule input rule

end Regexp

namespace Validator
variable {R : Type u} {regexp : Regexp R} {v : Validator R}

-- The two collections of a validator fit: every rule was compiled, and under a name is
-- the pattern of the last rule that has it.
structure Joined (regexp : Regexp R) (v : Validator R) : Prop where
  compiled : ∀ rule ∈ v.rules, ∃ pattern, regexp.compile rule.pattern = .ok pattern
  latest : ∀ name, v.patterns.get name =
    (Library.latest ValidationRule.name name v.rules).bind (fun rule => (regexp.compile rule.pattern).toOption)

theorem addRule_cases (regexp : Regexp R) (v : Validator R) (rule : ValidationRule) :
    (regexp.compiles rule = false ∧ (v.addRule regexp rule).1 = v) ∨
      ∃ pattern, regexp.compile rule.pattern = .ok pattern ∧ regexp.compiles rule = true ∧
        (v.addRule regexp rule).1 = ⟨v.patterns.set rule.name pattern,v.rules ++ [rule]⟩ := by
  unfold addRule Regexp.compiles
  cases regexp.compile rule.pattern with
  | error err => exact Or.inl ⟨rfl,rfl⟩
  | ok pattern => exact Or.inr ⟨pattern,rfl,rfl,rfl⟩

theorem joined_empty (regexp : Regexp R) : Joined regexp ⟨.empty,[]⟩ := by
  refine ⟨?_,fun _ => rfl⟩
  intro rule member
  cases member

theorem Joined.addRule (joined : Joined regexp v) (rule : ValidationRule) : Joined regexp (v.addRule regexp rule).1 := by
  obtain ⟨_,same⟩ | ⟨pattern,compiled,_,added⟩ := addRule_cases regexp v rule
  · rw [same]
    exact joined
  · rw [added]
    refine ⟨?_,?_⟩
    · intro other member
      cases List.mem_append.mp member with
      | inl old => exact joined.compiled other old
      | inr new =>
          rw [List.mem_singleton.mp new]
          exact ⟨pattern,compiled⟩
    · intro name
      rw [OrderedMap.get_set,latest_snoc]
      by_cases named : name = rule.name
      · subst named
        simp [compiled,Except.toOption]
      · rw [if_neg named,if_neg (fun same => named same.symm)]
        exact joined.latest name

theorem Joined.addRules (joined : Joined regexp v) (rules : List ValidationRule) : Joined regexp (v.addRules regexp rules) := by
  induction rules generalizing v with
  | nil => exact joined
  | cons rule rest ih => exact ih (joined.addRule rule)

theorem addRules_rules (regexp : Regexp R) (v : Validator R) (rules : List ValidationRule) :
    (v.addRules regexp rules).rules = v.rules ++ rules.filter regexp.compiles := by
  induction rules generalizing v with
  | nil => exact (List.append_nil _).symm
  | cons rule rest ih =>
      change ((v.addRule regexp rule).1.addRules regexp rest).rules = _
      rw [ih]
      obtain ⟨failed,same⟩ | ⟨pattern,_,compiles,added⟩ := addRule_cases regexp v rule
      · rw [same,List.filter_cons_of_neg (by rw [failed]; decide)]
      · rw [added,List.filter_cons_of_pos compiles,List.append_assoc]
        rfl

def reported (violation : RuleViolation) : String × Severity × String × String :=
  (violation.rule,violation.severity,violation.description,violation.location)

def expected (inputType : String) (rule : ValidationRule) : String × Severity × String × String :=
  (rule.name,rule.severity,rule.description,inputType)

def selected (rules : List ValidationRule) (select : ValidationRule → Bool) : List ValidationRule :=
  (rules.filter ValidationRule.enabled).filter select

theorem Joined.checkRule (joined : Joined regexp v) (input inputType : String) (member : rule ∈ v.rules) :
    (v.checkRule regexp input inputType rule).map reported =
      if rule.enabled ∧ regexp.latestMatches v.rules input rule.name then some (expected inputType rule) else none := by
  obtain ⟨last,found⟩ := latest_isSome ValidationRule.name member
  obtain ⟨pattern,compiled⟩ := joined.compiled last (latest_some found).1
  have stored := joined.latest rule.name
  rw [found,Option.bind_some,compiled] at stored
  have matched : regexp.latestMatches v.rules input rule.name = regexp.matchString pattern input := by
    simp [Regexp.latestMatches,found,Regexp.matchesRule,compiled]
  have patterned : v.patterns.get rule.name = some pattern := stored
  rw [matched]
  unfold Validator.checkRule
  rw [patterned]
  cases enabled : rule.enabled with
  | false => simp
  | true => cases matching : regexp.matchString pattern input <;> simp [matching,reported,expected]

theorem filterMap_selected (rules : List ValidationRule) (check : ValidationRule → Option α) (read : α → β)
    (select : ValidationRule → Bool) (expect : ValidationRule → β)
    (checked : ∀ rule ∈ rules, (check rule).map read = if rule.enabled ∧ select rule then some (expect rule) else none) :
    (rules.filterMap check).map read = (selected rules select).map expect := by
  unfold selected
  rw [List.map_filterMap,List.filterMap_congr checked,List.filter_filter]
  clear checked
  induction rules with
  | nil => rfl
  | cons rule rest ih => cases one : rule.enabled <;> cases other : select rule <;> simp [one,other,ih]

theorem Joined.violations (joined : Joined regexp v) (now : ℤ) (input inputType : String) :
    (v.validateInput regexp now input inputType).violations.map reported =
      (selected v.rules (fun rule => regexp.latestMatches v.rules input rule.name)).map (expected inputType) :=
  filterMap_selected v.rules _ reported _ (expected inputType) (fun _ => joined.checkRule input inputType)

theorem capped_facts (total : ℤ) : (capped (weight total) = 0 ↔ total = 0) ∧ (0 ≤ capped (weight total) ↔ 0 ≤ total) ∧
    capped (weight total) ≤ 1 := by
  unfold capped weight
  split
  · rename_i above
    have positive : 0 < total := by
      have scaled : (0 : ℚ) < total := by linarith
      exact_mod_cast scaled
    refine ⟨?_,?_,le_refl _⟩
    · exact ⟨fun zero => absurd zero one_ne_zero,fun zero => absurd zero positive.ne'⟩
    · exact ⟨fun _ => positive.le,fun _ => zero_le_one⟩
  · rename_i below
    refine ⟨?_,?_,not_lt.mp below⟩
    · rw [mul_eq_zero,or_iff_left (by norm_num),Int.cast_eq_zero]
    · rw [mul_nonneg_iff_of_pos_right (by norm_num),Int.cast_nonneg_iff]

theorem weight_sum (severities : List Severity) : (severities.map weight).sum = weight severities.sum := by
  induction severities with
  | nil => simp [weight]
  | cons severity rest ih =>
      rw [List.map_cons,List.sum_cons,List.sum_cons,ih]
      unfold weight
      push_cast
      ring

theorem Joined.score (joined : Joined regexp v) (now : ℤ) (input inputType : String) :
    (v.validateInput regexp now input inputType).score = capped (weight
      ((selected v.rules (fun rule => regexp.latestMatches v.rules input rule.name)).map ValidationRule.severity).sum) := by
  have severities := congrArg (List.map (fun row => row.2.1)) (joined.violations now input inputType)
  rw [List.map_map,List.map_map] at severities
  change (v.validateInput regexp now input inputType).violations.map RuleViolation.severity =
    (selected v.rules _).map ValidationRule.severity at severities
  rw [← severities,← weight_sum,List.map_map]
  rfl

theorem Joined.valid (joined : Joined regexp v) (now : ℤ) (input inputType : String) :
    (v.validateInput regexp now input inputType).valid = true ↔
      selected v.rules (fun rule => regexp.latestMatches v.rules input rule.name) = [] := by
  have reports := joined.violations now input inputType
  change (v.validateInput regexp now input inputType).violations.isEmpty = true ↔ _
  rw [List.isEmpty_iff,← List.map_eq_nil_iff (f:=reported),reports,List.map_eq_nil_iff]

theorem score_eq (v : Validator R) (now : ℤ) (input inputType : String) :
    (v.validateInput regexp now input inputType).score =
      capped (calculateThreatScore (v.validateInput regexp now input inputType)) := by
  unfold calculateThreatScore
  split
  · rename_i none
    have empty := List.isEmpty_iff.mp none
    change capped ((v.validateInput regexp now input inputType).violations.map _).sum = _
    rw [empty]
    rfl
  · rfl

theorem validateRequest_valid_iff (v : Validator R) (now : ℤ) (req : SecurityRequest) :
    (v.validateRequest regexp now req).valid = true ↔
      (v.validateInput regexp now req.path "path").valid = true ∧
        (∀ header ∈ req.headers, (v.validateInput regexp now header.2 ("header:" ++ header.1)).valid = true) ∧
        (req.body ≠ "" → (v.validateInput regexp now req.body "body").valid = true) := by
  have valid : ∀ input inputType, (v.validateInput regexp now input inputType).valid = true ↔
      (v.validateInput regexp now input inputType).violations = [] := fun _ _ => List.isEmpty_iff
  simp only [valid]
  unfold validateRequest
  rw [List.isEmpty_iff,List.append_eq_nil_iff,List.append_eq_nil_iff,List.flatMap_eq_nil_iff,and_assoc]
  apply and_congr_right'
  apply and_congr
  · exact List.forall_mem_map
  · split
    · rename_i empty
      simp [empty]
    · rename_i present
      simp [present]

def afterCalls (regexp : Regexp R) (calls : List ValidationRule) : Validator R := (newValidator regexp).addRules regexp calls

def addedRules (regexp : Regexp R) (calls : List ValidationRule) : List ValidationRule :=
  (defaultRules ++ calls).filter regexp.compiles

theorem joined_afterCalls (regexp : Regexp R) (calls : List ValidationRule) : Joined regexp (afterCalls regexp calls) :=
  ((joined_empty regexp).addRules defaultRules).addRules calls

theorem afterCalls_rules (regexp : Regexp R) (calls : List ValidationRule) :
    (afterCalls regexp calls).rules = addedRules regexp calls := by
  unfold afterCalls newValidator addedRules
  rw [addRules_rules,addRules_rules,List.filter_append]
  rfl

structure ChecksOwnPatterns (regexp : Regexp R) (calls : List ValidationRule) (now : ℤ) (input inputType : String) :
    Prop where
  violations : ((afterCalls regexp calls).validateInput regexp now input inputType).violations.map reported =
    (selected (addedRules regexp calls) (regexp.matchesRule input)).map (expected inputType)
  score : ((afterCalls regexp calls).validateInput regexp now input inputType).score = 0 ↔
    ((afterCalls regexp calls).validateInput regexp now input inputType).valid = true
  range : 0 ≤ ((afterCalls regexp calls).validateInput regexp now input inputType).score ∧
    ((afterCalls regexp calls).validateInput regexp now input inputType).score ≤ 1

-- For each enabled rule the last pattern under its name answers as its own does.
def Unshadowed (regexp : Regexp R) (rules : List ValidationRule) (input : String) : Prop :=
  ∀ rule ∈ rules, rule.enabled = true → regexp.latestMatches rules input rule.name = regexp.matchesRule input rule

theorem Unshadowed.selected {rules : List ValidationRule} (unshadowed : Unshadowed regexp rules input) :
    selected rules (fun rule => regexp.latestMatches rules input rule.name) =
      selected rules (regexp.matchesRule input) := by
  apply List.filter_congr
  intro rule member
  obtain ⟨member,enabled⟩ := List.mem_filter.mp member
  exact unshadowed rule member enabled

theorem selected_eq_iff (regexp : Regexp R) (rules : List ValidationRule) (input inputType : String) :
    (selected rules (fun rule => regexp.latestMatches rules input rule.name)).map (expected inputType) =
      (selected rules (regexp.matchesRule input)).map (expected inputType) ↔ Unshadowed regexp rules input := by
  constructor
  · intro same
    have names := congrArg (List.map Prod.fst) same
    rw [List.map_map,List.map_map] at names
    have agree := (filter_keys_eq_iff (rules.filter ValidationRule.enabled) ValidationRule.name
      (regexp.latestMatches rules input) (regexp.matchesRule input)).mp names
    intro rule member enabled
    exact agree rule (List.mem_filter.mpr ⟨member,enabled⟩)
  · intro unshadowed
    rw [unshadowed.selected]

theorem own_patterns_exact (regexp : Regexp R) (calls : List ValidationRule) (now : ℤ) (input inputType : String) :
    ChecksOwnPatterns regexp calls now input inputType ↔
      Unshadowed regexp (addedRules regexp calls) input ∧
        (selected (addedRules regexp calls) (regexp.matchesRule input) = [] ∨
          0 < ((selected (addedRules regexp calls) (regexp.matchesRule input)).map ValidationRule.severity).sum) := by
  have joined := joined_afterCalls regexp calls
  have reports := joined.violations now input inputType
  have scores := joined.score now input inputType
  have valid := joined.valid now input inputType
  rw [afterCalls_rules] at reports scores valid
  have exactly := selected_eq_iff regexp (addedRules regexp calls) input inputType
  constructor
  · intro checks
    have unshadowed := exactly.mp (reports.symm.trans checks.violations)
    rw [unshadowed.selected] at scores valid
    refine ⟨unshadowed,?_⟩
    obtain ⟨zero,sign,_⟩ := capped_facts
      ((selected (addedRules regexp calls) (regexp.matchesRule input)).map ValidationRule.severity).sum
    have nonneg := sign.mp (by rw [← scores]; exact checks.range.1)
    cases nonneg.eq_or_lt with
    | inl total => exact Or.inl (valid.mp (checks.score.mp (by rw [scores]; exact zero.mpr total.symm)))
    | inr positive => exact Or.inr positive
  · intro both
    obtain ⟨unshadowed,total⟩ := both
    rw [unshadowed.selected] at scores valid
    obtain ⟨zero,sign,most⟩ := capped_facts
      ((selected (addedRules regexp calls) (regexp.matchesRule input)).map ValidationRule.severity).sum
    refine ⟨reports.trans (exactly.mpr unshadowed),?_,?_⟩
    · rw [scores,valid,zero]
      cases total with
      | inl none => simp [none]
      | inr positive =>
          constructor
          · intro nothing
            exact absurd nothing positive.ne'
          · intro none
            rw [none]
            rfl
    · rw [scores,sign]
      refine ⟨?_,most⟩
      cases total with
      | inl none => simp [none]
      | inr positive => exact positive.le

def occurs (pattern input : String) : Bool := input.toList.tails.any (pattern.toList.isPrefixOf ·)

def literal : Regexp String where
  compile := .ok
  matchString := occurs
  findAllString pattern input := bif occurs pattern input then [pattern] else []

-- A second rule of the same name silences the first; one of low severity scores nothing.
theorem shadowed_rule_silent :
    ¬ ChecksOwnPatterns literal [⟨"probe","abc",.high,"",true⟩,⟨"probe","xyz",.high,"",true⟩] 0 "abc" "body" ∧
      ¬ ChecksOwnPatterns literal [⟨"probe","abc",.low,"",true⟩] 0 "abc" "body" := by
  constructor
  · intro checks
    exact absurd checks.violations (by decide)
  · intro checks
    have score := (joined_afterCalls literal [⟨"probe","abc",.low,"",true⟩]).score 0 "abc" "body"
    exact absurd (checks.score.mp (score.trans ((capped_facts _).1.mpr (by decide)))) (by decide)

end Validator

end PhantomFlow.Security
