import Mathlib.Algebra.Order.Ring.Rat
import Mathlib.Algebra.BigOperators.Group.List.Basic
import PhantomFlow.Library.OrderedMap

namespace PhantomFlow.Logs
open Library

-- Instants are nanoseconds from the zero time, the start of the year one.
structure LogEntry where
  timestamp : ℤ
  level : String
  source : String
  message : String
  threatScore : ℚ
deriving DecidableEq

structure ThreatSummary where
  pattern : String
  count : ℕ
  severity : String
deriving DecidableEq

structure TimeRange where
  start : ℤ := 0
  finish : ℤ := 0
deriving DecidableEq

structure AnalysisResult where
  totalEntries : ℕ := 0
  threatCount : ℕ := 0
  errorCount : ℕ := 0
  warningCount : ℕ := 0
  topThreats : List ThreatSummary := []
  timeRange : TimeRange := {}
  sourceStats : OrderedMap String ℕ := .empty

section Fields

def isSpace (c : Char) : Bool :=
  let n := c.toNat
  9 ≤ n && n ≤ 13 || n == 32 || n == 0x85 || n == 0xA0 || n == 0x1680 || 0x2000 ≤ n && n ≤ 0x200A ||
    n == 0x2028 || n == 0x2029 || n == 0x202F || n == 0x205F || n == 0x3000

def fieldsFrom (field : List Char) : List Char → List (List Char)
  | [] => if field = [] then [] else [field]
  | c :: rest =>
    if isSpace c then
      if field = [] then fieldsFrom [] rest else field :: fieldsFrom [] rest
    else fieldsFrom (field ++ [c]) rest

def fields (line : String) : List String := (fieldsFrom [] line.toList).map String.ofList

end Fields

section Time

def digit : List Char → Option (ℕ × List Char)
  | c :: rest => if c.isDigit then some (c.toNat - 48,rest) else none
  | [] => none

-- The layout asks for two digits everywhere but in the year and the hour, which has one
-- or two.
def twoDigits (text : List Char) : Option (ℕ × List Char) := do
  let (tens,rest) ← digit text
  let (ones,rest) ← digit rest
  return (10 * tens + ones,rest)

def fourDigits (text : List Char) : Option (ℕ × List Char) := do
  let (high,rest) ← twoDigits text
  let (low,rest) ← twoDigits rest
  return (100 * high + low,rest)

def oneOrTwoDigits (text : List Char) : Option (ℕ × List Char) :=
  match twoDigits text with
  | some read => some read
  | none => digit text

def skip (c : Char) : List Char → Option (List Char)
  | d :: rest => if d = c then some rest else none
  | [] => none

-- A fraction may follow the seconds though the layout has none; of its digits nine count.
def fraction : List Char → ℕ × List Char
  | mark :: d :: rest =>
    if (mark = '.' ∨ mark = ',') ∧ d.isDigit then
      let digits := ((d :: rest).takeWhile Char.isDigit).take 9
      (digits.foldl (fun n c => 10 * n + (c.toNat - 48)) 0 * 10 ^ (9 - digits.length),(d :: rest).dropWhile Char.isDigit)
    else (0,mark :: d :: rest)
  | text => (0,text)

def leap (year : ℕ) : Bool := year % 4 = 0 && (year % 100 ≠ 0 || year % 400 = 0)

def daysIn (month year : ℕ) : ℕ :=
  if month = 2 then (if leap year then 29 else 28)
  else if month = 4 ∨ month = 6 ∨ month = 9 ∨ month = 11 then 30 else 31

def daysBefore (month year : ℕ) : ℕ := ((List.range (month - 1)).map (fun m => daysIn (m + 1) year)).sum

def yearDays (year : ℕ) : ℤ :=
  let past : ℤ := year - 1
  365 * past + past / 4 - past / 100 + past / 400

def date (year month day hour minute second nanosecond : ℕ) : ℤ :=
  let days := yearDays year + daysBefore month year + (day - 1)
  (((days * 24 + hour) * 60 + minute) * 60 + second) * 1000000000 + nanosecond

-- The time in the layout `2006-01-02T15:04:05`.
def parseTime (value : String) : Option ℤ := do
  let (year,rest) ← fourDigits value.toList
  let rest ← skip '-' rest
  let (month,rest) ← twoDigits rest
  guard (1 ≤ month ∧ month ≤ 12)
  let rest ← skip '-' rest
  let (day,rest) ← twoDigits rest
  let rest ← skip 'T' rest
  let (hour,rest) ← oneOrTwoDigits rest
  guard (hour < 24)
  let rest ← skip ':' rest
  let (minute,rest) ← twoDigits rest
  guard (minute < 60)
  let rest ← skip ':' rest
  let (second,rest) ← twoDigits rest
  guard (second < 60)
  let (nanosecond,rest) := fraction rest
  guard (rest = [])
  guard (1 ≤ day ∧ day ≤ daysIn month year)
  return date year month day hour minute second nanosecond

end Time

section Threats

-- What the patterns are made of: a letter in either case, any character or none, and
-- one or more of any.
inductive Token where
  | letter (c : Char)
  | optional
  | many
deriving DecidableEq

-- Two letters have a third form beyond ASCII.
def folds (letter c : Char) : Bool :=
  c = letter || c = letter.toUpper || letter = 'k' && c = '\u212A' || letter = 's' && c = '\u017F'

def matchHere : List Token → List Char → Bool
  | [],_ => true
  | .letter c :: tokens,d :: rest => folds c d && matchHere tokens rest
  | .letter _ :: _,[] => false
  | .optional :: tokens,text =>
    matchHere tokens text || text.head?.any (fun c => c ≠ '\n') && matchHere tokens text.tail
  | .many :: tokens,text =>
    (List.range text.length).any (fun n => (text.take (n + 1)).all (fun c => c ≠ '\n') && matchHere tokens (text.drop (n + 1)))

def matchString (pattern : List Token) (text : String) : Bool := text.toList.tails.any (matchHere pattern)

def word (text : String) : List Token := text.toList.map Token.letter

def threatPatterns : List (List Token) :=
  [word "attack",
    word "malware",
    word "intrusion",
    word "unauthorized",
    word "suspicious",
    word "failed" ++ [.many] ++ word "login",
    word "brute" ++ [.optional] ++ word "force"]

def calculateThreatScore (message : String) : ℚ :=
  (threatPatterns.map (fun pattern => if matchString pattern message then 3/10 else 0)).sum

end Threats

-- A timestamp that cannot be parsed is the zero time.
def parseLogEntry (line : String) : Option LogEntry :=
  match fields line with
  | time :: level :: source :: first :: rest =>
    let message := String.intercalate " " (first :: rest)
    some {
      timestamp := (parseTime time).getD 0
      level := level
      source := source
      message := message
      threatScore := calculateThreatScore message }
  | _ => none

-- The zero time also stands for a bound that is not set.
def earlier (start timestamp : ℤ) : ℤ := if start = 0 ∨ timestamp < start then timestamp else start
def later (finish timestamp : ℤ) : ℤ := if finish = 0 ∨ finish < timestamp then timestamp else finish

def countEntry (result : AnalysisResult) (entry : LogEntry) : AnalysisResult :=
  { result with
    sourceStats := result.sourceStats.set entry.source ((result.sourceStats.get entry.source).getD 0 + 1)
    threatCount := if 1/2 < entry.threatScore then result.threatCount + 1 else result.threatCount
    errorCount := if entry.level = "ERROR" then result.errorCount + 1 else result.errorCount
    warningCount :=
      if entry.level = "ERROR" then result.warningCount
      else if entry.level = "WARN" then result.warningCount + 1 else result.warningCount
    timeRange :=
      { start := earlier result.timeRange.start entry.timestamp
        finish := later result.timeRange.finish entry.timestamp } }

def generateReport (entries : List LogEntry) : AnalysisResult :=
  entries.foldl countEntry { totalEntries := entries.length }

def entriesOf (lines : List String) : List LogEntry := lines.filterMap parseLogEntry

end PhantomFlow.Logs
