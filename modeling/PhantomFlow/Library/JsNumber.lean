import Mathlib.Algebra.Order.Floor.Ring
import Mathlib.Algebra.Field.Defs
import Mathlib.Data.Rat.Floor

namespace PhantomFlow.Library

-- Exact arithmetic with the three non-finite results a script number can take.
-- Quotients, logarithms and infinite starting values leave `finite`.
inductive JsNumber (K : Type u) where
  | finite (value : K)
  | posInf
  | negInf
  | nan
  deriving DecidableEq

-- The library functions that leave the field operations, on the arguments where
-- they are finite.
structure JsMath (K : Type u) where
  sqrt : K → K
  log : K → K
  log2 : K → K
  exp : K → K

def lit [Field K] (value : ℚ) : K := value

@[simp] theorem lit_cast [Field K] (value : ℚ) : (lit value : K) = value := rfl

namespace JsNumber
variable {K : Type u} [Field K] [LinearOrder K]

-- A zero divisor is the positive zero.
def div (a b : K) : JsNumber K :=
  if b ≠ 0 then .finite (a / b)
  else if 0 < a then .posInf
  else if a < 0 then .negInf
  else .nan

def neg : JsNumber K → JsNumber K
  | .finite value => .finite (-value)
  | .posInf => .negInf
  | .negInf => .posInf
  | .nan => .nan

def add : JsNumber K → JsNumber K → JsNumber K
  | .finite a,.finite b => .finite (a + b)
  | .nan,_ | _,.nan | .posInf,.negInf | .negInf,.posInf => .nan
  | .posInf,_ | _,.posInf => .posInf
  | .negInf,_ | _,.negInf => .negInf

def sub (x y : JsNumber K) : JsNumber K := x.add y.neg

def abs : JsNumber K → JsNumber K
  | .finite value => .finite |value|
  | .negInf | .posInf => .posInf
  | .nan => .nan

def signOf : JsNumber K → ℤ
  | .finite value => if 0 < value then 1 else if value < 0 then -1 else 0
  | .posInf => 1
  | .negInf => -1
  | .nan => 0

-- An infinite factor keeps its size; times zero it is NaN.
def mul : JsNumber K → JsNumber K → JsNumber K
  | .finite a,.finite b => .finite (a * b)
  | .nan,_ | _,.nan => .nan
  | x,y =>
    if 0 < signOf x * signOf y then .posInf else if signOf x * signOf y < 0 then .negInf else .nan

def quotient : JsNumber K → JsNumber K → JsNumber K
  | .finite a,.finite b => div a b
  | .finite _,.posInf | .finite _,.negInf => .finite 0
  | .posInf,.finite b => if 0 ≤ b then .posInf else .negInf
  | .negInf,.finite b => if 0 ≤ b then .negInf else .posInf
  | _,_ => .nan

def logarithm (f : K → K) : JsNumber K → JsNumber K
  | .finite a => if 0 < a then .finite (f a) else if a = 0 then .negInf else .nan
  | .posInf => .posInf
  | .negInf | .nan => .nan

def squareRoot (f : K → K) : JsNumber K → JsNumber K
  | .finite a => if 0 ≤ a then .finite (f a) else .nan
  | .posInf => .posInf
  | .negInf | .nan => .nan

-- Multiplication by a positive constant and addition of a finite offset keep the
-- non-finite values.
def scale (factor : K) : JsNumber K → JsNumber K
  | .finite value => .finite (value * factor)
  | other => other

def shift (offset : K) : JsNumber K → JsNumber K
  | .finite value => .finite (offset + value)
  | other => other

-- `x < y`; comparisons with NaN are false.
def lt : JsNumber K → JsNumber K → Bool
  | .finite a,.finite b => decide (a < b)
  | .negInf,.finite _ | .negInf,.posInf | .finite _,.posInf => true
  | _,_ => false

def le : JsNumber K → JsNumber K → Bool
  | .nan,_ | _,.nan => false
  | x,y => !lt y x

def min : JsNumber K → JsNumber K → JsNumber K
  | .nan,_ | _,.nan => .nan
  | x,y => if lt x y then x else y

def max : JsNumber K → JsNumber K → JsNumber K
  | .nan,_ | _,.nan => .nan
  | .posInf,_ | _,.posInf => .posInf
  | .negInf,other | other,.negInf => other
  | .finite a,.finite b => .finite (Max.max a b)

-- `x || 0`: zero and NaN are falsy.
def orZero : Option (JsNumber K) → JsNumber K
  | none | some .nan => .finite 0
  | some other => other

variable [FloorRing K]

def floor : JsNumber K → JsNumber K
  | .finite value => .finite ⌊value⌋
  | other => other

def ceil : JsNumber K → JsNumber K
  | .finite value => .finite ⌈value⌉
  | other => other

-- `Math.round`: to the nearest integer, halves upwards.
def round : JsNumber K → JsNumber K
  | .finite value => .finite ⌊value + lit (1/2)⌋
  | other => other

-- `toFixed`: the nearest decimal with that many digits, halves away from zero.
def toFixedNumber (digits : ℕ) (value : K) : String :=
  let units := ⌊|value| * lit 10 ^ digits + lit (1/2)⌋.natAbs
  let text := (toString units).toList
  let padded := List.replicate (digits + 1 - text.length) '0' ++ text
  let whole := padded.take (padded.length - digits)
  let fraction := if digits = 0 then [] else '.' :: padded.drop (padded.length - digits)
  (if value < 0 then "-" else "") ++ String.ofList (whole ++ fraction)

def toFixed (digits : ℕ) : JsNumber K → String
  | .finite value => toFixedNumber digits value
  | .posInf => "Infinity"
  | .negInf => "-Infinity"
  | .nan => "NaN"

def truncate (value : ℚ) : ℤ := if 0 ≤ value then ⌊value⌋ else ⌈value⌉

end JsNumber

-- A numeric field that may have been through JSON, where a number that is not
-- finite becomes `null`. Arithmetic and comparisons read `null` as zero.
inductive JsonNumber (K : Type u) where
  | number (value : JsNumber K)
  | null
  deriving DecidableEq

namespace JsonNumber
variable {K : Type u}

def toNumber [Field K] : JsonNumber K → JsNumber K
  | .number value => value
  | .null => .finite 0

def isFinite : JsonNumber K → Bool
  | .number (.finite _) => true
  | _ => false

def throughJson : JsonNumber K → JsonNumber K
  | .number (.finite value) => .number (.finite value)
  | _ => .null

end JsonNumber

-- A date, or the text that JSON makes of it, which has none of a date's functions.
inductive Stamp where
  | date (time : ℤ)
  | text (time : ℤ)
  deriving DecidableEq

namespace Stamp

def time : Stamp → ℤ
  | .date time | .text time => time

def isText : Stamp → Bool
  | .text _ => true
  | .date _ => false

def throughJson (stamp : Stamp) : Stamp := .text stamp.time

def precedes : Stamp → Stamp → Bool
  | .date earlier,.date later => decide (earlier < later)
  | _,_ => false

theorem precedes_dates {first second : Stamp} (before : first.precedes second = true) :
    first.isText = false ∧ second.isText = false ∧ first.time < second.time := by
  cases first with
  | text => cases before
  | date earlier =>
      cases second with
      | text => cases before
      | date later => exact ⟨rfl,rfl,of_decide_eq_true before⟩

end Stamp
end PhantomFlow.Library
