import Mathlib.Algebra.Order.Ring.Int

namespace PhantomFlow.Library.JsInt32

-- The bitwise operators read their operands modulo 2^32. All of them but `>>>`
-- give a signed result.
def toUint32 (x : ℤ) : ℕ := (x % 4294967296).toNat
def toInt32 (x : ℤ) : ℤ := Int.bmod x 4294967296

def bitAnd (x y : ℤ) : ℤ := toInt32 (toUint32 x &&& toUint32 y : ℕ)
def bitOr (x y : ℤ) : ℤ := toInt32 (toUint32 x ||| toUint32 y : ℕ)
def bitXor (x y : ℤ) : ℤ := toInt32 (toUint32 x ^^^ toUint32 y : ℕ)
def shl (x : ℤ) (n : ℕ) : ℤ := toInt32 (toUint32 x <<< n : ℕ)
def ushr (x : ℤ) (n : ℕ) : ℤ := (toUint32 x >>> n : ℕ)

-- An integer as a double: 53 significant bits, ties to even.
def roundNat (n : ℕ) : ℕ :=
  let unit := 2 ^ (n.log2 + 1 - 53)
  let quotient := n / unit
  let rest := n % unit
  if unit < 2 * rest ∨ (2 * rest = unit ∧ quotient % 2 = 1) then (quotient + 1) * unit else quotient * unit

def times (x y : ℤ) : ℤ := (x * y).sign * roundNat (x * y).natAbs

end PhantomFlow.Library.JsInt32
