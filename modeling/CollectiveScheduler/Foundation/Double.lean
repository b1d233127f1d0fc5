/-
  Foundation/Double.lean --- the double-precision operations a program uses.

  The class lists the operations and assumes no law of them, so a result about
  every instance covers IEEE arithmetic with its rounding, infinities and NaN.
  Results that idealise doubles as exact numbers are stated at the instance `ℚ`.
-/
import Mathlib.Algebra.Order.Ring.Rat
import Mathlib.Data.Rat.Floor

set_option autoImplicit false

namespace CollectiveScheduler.Foundation

/-- Double-precision numbers, by their operations. -/
class Double (D : Type) extends Add D, Sub D, Mul D, Div D, Neg D where
  /-- the number nearest to an exact value: literals and integer casts -/
  ofRat : ℚ → D
  /-- `<`, false when an operand is NaN -/
  lt : D → D → Bool
  /-- `==`, false when an operand is NaN -/
  eq : D → D → Bool
  isNaN : D → Bool
  isFinite : D → Bool
  /-- `bit_cast` to the 64-bit pattern -/
  toBits : D → UInt64
  /-- `bit_cast` from the 64-bit pattern -/
  ofBits : UInt64 → D

namespace Double

variable {D : Type} [Double D]

/-- `<=`, from the two primitive comparisons. -/
def le (a b : D) : Bool := lt a b || eq a b

/-- The comparisons are those of places on a line, on which all NaN share the last place. -/
structure Places (place : D → ℚ) : Prop where
  lt : ∀ a b, isNaN a = false → isNaN b = false → lt a b = decide (place a < place b)
  eq : ∀ a b, isNaN a = false → isNaN b = false → eq a b = decide (place a = place b)
  last : ∀ a b, isNaN a = true → isNaN b = false → place b < place a
  same : ∀ a b, isNaN a = true → isNaN b = true → place a = place b

/-- The comparisons order the numbers. -/
class Ordered (D : Type) [Double D] : Prop where
  places : ∃ place : D → ℚ, Places place

/-! ## Exact rationals

The bit casts of the exact instance go through the nearest binary64 number. -/

/-- The exponent `e` with `2 ^ e ≤ n / d < 2 ^ (e + 1)`, for positive `n` and `d`. -/
def binaryExponent (n d : Nat) : Int :=
  let e : Int := (Nat.log2 n : Int) - Nat.log2 d
  if n * 2 ^ (-e).toNat < d * 2 ^ e.toNat then e - 1 else e

/-- Round a non-negative quotient to the nearest integer, ties to even. -/
def roundHalfEven (n d : Nat) : Nat :=
  let q := n / d
  let r := n % d
  if 2 * r < d ∨ (2 * r = d ∧ q % 2 = 0) then q else q + 1

/-- The binary64 pattern nearest to an exact value. -/
def ratToBits (q : ℚ) : UInt64 :=
  if q = 0 then 0
  else
    let n := q.num.natAbs
    let e := max (binaryExponent n q.den) (-1022)
    -- scale so that the significand of a normal number has 53 bits
    let s := 52 - e
    let m := roundHalfEven (n * 2 ^ s.toNat) (q.den * 2 ^ (-s).toNat)
    -- a carry out of the significand, and a subnormal one, fall into place here
    let pattern := (e + 1022).toNat * 2 ^ 52 + m
    let magnitude := min pattern (0x7ff * 2 ^ 52)
    UInt64.ofNat (if q < 0 then 2 ^ 63 + magnitude else magnitude)

/-- The exact value of a finite binary64 pattern, and 0 for the others. -/
def ratOfBits (b : UInt64) : ℚ :=
  let n : Nat := b.toNat
  let e : Nat := n / 2 ^ 52 % 2 ^ 11
  let f : Nat := n % 2 ^ 52
  let magnitude : ℚ :=
    if e = 0x7ff then 0
    else if e = 0 then (f : ℚ) / 2 ^ 1074
    else ((2 ^ 52 + f : Nat) : ℚ) * 2 ^ e / 2 ^ 1075
  if n < 2 ^ 63 then magnitude else -magnitude

instance : Double ℚ where
  ofRat q := q
  lt a b := decide (a < b)
  eq a b := decide (a = b)
  isNaN _ := false
  isFinite _ := true
  toBits := ratToBits
  ofBits := ratOfBits

example : ratToBits 1 = 0x3ff0000000000000 := by decide +kernel

example : ratOfBits (ratToBits (-5 / 8)) = -5 / 8 := by decide +kernel

theorem rat_ofRat (q : ℚ) : (Double.ofRat q : ℚ) = q := rfl

@[simp] theorem rat_lt (a b : ℚ) : Double.lt a b = decide (a < b) := rfl

@[simp] theorem rat_eq (a b : ℚ) : Double.eq a b = decide (a = b) := rfl

@[simp] theorem rat_le (a b : ℚ) : Double.le a b = decide (a ≤ b) := by
  simp only [Double.le, rat_lt, rat_eq, ← Bool.decide_or, le_iff_lt_or_eq]

@[simp] theorem rat_isNaN (a : ℚ) : Double.isNaN a = false := rfl

instance : Ordered ℚ :=
  ⟨id, fun _ _ _ _ => rfl, fun _ _ _ _ => rfl, fun _ _ h => absurd h Bool.false_ne_true,
    fun _ _ h => absurd h Bool.false_ne_true⟩

end Double

end CollectiveScheduler.Foundation
