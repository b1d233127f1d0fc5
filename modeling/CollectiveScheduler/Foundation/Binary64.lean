/-
  Foundation/Binary64.lean --- doubles as their 64-bit patterns.

  A double is its pattern, so casting it to bits and back gives the same double,
  NaN payloads and signed zeros included.  `Double.BitCast` is that one law, for
  results about bytes that are written and read back; `Binary64` is the instance
  with the arithmetic of the patterns: exact on the values, then rounded.
-/
import CollectiveScheduler.Foundation.Double
import Mathlib.Data.Rat.Encodable
import Mathlib.Order.CountableDenseLinearOrder

set_option autoImplicit false

namespace CollectiveScheduler.Foundation

/-- A double is its bit pattern. -/
class Double.BitCast (D : Type) [Double D] : Prop where
  ofBits_toBits : ∀ x : D, Double.ofBits (Double.toBits x) = x

/-- A binary64 number. -/
structure Binary64 where
  bits : UInt64
  deriving DecidableEq

namespace Binary64

/-! ## Values -/

/-- What a pattern stands for. -/
inductive Datum where
  | finite (negative : Bool) (magnitude : ℚ)
  | infinity (negative : Bool)
  | nan
  deriving DecidableEq

def negative (x : Binary64) : Bool := decide (2 ^ 63 ≤ x.bits.toNat)

def datum (x : Binary64) : Datum :=
  if x.bits.toNat / 2 ^ 52 % 2 ^ 11 = 0x7ff then
    if x.bits.toNat % 2 ^ 52 = 0 then .infinity x.negative else .nan
  else .finite x.negative |Double.ratOfBits x.bits|

/-- The pattern of a sign and the magnitude nearest to an exact value. -/
def ofMagnitude (negative : Bool) (magnitude : ℚ) : Binary64 :=
  ⟨Double.ratToBits magnitude + if negative then 0x8000000000000000 else 0⟩

def infinity (negative : Bool) : Binary64 :=
  ⟨if negative then 0xfff0000000000000 else 0x7ff0000000000000⟩

def nan : Binary64 := ⟨0x7ff8000000000000⟩

/-- The signed value of a finite datum. -/
def signed (negative : Bool) (magnitude : ℚ) : ℚ := if negative then -magnitude else magnitude

/-! ## Arithmetic -/

def neg (x : Binary64) : Binary64 := ⟨x.bits ^^^ 0x8000000000000000⟩

/-- A sum; an exact zero is positive, unless both operands are negative zeros. -/
def add (x y : Binary64) : Binary64 :=
  match x.datum, y.datum with
  | .nan, _ => nan
  | _, .nan => nan
  | .infinity s, .infinity s' => if s = s' then infinity s else nan
  | .infinity s, .finite _ _ => infinity s
  | .finite _ _, .infinity s => infinity s
  | .finite s a, .finite s' b =>
      let q := signed s a + signed s' b
      if q = 0 then ofMagnitude (s && s') 0 else ofMagnitude (decide (q < 0)) |q|

def mul (x y : Binary64) : Binary64 :=
  match x.datum, y.datum with
  | .nan, _ => nan
  | _, .nan => nan
  | .infinity s, .infinity s' => infinity (s != s')
  | .infinity s, .finite s' b => if b = 0 then nan else infinity (s != s')
  | .finite s a, .infinity s' => if a = 0 then nan else infinity (s != s')
  | .finite s a, .finite s' b => ofMagnitude (s != s') (a * b)

def div (x y : Binary64) : Binary64 :=
  match x.datum, y.datum with
  | .nan, _ => nan
  | _, .nan => nan
  | .infinity _, .infinity _ => nan
  | .infinity s, .finite s' _ => infinity (s != s')
  | .finite s _, .infinity s' => ofMagnitude (s != s') 0
  | .finite s a, .finite s' b =>
      if b = 0 then if a = 0 then nan else infinity (s != s')
      else ofMagnitude (s != s') (a / b)

def lt (x y : Binary64) : Bool :=
  match x.datum, y.datum with
  | .nan, _ => false
  | _, .nan => false
  | .infinity s, .infinity s' => s && !s'
  | .infinity s, .finite _ _ => s
  | .finite _ _, .infinity s' => !s'
  | .finite s a, .finite s' b => decide (signed s a < signed s' b)

def eq (x y : Binary64) : Bool :=
  match x.datum, y.datum with
  | .infinity s, .infinity s' => s == s'
  | .finite s a, .finite s' b => decide (signed s a = signed s' b)
  | _, _ => false

instance : Double Binary64 where
  add := add
  sub x y := add x (neg y)
  mul := mul
  div := div
  neg := neg
  ofRat q := ofMagnitude (decide (q < 0)) |q|
  lt := lt
  eq := eq
  isNaN x := decide (x.datum = .nan)
  isFinite x := match x.datum with
    | .finite _ _ => true
    | _ => false
  toBits := bits
  ofBits := mk

instance : Double.BitCast Binary64 := ⟨fun _ => rfl⟩

/-! ## The order of the numbers -/

/-- The place of a number between the infinities, and of NaN behind them. -/
def rank (x : Binary64) : WithTop (WithBot (WithTop ℚ)) :=
  match x.datum with
  | .finite negative magnitude => ((signed negative magnitude : WithTop ℚ) : WithBot (WithTop ℚ))
  | .infinity true => (⊥ : WithBot (WithTop ℚ))
  | .infinity false => ((⊤ : WithTop ℚ) : WithBot (WithTop ℚ))
  | .nan => ⊤

/-- The line of places has room for the infinities and NaN. -/
instance : Double.Ordered Binary64 := by
  have : Countable (WithTop (WithBot (WithTop ℚ))) :=
    inferInstanceAs (Countable (Option (Option (Option ℚ))))
  obtain ⟨f⟩ := Order.embedding_from_countable_to_dense (WithTop (WithBot (WithTop ℚ))) ℚ
  refine ⟨fun x => f x.rank, ?_, ?_, ?_, ?_⟩ <;> intro x y <;>
    simp only [Double.isNaN, Double.lt, Double.eq, lt, eq, rank, f.lt_iff_lt,
      EmbeddingLike.apply_eq_iff_eq] <;>
    rcases x.datum with ⟨s, a⟩ | ⟨_ | _⟩ | _ <;> rcases y.datum with ⟨s', b⟩ | ⟨_ | _⟩ | _ <;>
    simp [bot_lt_iff_ne_bot, lt_top_iff_ne_top]

/-- The rounding of decimal fractions shows in a sum. -/
example : (Double.ofRat (1 / 10) + Double.ofRat (1 / 5) : Binary64) =
    ⟨0x3fd3333333333334⟩ := by decide +kernel

example : (Double.ofRat 1 / Double.ofRat 0 : Binary64) = infinity false := by decide +kernel

end Binary64

end CollectiveScheduler.Foundation
