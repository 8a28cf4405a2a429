/-!
# Double-precision numbers

A number literal is kept as its sixty-four bits, so that the two zeros and the many NaNs stay
apart until someone compares them. `Binary64.equals` is the comparison of IEEE 754: a NaN equals
nothing, the two zeros equal each other, and any other number equals itself alone.
-/

namespace TemplatePrinter

/-- A double-precision number, given by its bits. -/
structure Binary64 where
  bits : UInt64
deriving DecidableEq

namespace Binary64

/-- Whether the sign bit is set. -/
def negative (x : Binary64) : Bool :=
  decide (Nat.pow 2 63 ≤ x.bits.toNat)

/-- The eleven exponent bits. -/
def biasedExponent (x : Binary64) : Nat :=
  x.bits.toNat / Nat.pow 2 52 % Nat.pow 2 11

/-- The fifty-two bits below the exponent. -/
def fraction (x : Binary64) : Nat :=
  x.bits.toNat % Nat.pow 2 52

def isFinite (x : Binary64) : Bool :=
  x.biasedExponent != 2047

def isNaN (x : Binary64) : Bool :=
  x.biasedExponent == 2047 && x.fraction != 0

def isZero (x : Binary64) : Bool :=
  x.biasedExponent == 0 && x.fraction == 0

/-- The natural number `m` of the magnitude `m * 2 ^ q` of a finite number. -/
def significand (x : Binary64) : Nat :=
  if x.biasedExponent = 0 then x.fraction else Nat.pow 2 52 + x.fraction

/-- The power `q` of the magnitude `m * 2 ^ q` of a finite number. -/
def power (x : Binary64) : Int :=
  if x.biasedExponent = 0 then -1074 else (x.biasedExponent : Int) - 1075

/-- Equality of IEEE 754. -/
def equals (x y : Binary64) : Bool :=
  !x.isNaN && !y.isNaN && (x == y || (x.isZero && y.isZero))

/-- The number with its sign bit flipped. -/
def negate (x : Binary64) : Binary64 :=
  ⟨x.bits ^^^ 0x8000000000000000⟩

/-- The number nearest to `coefficient * 10 ^ exponent`, or to its opposite when `minus` is set.
-/
def ofDecimal (minus : Bool) (coefficient : Nat) (exponent : Int) : Binary64 :=
  let magnitude : Binary64 :=
    match exponent with
    | .ofNat e => ⟨(Float.ofScientific coefficient false e).toBits⟩
    | .negSucc e => ⟨(Float.ofScientific coefficient true (e + 1)).toBits⟩
  if minus then magnitude.negate else magnitude

/-- The number nearest to an integer. -/
def ofInt : Int → Binary64
  | .ofNat n => ofDecimal false n 0
  | .negSucc n => ofDecimal true (n + 1) 0

theorem equals_comm (x y : Binary64) : x.equals y = y.equals x := by
  have swap : (x == y) = (y == x) := by
    rw [Bool.eq_iff_iff]
    simp only [beq_iff_eq]
    exact eq_comm
  simp only [equals, swap, Bool.and_comm y.isZero, Bool.and_comm (!x.isNaN)]

theorem equals_self (x : Binary64) : x.equals x = !x.isNaN := by
  simp [equals]

end Binary64

end TemplatePrinter
