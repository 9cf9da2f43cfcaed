/-!
# JSON — numbers with a fraction or an exponent

A `Real` is kept as it is written, a whole number times a power of ten.  Two of its roundings to
binary64 are asked for, zero and one, and both are decided exactly: a real rounds to zero up to
half of the least subnormal, and to one between the midpoints on either side of it, both included
because one is even.
-/

namespace FolderSieve.Json

/-- `digits · 10 ^ exponent`, or one of the values no decimal has. -/
inductive Real where
  | finite (digits : Int) (exponent : Int)
  | infinite (negative : Bool)
  | undefined
  deriving DecidableEq, Repr

namespace Real

/-- Powers of ten beyond these have left the range in which a real can round to zero or one. -/
def tooSmall : Int := -330

def tooLarge : Int := 2

/-- `m · 10 ^ e` as a fraction. -/
def fraction (m : Nat) (e : Int) : Nat × Nat :=
  if 0 ≤ e then (m * Nat.pow 10 e.toNat, 1) else (m, Nat.pow 10 (-e).toNat)

/-- The place of the leading digit, one more than its exponent. -/
def magnitude (m : Nat) (e : Int) : Int :=
  (Nat.toDigits 10 m).length + e

/-- The nearest binary64 number is zero. -/
def isZero : Real → Bool
  | .finite digits e =>
      let m := digits.natAbs
      if m = 0 then true
      else if tooLarge < magnitude m e then false
      else if magnitude m e < tooSmall then true
      else
        let (num, den) := fraction m e
        num * Nat.pow 2 1075 ≤ den
  | .infinite _ | .undefined => false

/-- The nearest binary64 number is one. -/
def isOne : Real → Bool
  | .finite digits e =>
      let m := digits.natAbs
      if digits ≤ 0 then false
      else if tooLarge < magnitude m e then false
      else if magnitude m e < tooSmall then false
      else
        let (num, den) := fraction m e
        den * (Nat.pow 2 54 - 1) ≤ num * Nat.pow 2 54 &&
          num * Nat.pow 2 53 ≤ den * (Nat.pow 2 53 + 1)
  | .infinite _ | .undefined => false

end Real

end FolderSieve.Json
