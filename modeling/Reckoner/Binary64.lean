/-!
# Binary floating-point numbers of 64 bits

A decimal fraction read as a floating-point number becomes the nearest number with 53 significant bits, the even one of two
that are equally near. Below 2^-1022 the spacing stays that of the smallest numbers, 2^-1074; from the midpoint above the
largest number on, the result is infinite. Of such a number only its exact value is of interest here.
-/

namespace Reckoner

/-- A floating-point number: `significand * 2 ^ exponent`, infinite, or not a number. Zero has no sign. -/
inductive Binary64 where
  | finite (significand exponent : Int)
  | infinite
  | notANumber
  deriving DecidableEq, Repr

namespace Binary64

/-- The quotient of two natural numbers, rounded to the nearest integer, the even one of two that are equally near. -/
def nearestQuotient (num den : Nat) : Nat :=
  let q := num / den
  let twice := 2 * (num % den)
  if twice < den ∨ (twice = den ∧ q % 2 = 0) then q else q + 1

/-- The greatest `e` with `2 ^ e ≤ num / den`. -/
def binaryMagnitude (num den : Nat) : Int :=
  let e : Int := (num.log2 : Int) - den.log2
  if den <<< e.toNat ≤ num <<< (-e).toNat then e else e - 1

/-- The number nearest to `num / den`, negated or not. -/
def ofQuotient (negative : Bool) (num den : Nat) : Binary64 :=
  let exponent := max (-1074) (binaryMagnitude num den - 52)
  let significand := nearestQuotient (num <<< (-exponent).toNat) (den <<< exponent.toNat)
  if 971 < exponent ∨ (exponent = 971 ∧ 1 <<< 53 ≤ significand) then .infinite
  else .finite (if negative then -significand else significand) exponent

/-- The number nearest to `digits * 10 ^ scale`, negated or not. Far outside the range of the finite numbers the power of
ten is not formed. -/
def ofDecimal (negative : Bool) (digits : Nat) (scale : Int) : Binary64 :=
  let magnitude := (digits.log2 : Int) * 30103 / 100000 + scale
  if digits = 0 ∨ magnitude < -400 then .finite 0 0
  else if 400 < magnitude then .infinite
  else ofQuotient negative (digits * Nat.pow 10 scale.toNat) (Nat.pow 10 (-scale).toNat)

/-- The integer that a number is, if it has no fractional part. -/
def integer? : Binary64 → Option Int
  | .finite significand exponent =>
    if 0 ≤ exponent then some (significand * (1 <<< exponent.toNat : Nat))
    else
      let unit : Int := (1 <<< (-exponent).toNat : Nat)
      if significand % unit = 0 then some (significand / unit) else none
  | .infinite | .notANumber => none

end Binary64

end Reckoner
