import MarkdownSections.Text.Numeral

/-!
# Binary floating-point numbers

A finite number is a mantissa below `2 ^ 53` times a power of two, with the least exponent
`-1074`; the representation is the one with the largest mantissa, so equal numbers have equal
fields. All operations compute the exact result as a ratio of whole numbers and round it once, to
the nearest number and to the even mantissa on a tie.
-/

set_option autoImplicit false

namespace MarkdownSections

/-- The power of two with an exponent. -/
def twoPow (n : Nat) : Nat :=
  Nat.pow 2 n

/-- A floating-point number of 53 bits; a zero keeps its sign. -/
inductive Binary64 where
  | finite (negative : Bool) (mantissa : Nat) (exponent : Int)
  | infinite (negative : Bool)
  | nan
deriving DecidableEq, Repr, Inhabited

namespace Binary64

/-- The least exponent of a finite number. -/
def minExponent : Int := -1074

/-- The greatest exponent of a finite number. -/
def maxExponent : Int := 971

/-- The zero of a sign. -/
def zero (negative : Bool) : Binary64 :=
  .finite negative 0 minExponent

/-- The quotient of two numbers, rounded to nearest, ties to even. -/
def roundDiv (num den : Nat) : Nat :=
  let q := num / den
  let r := num % den
  if 2 * r < den then q else if den < 2 * r then q + 1 else q + q % 2

/-- `num / den / 2 ^ e` as a numerator and a denominator. -/
def scaleDown (num den : Nat) (e : Int) : Nat × Nat :=
  (num * twoPow (-e).toNat, den * twoPow e.toNat)

/-- The number nearest to `num / den`. -/
def ofRatio (negative : Bool) (num den : Nat) : Binary64 :=
  if num = 0 then zero negative
  else
    let guess : Int := (Nat.log2 num : Int) - (Nat.log2 den : Int) - 52
    let fit := scaleDown num den guess
    let exact := if fit.1 / fit.2 < twoPow 52 then guess - 1 else guess
    let exponent := max exact minExponent
    let scaled := scaleDown num den exponent
    let mantissa := roundDiv scaled.1 scaled.2
    let carried := mantissa == twoPow 53
    let exponent := if carried then exponent + 1 else exponent
    if maxExponent < exponent then .infinite negative
    else .finite negative (if carried then twoPow 52 else mantissa) exponent

/-- The number nearest to `digits * 10 ^ exponent`. -/
def ofDecimal (negative : Bool) (digits : Nat) (exponent : Int) : Binary64 :=
  if digits = 0 then zero negative
  else if 400 < exponent then .infinite negative
  else if exponent + Nat.log2 digits < -400 then zero negative
  else ofRatio negative (digits * tenPow exponent.toNat) (tenPow (-exponent).toNat)

/-- The number nearest to a whole number. -/
def ofInt (i : Int) : Binary64 :=
  ofRatio (i < 0) i.natAbs 1

/-- A finite number as a signed numerator and a denominator. -/
def ratio? : Binary64 → Option (Int × Nat)
  | .finite negative m e =>
    let n : Int := (m * twoPow e.toNat : Nat)
    some (if negative then -n else n, twoPow (-e).toNat)
  | _ => none

/-- The number with the other sign. -/
def neg : Binary64 → Binary64
  | .finite negative m e => .finite (!negative) m e
  | .infinite negative => .infinite (!negative)
  | .nan => .nan

/-- Whether a number has a minus sign. -/
def isNegative : Binary64 → Bool
  | .finite negative _ _ => negative
  | .infinite negative => negative
  | .nan => false

/-- The rounded sum of two numbers; a sum of zeros is negative if both are. -/
def add (x y : Binary64) : Binary64 :=
  match x, y with
  | .nan, _ | _, .nan => .nan
  | .infinite a, .infinite b => if a == b then x else .nan
  | .infinite _, _ => x
  | _, .infinite _ => y
  | _, _ =>
    match x.ratio?, y.ratio? with
    | some (a, b), some (c, d) =>
      let n := a * d + c * b
      ofRatio (if n = 0 then x.isNegative && y.isNegative else n < 0) n.natAbs (b * d)
    | _, _ => .nan

/-- The rounded product of two numbers; a zero times an infinity is none. -/
def mul (x y : Binary64) : Binary64 :=
  let negative := x.isNegative != y.isNegative
  match x, y with
  | .nan, _ | _, .nan => .nan
  | .infinite _, .finite _ m _ | .finite _ m _, .infinite _ =>
    if m = 0 then .nan else .infinite negative
  | .infinite _, .infinite _ => .infinite negative
  | _, _ =>
    match x.ratio?, y.ratio? with
    | some (a, b), some (c, d) => ofRatio negative (a * c).natAbs (b * d)
    | _, _ => .nan

/-- The whole number that a finite number equals, if there is one. -/
def toInt? (x : Binary64) : Option Int :=
  match x.ratio? with
  | some (n, d) => if n % (d : Int) = 0 then some (n / d) else none
  | none => none

/-- Whether a number is a zero of either sign. -/
def isZero : Binary64 → Bool
  | .finite _ m _ => m == 0
  | _ => false

/-- Whether a number is finite. -/
def isFinite : Binary64 → Bool
  | .finite .. => true
  | _ => false

/-- Equality of numbers: zeros are equal, and what is not a number equals nothing. -/
def equal (x y : Binary64) : Bool :=
  match x, y with
  | .nan, _ => false
  | _, .nan => false
  | _, _ => x == y || (x.isZero && y.isZero)

end Binary64

end MarkdownSections
