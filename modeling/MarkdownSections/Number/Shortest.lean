import MarkdownSections.Number.Binary64
import MarkdownSections.Text.Numeral

/-!
# The shortest decimal of a binary number

A finite number is written with the fewest significant digits that read back to it, and among
those with the digits nearest to it. Its text is positional while the decimal point stands within
sixteen digits of the number or up to four zeros in front of it, and scientific beyond.
-/

set_option autoImplicit false

namespace MarkdownSections.Binary64

/-- The reals that round to `mantissa * 2 ^ exponent`, in quarters of `2 ^ exponent`: lower end,
upper end, and whether the ends belong to it. -/
def quarterInterval (mantissa : Nat) (exponent : Int) : Nat × Nat × Bool :=
  let below := if mantissa = twoPow 52 && minExponent < exponent then 1 else 2
  (4 * mantissa - below, 4 * mantissa + 2, mantissa % 2 == 0)

/-- Whether `candidate * num / den` lies in an interval. -/
def inInterval (interval : Nat × Nat × Bool) (num den candidate : Nat) : Bool :=
  let v := candidate * num
  if interval.2.2 then interval.1 * den ≤ v && v ≤ interval.2.1 * den
  else interval.1 * den < v && v < interval.2.1 * den

/-- The decimal position of a positive ratio: the least `k` with `num / den < 10 ^ k`, searched
upward from `k` for at most `fuel` steps. -/
def decimalPosition (num den : Nat) : Nat → Int → Int
  | 0, k => k
  | fuel + 1, k =>
    if num * tenPow (-k).toNat < den * tenPow k.toNat then k
    else decimalPosition num den fuel (k + 1)

/-- One grid of the search: the points are the multiples of `10 ^ unit`. Of the two neighbours of
the number the one that reads back, the nearer if both do, the even one on a tie. -/
def gridPoint? (mantissa : Nat) (exponent unit : Int) : Option Nat :=
  let interval := quarterInterval mantissa exponent
  -- one step of the grid, in quarters of `2 ^ exponent`, is `num / den`
  let num := 4 * tenPow unit.toNat * twoPow (-exponent).toNat
  let den := tenPow (-unit).toNat * twoPow exponent.toNat
  let value := 4 * mantissa * den
  let low := value / num
  let below := value - low * num
  let above := (low + 1) * num - value
  match inInterval interval num den low, inInterval interval num den (low + 1) with
  | true, true =>
    some (if below < above then low else if above < below then low + 1 else low + low % 2)
  | true, false => some low
  | false, true => some (low + 1)
  | false, false => none

/-- Tries grids of `count`, `count + 1`, … digits, for at most `fuel` grids; the answer is a
number of steps and the exponent of the step. -/
def shortestFrom (mantissa : Nat) (exponent position : Int) : Nat → Nat → Nat × Int
  | 0, count => (0, position - count)
  | fuel + 1, count =>
    match gridPoint? mantissa exponent (position - count) with
    | some n => (n, position - count)
    | none => shortestFrom mantissa exponent position fuel (count + 1)

/-- The shortest digits of a positive number `mantissa * 2 ^ exponent`, and the position of the
decimal point counted from the first digit. -/
def shortestDigits (mantissa : Nat) (exponent : Int) : List Char × Int :=
  let guess := ((Nat.log2 mantissa + exponent) * 30103).fdiv 100000 - 1
  let position :=
    decimalPosition (mantissa * twoPow exponent.toNat) (twoPow (-exponent).toNat) 5 guess
  let (n, unit) := shortestFrom mantissa exponent position 17 1
  let digits := Text.natDigits n
  (Text.dropEndWhile (· == '0') digits, digits.length + unit)

/-- Where positional notation ends, how exponents are written, and the texts of what is not
finite. -/
structure DecimalStyle where
  /-- The number is positional while the decimal point stands after this position … -/
  lowest : Int
  /-- … and not after this one. -/
  highest : Int
  /-- The least number of digits of an exponent. -/
  exponentWidth : Nat
  infinity : String
  notANumber : String

/-- Positional from `0.0001` up to sixteen digits; `1e+16` and `1e-05` beyond. -/
def plainStyle : DecimalStyle := ⟨-4, 16, 2, "inf", "nan"⟩

/-- The digits of a positive number with its decimal point, or with an exponent. -/
def layoutDigits (style : DecimalStyle) (digits : List Char) (position : Int) : List Char :=
  if style.lowest < position && position ≤ style.highest then
    if position ≤ 0 then '0' :: '.' :: List.replicate (-position).toNat '0' ++ digits
    else
      let whole := position.toNat
      let ahead := digits.take whole ++ List.replicate (whole - digits.length) '0'
      let behind := digits.drop whole
      ahead ++ '.' :: (if behind.isEmpty then ['0'] else behind)
  else
    let power := position - 1
    let exponent := Text.natDigits power.natAbs
    let padding := List.replicate (style.exponentWidth - exponent.length) '0'
    let mantissa := match digits with
      | [] => ['0']
      | [d] => [d]
      | d :: ds => d :: '.' :: ds
    mantissa ++ 'e' :: (if power < 0 then '-' else '+') :: padding ++ exponent

/-- The text of a number in a notation. -/
def toText (style : DecimalStyle) : Binary64 → String
  | .nan => style.notANumber
  | .infinite negative => if negative then "-" ++ style.infinity else style.infinity
  | .finite negative mantissa exponent =>
    let unsigned :=
      if mantissa = 0 then ['0', '.', '0']
      else
        let (digits, position) := shortestDigits mantissa exponent
        layoutDigits style digits position
    String.ofList (if negative then '-' :: unsigned else unsigned)

/-- The text of a number: shortest digits in plain notation. -/
def text (x : Binary64) : String :=
  x.toText plainStyle

end MarkdownSections.Binary64
