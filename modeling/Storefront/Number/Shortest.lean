import Storefront.Number.Binary64

/-!
# The shortest digits of a number

`Decimal.shortest x` has the fewest significant digits among the decimals that read back as `x`,
and of two such decimals with equally many digits it is the nearer one, a tie going to the even
digit. For `n = 1, 2, …, 17` digits the two neighbours of the value on the grid of `n`-digit
decimals are tried in exact arithmetic; seventeen digits always suffice.

`Decimal.Layout` says how such digits are written down: between which exponents the point stands
in place, and how an exponent looks elsewhere.
-/

namespace Storefront

/-- A decimal magnitude `d₁.d₂d₃… × 10 ^ exponent`, its digits in order. -/
structure Decimal where
  digits : List Char
  exponent : Int
deriving DecidableEq, Repr

namespace Decimal

/-- `num / den` multiplied by `10 ^ e`, again as a fraction. -/
def scale (num den : Nat) (e : Int) : Nat × Nat :=
  match e with
  | .ofNat k => (num * Nat.pow 10 k, den)
  | .negSucc k => (num, den * Nat.pow 10 (k + 1))

def digitCount (n : Nat) : Nat :=
  (Nat.toDigits 10 n).length

/-- The exponent `e` with `10 ^ e ≤ num / den < 10 ^ (e + 1)`, for a positive fraction. -/
def exponentOf (num den : Nat) : Int :=
  if den ≤ num then (digitCount (num / den) : Int) - 1 else -(digitCount ((den - 1) / num) : Int)

/-- `m × 10 ^ e` without trailing zeros. -/
def ofWhole (m : Nat) (e : Int) : Decimal :=
  let all := Nat.toDigits 10 m
  let significant := (all.reverse.dropWhile (· == '0')).reverse
  ⟨if significant.isEmpty then ['0'] else significant, e + all.length - 1⟩

/-- Whether `m × 10 ^ e` reads back as the magnitude of rank `rank`. -/
def readsBack (rank m : Nat) (e : Int) : Bool :=
  let (n, d) := scale m 1 e
  Binary64.nearestRank n d == rank

/-- The candidate with `n` digits, if one reads back. -/
def withDigits (rank num den : Nat) (top : Int) (n : Nat) : Option Decimal :=
  let e := top - n + 1
  let (a, b) := scale num den (-e)
  let m := a / b
  let lower := readsBack rank m e
  let upper := readsBack rank (m + 1) e
  if lower && upper then
    let r := a % b
    let down := 2 * r < b || (2 * r == b && m % 2 == 0)
    some (ofWhole (if down then m else m + 1) e)
  else if lower then some (ofWhole m e)
  else if upper then some (ofWhole (m + 1) e)
  else none

/-- The shortest decimal that reads back as the magnitude of `x`. -/
def shortest (x : Binary64) : Decimal :=
  if x.isZero then ⟨['0'], 0⟩ else
    let num := x.units
    let den := Binary64.unitsInOne
    let top := exponentOf num den
    let tries := (List.range 17).map (· + 1)
    (tries.findSome? (withDigits x.rank num den top)).getD ⟨['0'], 0⟩

/-- How digits are laid out. -/
structure Layout where
  /-- The smallest exponent that is written with leading zeros. -/
  least : Option Int
  /-- The largest exponent that is written without an exponent part. -/
  greatest : Option Int

namespace Layout

/-- JSON numbers stand in place for exponents from -5 to 15. -/
def json : Layout := ⟨some (-5), some 15⟩

/-- Every number stands in place. -/
def inPlace : Layout := ⟨none, none⟩

def isInPlace (l : Layout) (e : Int) : Bool :=
  l.least.all (· ≤ e) && l.greatest.all (e ≤ ·)

end Layout

/-- Digits with the point in place and at least one digit after it. -/
def inPlace (ds : List Char) : Int → List Char
  | .negSucc k => ['0', '.'] ++ List.replicate k '0' ++ ds
  | .ofNat k =>
    let whole := ds.take (k + 1)
    let fraction := ds.drop (k + 1)
    whole ++ List.replicate (k + 1 - whole.length) '0' ++ ['.'] ++
      (if fraction.isEmpty then ['0'] else fraction)

/-- Digits with an exponent part, the point after the first digit if others follow. -/
def withExponent : List Char → Int → List Char
  | ds, e =>
    let mantissa := match ds with
      | d :: d' :: rest => d :: '.' :: d' :: rest
      | ds => ds
    let exponent := match e with
      | .ofNat k => '+' :: Nat.toDigits 10 k
      | .negSucc k => '-' :: Nat.toDigits 10 (k + 1)
    mantissa ++ 'e' :: exponent

/-- The text of a decimal in the given layout. -/
def text (l : Layout) (d : Decimal) : List Char :=
  if l.isInPlace d.exponent then inPlace d.digits d.exponent else withExponent d.digits d.exponent

end Decimal

/-- The text of a number: its sign and its shortest digits. -/
def Binary64.text (l : Decimal.Layout) (x : Binary64) : List Char :=
  (if x.negative then ['-'] else []) ++ (Decimal.shortest x).text l

end Storefront
