/-!
# Binary floating point numbers of 64 bits

A finite number of the format is a sign and a rank: the finite magnitudes in increasing order are
numbered from zero, the rank being the format's own bit pattern without the sign. All arithmetic
is exact arithmetic on natural numbers followed by one rounding: magnitudes are counted in units
of `2 ^ -1074`, the smallest positive one, and `nearest num den` finds the rank that is closest to
`num / den`, a tie going to the even neighbour.
-/

namespace Storefront

/-- The number of ranks from a magnitude of full precision to its double, `2 ^ 52`. -/
def Binary64.step : Nat := 0x10000000000000

/-- The number of finite magnitudes. -/
def Binary64.ranks : Nat := 2047 * step

/-- A finite number: its sign, kept for zero too, and the rank of its magnitude. -/
structure Binary64 where
  negative : Bool
  rank : Nat
  finite : rank < Binary64.ranks
deriving DecidableEq

namespace Binary64

/-- One in units of `2 ^ -1074`. -/
def unitsInOne : Nat := Nat.pow 2 1074

/-- Rounds `num / den` to a whole number, a half going to the even neighbour. -/
def roundHalfEven (num den : Nat) : Nat :=
  let q := num / den
  let r := num % den
  if 2 * r < den then q
  else if den < 2 * r then q + 1
  else q + q % 2

/-- The magnitude of rank `r` in units of `2 ^ -1074`. -/
def unitsOfRank (r : Nat) : Nat :=
  let k := r / step - 1
  (r - k * step) * Nat.pow 2 k

/-- The rank nearest to `num / den`; it lies beyond the finite ones on overflow. -/
def nearestRank (num den : Nat) : Nat :=
  let scaled := num * unitsInOne
  let k := (scaled / den).log2 - 52
  k * step + roundHalfEven scaled (den * Nat.pow 2 k)

/-- The number nearest to `num / den` with the given sign, if it is finite. -/
def nearest (negative : Bool) (num den : Nat) : Option Binary64 :=
  let rank := nearestRank num den
  if h : rank < ranks then some ⟨negative, rank, h⟩ else none

def zero (negative : Bool) : Binary64 :=
  ⟨negative, 0, by decide⟩

def isZero (x : Binary64) : Bool :=
  x.rank == 0

/-- Whether the number has full precision: it is neither zero nor below `2 ^ -1022`. -/
def isNormal (x : Binary64) : Bool :=
  step ≤ x.rank

/-- The magnitude in units of `2 ^ -1074`. -/
def units (x : Binary64) : Nat :=
  unitsOfRank x.rank

/-- The signed value in units of `2 ^ -1074`. -/
def signedUnits (x : Binary64) : Int :=
  if x.negative then -x.units else x.units

/-- The product of two magnitudes, rounded once. -/
def mul? (x y : Binary64) : Option Binary64 :=
  nearest x.negative (x.units * y.units) (unitsInOne * unitsInOne)

/-- The quotient of two magnitudes, rounded once. -/
def div? (x y : Binary64) : Option Binary64 :=
  nearest x.negative x.units y.units

/-- Equality of numbers: the two zeros are equal. -/
def same (x y : Binary64) : Bool :=
  x.signedUnits == y.signedUnits

end Binary64

end Storefront
