/-! Binary64 numbers: a finite one is a sign and the rank of its magnitude, and an exact quotient is
rounded to the nearest of them, a tie going to the even neighbour. -/

-- Powers are those of the core library, also beside a library with powers of its own.
attribute [default_instance high, instance (high)] instPowNat

namespace SpanSearch

/-- The quotient rounded to the nearest whole number, a half to the even one. -/
def roundHalfEven (num den : Nat) : Nat :=
  let quotient := num / den
  let twice := 2 * (num % den)
  if twice < den || (twice == den && quotient % 2 == 0) then quotient else quotient + 1

/-- A finite binary64 number: its sign, and the rank of its magnitude when all finite magnitudes are
counted upwards from zero. -/
structure Double where
  negative : Bool
  rank : Nat
  rank_lt : rank < 0x7FF0000000000000
deriving DecidableEq

namespace Double

/-- The number of finite magnitudes. -/
def rankCount : Nat := 0x7FF0000000000000

/-- The doublings between the least spacing of neighbours and the spacing at a rank. -/
def doublings (rank : Nat) : Nat :=
  rank / 2 ^ 52 - 1

/-- The magnitude of a rank, counted in the least positive magnitude, which is 2⁻¹⁰⁷⁴. -/
def unitsOfRank (rank : Nat) : Nat :=
  (rank - doublings rank * 2 ^ 52) * 2 ^ doublings rank

/-- The rank nearest to a quotient; from `rankCount` on the quotient is beyond the finite numbers. -/
def nearestRank (num den : Nat) : Nat :=
  let scaled := num * 2 ^ 1074
  let k := (scaled / den).log2 - 52
  k * 2 ^ 52 + roundHalfEven scaled (den * 2 ^ k)

/-- The magnitude of a number, counted in 2⁻¹⁰⁷⁴. -/
def units (x : Double) : Nat :=
  unitsOfRank x.rank

/-- Zero with a sign. -/
def zero (negative : Bool) : Double :=
  ⟨negative, 0, by decide⟩

/-- Whether the number is zero of either sign. -/
def isZero (x : Double) : Bool :=
  x.rank == 0

/-- The same magnitude without a sign. -/
def abs (x : Double) : Double :=
  { x with negative := false }

/-- The opposite number. -/
def neg (x : Double) : Double :=
  { x with negative := !x.negative }

/-- Equal as numbers: the two zeros count as one. -/
def sameNumber (x y : Double) : Bool :=
  x.rank == y.rank && (x.negative == y.negative || x.isZero)

/-- The whole number that `x` is, if it is one. -/
def whole? (x : Double) : Option Int :=
  if x.units % 2 ^ 1074 == 0 then
    let magnitude : Int := (x.units / 2 ^ 1074 : Nat)
    some (if x.negative then -magnitude else magnitude)
  else none

end Double

/-- A binary64 number of any kind. -/
inductive Binary64 where
  | finite (x : Double)
  | infinite (negative : Bool)
  | nan
deriving DecidableEq

namespace Binary64

/-- The number nearest to a quotient, infinite if that is beyond the finite numbers. -/
def ofQuotient (negative : Bool) (num den : Nat) : Binary64 :=
  if h : Double.nearestRank num den < 0x7FF0000000000000 then .finite ⟨negative, _, h⟩
  else .infinite negative

/-- The number nearest to a whole number. -/
def ofInt (n : Int) : Binary64 :=
  ofQuotient (n < 0) n.natAbs 1

/-- The finite number that this is, if it is one. -/
def finite? : Binary64 → Option Double
  | finite x => some x
  | _ => none

/-- The product of two finite numbers, rounded once. -/
def ofProduct (x y : Double) : Binary64 :=
  ofQuotient (x.negative != y.negative) (x.units * y.units) (2 ^ 2148)

/-- The quotient of two finite numbers, rounded once. -/
def ofDivision (x y : Double) : Binary64 :=
  if !y.isZero then ofQuotient (x.negative != y.negative) x.units y.units
  else if x.isZero then nan
  else infinite (x.negative != y.negative)

/-- The 64 bits: the sign, then the rank of the magnitude, infinity above all finite ones. -/
def bits : Binary64 → Nat
  | finite x => (if x.negative then 2 ^ 63 else 0) + x.rank
  | infinite negative => (if negative then 2 ^ 63 else 0) + Double.rankCount
  | nan => 0x7FF8000000000000

/-- The number with the given 64 bits. -/
def ofBits (bits : Nat) : Binary64 :=
  let negative := bits / 2 ^ 63 % 2 == 1
  let rank := bits % 2 ^ 63
  if h : rank < 0x7FF0000000000000 then finite ⟨negative, rank, h⟩
  else if rank == Double.rankCount then infinite negative
  else nan

end Binary64
end SpanSearch
