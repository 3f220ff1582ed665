import SpanSearch.Binary64.Basic

/-! Decimals and binary64 numbers: the number nearest to a decimal, and the shortest decimal that is
nearest to no other number. -/

namespace SpanSearch

/-- The decimal `significand * 10 ^ exponent`. -/
structure Decimal where
  significand : Nat
  exponent : Int
deriving DecidableEq

namespace Decimal

/-- The number that digits spell, after the digits of `start`. -/
def digitsFrom (start : Nat) (digits : List Nat) : Nat :=
  digits.foldl (fun n d => 10 * n + d) start

/-- The decimal as a quotient of natural numbers. -/
def quotient (d : Decimal) : Nat × Nat :=
  if 0 ≤ d.exponent then (d.significand * 10 ^ d.exponent.toNat, 1)
  else (d.significand, 10 ^ (-d.exponent).toNat)

/-- The binary64 number nearest to a decimal. Exponents that settle the answer alone are decided
without writing the power of ten out. -/
def nearest (negative : Bool) (d : Decimal) : Binary64 :=
  if d.significand == 0 || d.exponent < -(d.significand.log2 + 400 : Int) then
    .finite (.zero negative)
  else if 400 < d.exponent then .infinite negative
  else Binary64.ofQuotient negative d.quotient.1 d.quotient.2

/-- How a decimal halfway between two neighbours on a grid is settled. -/
inductive Tie where
  | toEven
  | up
deriving DecidableEq

/-- The exponent of the first digit of a positive quotient. -/
def leadingExponent (num den : Nat) : Int :=
  if den ≤ num then (Nat.toDigits 10 (num / den)).length - 1
  else -(Nat.toDigits 10 ((den + num - 1) / num - 1)).length

/-- The multiple of `10 ^ exponent` next to the magnitude of a rank that reads back as that rank,
the nearer one if both neighbours do. -/
def onGrid? (tie : Tie) (rank : Nat) (exponent : Int) : Option Decimal :=
  let units := Double.unitsOfRank rank
  let (num, den) :=
    if 0 ≤ exponent then (units, 2 ^ 1074 * 10 ^ exponent.toNat)
    else (units * 10 ^ (-exponent).toNat, 2 ^ 1074)
  let below : Decimal := ⟨num / den, exponent⟩
  let above : Decimal := ⟨num / den + 1, exponent⟩
  let readsBack (d : Decimal) : Bool := Double.nearestRank d.quotient.1 d.quotient.2 == rank
  let twice := 2 * (num % den)
  match readsBack below, readsBack above with
  | true, true =>
    if twice < den then some below
    else if den < twice then some above
    else match tie with
      | .toEven => some (if below.significand % 2 == 0 then below else above)
      | .up => some above
  | true, false => some below
  | false, true => some above
  | false, false => none

/-- The magnitude of a rank written out in full. -/
def exact (rank : Nat) : Decimal :=
  ⟨Double.unitsOfRank rank * 5 ^ 1074, -1074⟩

/-- The decimal of fewest digits that reads back as a positive rank, the nearest of those. -/
def shortest (tie : Tie) (rank : Nat) : Decimal :=
  let leading := leadingExponent (Double.unitsOfRank rank) (2 ^ 1074)
  ((List.range 17).findSome? fun (i : Nat) => onGrid? tie rank (leading - (i : Int))).getD (exact rank)

/-- The digits of a decimal without zeros at the end, and the place of the point counted from
before the first digit. -/
def pointed (d : Decimal) : List Char × Int :=
  let digits := Nat.toDigits 10 d.significand
  ((digits.reverse.dropWhile (· == '0')).reverse, digits.length + d.exponent)

end Decimal
end SpanSearch
