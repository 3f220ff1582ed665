import SpanSearch.Binary64.Decimal

/-! The written form of a finite binary64 number: its shortest digits, with the point among them or
with an exponent. -/

namespace SpanSearch

/-- The choices that a written form leaves open. -/
structure Layout where
  /-- The exponents of the first digit for which the point stands in its place; `none` for all. -/
  positional : Option (Int × Int)
  /-- Whether a whole number gets a fraction of one zero. -/
  wholeFraction : Bool
  /-- How two equally near shortest decimals are told apart. -/
  tie : Decimal.Tie

namespace Layout

/-- Digits with the point `point` places after the start of the first one. -/
def place (layout : Layout) (digits : List Char) (point : Int) : List Char :=
  if point ≤ 0 then '0' :: '.' :: (List.replicate (-point).toNat '0' ++ digits)
  else if digits.length ≤ point.toNat then
    digits ++ List.replicate (point.toNat - digits.length) '0' ++
      (if layout.wholeFraction then ['.', '0'] else [])
  else digits.take point.toNat ++ '.' :: digits.drop point.toNat

/-- An exponent always has a sign. -/
def exponentText (exponent : Int) : List Char :=
  'e' :: (if exponent < 0 then '-' else '+') :: Nat.toDigits 10 exponent.natAbs

/-- Digits with the point after the first one, and the exponent of that one. -/
def scientific (digits : List Char) (exponent : Int) : List Char :=
  match digits with
  | [] => []
  | [d] => d :: exponentText exponent
  | d :: rest => d :: '.' :: (rest ++ exponentText exponent)

/-- A magnitude, written by the layout. -/
def magnitude (layout : Layout) (rank : Nat) : List Char :=
  if rank == 0 then layout.place ['0'] 1
  else
    let (digits, point) := (Decimal.shortest layout.tie rank).pointed
    match layout.positional with
    | none => layout.place digits point
    | some (least, greatest) =>
      if least ≤ point - 1 && point - 1 ≤ greatest then layout.place digits point
      else scientific digits (point - 1)

/-- A number, written by the layout with its sign. -/
def text (layout : Layout) (x : Double) : List Char :=
  (if x.negative then ['-'] else []) ++ layout.magnitude x.rank

end Layout
end SpanSearch
