import SpanSearch.Binary64.Layout

/-! Numbers of a document: whole numbers of 64 bits and finite binary64 numbers, which are told apart,
with their reading from a literal and their written form. -/

namespace SpanSearch

/-- A whole number that a signed or an unsigned 64-bit word holds. -/
structure Whole where
  value : Int
  least : -2 ^ 63 ≤ value := by decide
  below : value < 2 ^ 64 := by decide
deriving DecidableEq

namespace Whole

/-- The number zero. -/
def zero : Whole := { value := 0 }

/-- The whole number, if 64 bits hold it. -/
def ofInt? (n : Int) : Option Whole :=
  if h : -2 ^ 63 ≤ n ∧ n < 2 ^ 64 then some ⟨n, h.1, h.2⟩ else none

/-- A signed word. -/
def ofInt64 (n : Int64) : Whole :=
  ⟨n.toInt, n.le_toInt, Int.lt_of_lt_of_le n.toInt_lt (by decide)⟩

/-- The signed word with this value, if there is one. -/
def int64? (n : Whole) : Option Int64 :=
  if n.value < 2 ^ 63 then some (Int64.ofInt n.value) else none

end Whole

/-- A number of a document. -/
inductive Number where
  | whole (n : Whole)
  | double (x : Double)
deriving DecidableEq

/-- Equal numbers are equal whole numbers, or equal doubles with the two zeros as one. -/
instance : BEq Number where
  beq
    | .whole m, .whole n => m.value == n.value
    | .double x, .double y => x.sameNumber y
    | _, _ => false

/-- A number as a literal spells it: the digits before and after the point, and the exponent. -/
structure NumberLiteral where
  negative : Bool
  whole : List Nat
  fraction : Option (List Nat)
  exponent : Option Int
deriving DecidableEq

namespace NumberLiteral

/-- Takes digits as long as the number they spell after `start` fits 64 bits; the rest is left. -/
def takeFitting (start : Nat) : List Nat → Nat × List Nat
  | [] => (start, [])
  | d :: rest =>
    if 10 * start + d < 2 ^ 64 then takeFitting (10 * start + d) rest else (start, d :: rest)

/-- The double nearest to a power of ten. -/
def tenTo (k : Nat) : Binary64 :=
  .ofQuotient false (10 ^ k) 1

/-- Divides by `10 ^ k`, by at most `10 ^ 308` at a time and rounding each time. -/
def divideByTenTo (x : Double) (k : Nat) : Option Double :=
  if k ≤ 308 then do (Binary64.ofDivision x (← (tenTo k).finite?)).finite?
  else if x.isZero then some x
  else do divideByTenTo (← (Binary64.ofDivision x (← (tenTo 308).finite?)).finite?) (k - 308)
termination_by k

/-- Multiplies by `10 ^ k` and rounds; nothing if the result is no longer finite. -/
def multiplyByTenTo (x : Double) (k : Nat) : Option Double :=
  if x.isZero then some x
  else if 308 < k then none
  else do (Binary64.ofProduct x (← (tenTo k).finite?)).finite?

/-- A significand of at most 64 bits, rounded to a double, then scaled by a power of ten. -/
def scaled (negative : Bool) (significand : Nat) (exponent : Int) : Option Double := do
  let x ← (Binary64.ofQuotient negative significand 1).finite?
  if 0 ≤ exponent then multiplyByTenTo x exponent.toNat
  else divideByTenTo x (-exponent).toNat

/-- The number that a literal stands for. Digits that no longer fit 64 bits are dropped, and the value is
rounded once as a significand and once more when it is scaled; a literal beyond the finite numbers
stands for none. -/
def number? (l : NumberLiteral) : Option Number :=
  let (significand, dropped) := takeFitting 0 l.whole
  if l.fraction.isNone && l.exponent.isNone && dropped.isEmpty then
    if !l.negative then (Whole.ofInt? significand).map .whole
    else if significand == 0 || 2 ^ 63 < significand then (scaled true significand 0).map .double
    else (Whole.ofInt? (-significand)).map .whole
  else
    let fraction := l.fraction.getD []
    let (significand, ignored) := takeFitting significand fraction
    let exponent : Int := dropped.length - (fraction.length - ignored.length : Nat) + l.exponent.getD 0
    (scaled l.negative significand exponent).map .double

end NumberLiteral

namespace Number

/-- Doubles have the point in its place between the exponents -5 and 15, and always a fraction or
an exponent. -/
def layout : Layout where
  positional := some (-5, 15)
  wholeFraction := true
  tie := .toEven

/-- The digits of a whole number after its sign. -/
def wholeText (n : Int) : List Char :=
  (if n < 0 then ['-'] else []) ++ Nat.toDigits 10 n.natAbs

/-- The written form of a number. -/
def text : Number → List Char
  | whole n => wholeText n.value
  | double x => layout.text x

/-- A number as binary64, a whole one rounded. -/
def toBinary64 : Number → Binary64
  | whole n => .ofInt n.value
  | double x => .finite x

end Number
end SpanSearch
