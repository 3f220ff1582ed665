import SpanSearch.Binary64.Machine

/-! Ticks of a chart axis: multiples of a step that is 1, 2 or 5 times a power of ten. The numbers they are
computed in are open: the program computes in binary64. -/

namespace SpanSearch

/-- The numbers that ticks are computed in. -/
class AxisNumber (α : Type) where
  ofNat : Nat → α
  add : α → α → α
  sub : α → α → α
  mul : α → α → α
  div : α → α → α
  less : α → α → Bool
  floor : α → α
  ceil : α → α
  /-- The greatest power of ten that is not above a positive number. -/
  decade : α → α
  isFinite : α → Bool

/-- Binary64 numbers, with the power of ten taken from the logarithm. -/
instance : AxisNumber Float where
  ofNat := Float.ofNat
  add := Float.add
  sub := Float.sub
  mul := Float.mul
  div := Float.div
  less a b := a < b
  floor := Float.floor
  ceil := Float.ceil
  decade x := Float.pow 10 (Float.floor (Float.log10 x))
  isFinite := Float.isFinite

/-- Ticks from a first one in equal steps up to the first one that reaches a limit. -/
structure Ticks (α : Type) where
  first : α
  step : α
  limit : α

namespace Ticks

variable {α : Type} [AxisNumber α]
open AxisNumber

/-- The number of ticks unless something else is said. -/
def standardCount : Nat := 5

/-- The limit as the only tick. -/
def single (limit : α) : Ticks α :=
  ⟨limit, ofNat 0, limit⟩

/-- The smallest of 1, 2, 5 and 10 that is not below a number. -/
def niceFactor (residue : α) : α :=
  if less (ofNat 5) residue then ofNat 10
  else if less (ofNat 2) residue then ofNat 5
  else if less (ofNat 1) residue then ofNat 2
  else ofNat 1

/-- A round step, so that `count` of them or fewer lead from `least` to `greatest`. -/
def niceStep (least greatest : α) (count : Nat) : α :=
  let raw := div (sub greatest least) (ofNat (max count 1))
  let magnitude := decade raw
  mul magnitude (niceFactor (ceil (div raw magnitude)))

/-- The multiple of the step that the ticks start from, which is not negative. -/
def start (least step : α) : α :=
  let below := mul (floor (div (sub least (ofNat 1)) step)) step
  if less (ofNat 0) below then below else ofNat 0

/-- About `count` ticks for an axis from `least` to `greatest`; without such an axis or a step for it, the greatest
number alone. -/
def between (least greatest : α) (count : Nat) : Ticks α :=
  if less least greatest && isFinite least && isFinite greatest then
    let step := niceStep least greatest count
    if less (ofNat 0) step && isFinite step then ⟨start least step, step, greatest⟩
    else single greatest
  else single greatest

/-- The tick after a tick; there is none after one that reaches the limit. -/
def next? (ticks : Ticks α) (tick : α) : Option α :=
  if less tick ticks.limit then some (add tick ticks.step) else none

/-- The tick itself and those after it, at most `most` of them. -/
def upTo (ticks : Ticks α) : Nat → Option α → List α
  | 0, _ => []
  | _, none => []
  | most + 1, some tick => tick :: upTo ticks most (ticks.next? tick)

/-- The first ticks, at most `most` of them; steps that are too small to make a difference may go on
for ever. -/
def values (ticks : Ticks α) (most : Nat) : List α :=
  upTo ticks most (some ticks.first)

/-- The ticks of binary64 numbers. -/
def ofBinary64 (least greatest : Binary64) (count : Option Nat) : Ticks Float :=
  .between least.toFloat greatest.toFloat (count.getD standardCount)

end Ticks
end SpanSearch
