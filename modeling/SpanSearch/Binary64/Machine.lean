import SpanSearch.Binary64.Basic

/-! Binary64 numbers as the machine computes with them. -/

namespace SpanSearch
namespace Binary64

/-- The number of the machine with the same bits. -/
def toFloat (x : Binary64) : Float :=
  Float.ofBits x.bits.toUInt64

/-- The number with the bits of one of the machine. -/
def ofFloat (x : Float) : Binary64 :=
  .ofBits x.toBits.toNat

end Binary64
end SpanSearch
