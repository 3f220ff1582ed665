import SpanSearch.Binary64.Decimal
import SpanSearch.Text.Digit

/-! Reading a binary64 number from the text that a user types: a signed decimal, infinity or NaN. -/

namespace SpanSearch

/-- The sign at the start of a text, and whether it is a minus. -/
def spanSign : List Char → Bool × List Char
  | '-' :: rest => (true, rest)
  | '+' :: rest => (false, rest)
  | text => (false, text)

namespace Binary64

/-- The exponent that ends a decimal; a text without one has exponent zero. -/
def exponent? : List Char → Option Int
  | [] => some 0
  | c :: rest =>
    if c == 'e' || c == 'E' then
      let (negative, afterSign) := spanSign rest
      match spanDigits afterSign with
      | ([], _) => none
      | (digits, []) =>
        let magnitude : Int := Decimal.digitsFrom 0 digits
        some (if negative then -magnitude else magnitude)
      | _ => none
    else none

/-- The digits before and after the point, of which there is at least one, and the rest. -/
def mantissa? (text : List Char) : Option (Decimal × List Char) :=
  let (whole, rest) := spanDigits text
  let (fraction, rest) := match rest with
    | '.' :: more => spanDigits more
    | _ => ([], rest)
  if whole.isEmpty && fraction.isEmpty then none
  else some (⟨Decimal.digitsFrom 0 (whole ++ fraction), -fraction.length⟩, rest)

/-- A number without a sign. -/
def unsigned? (negative : Bool) (text : List Char) : Option Binary64 :=
  match String.ofList (text.map Char.toLower) with
  | "inf" | "infinity" => some (.infinite negative)
  | "nan" => some .nan
  | _ => do
    let (mantissa, rest) ← mantissa? text
    let exponent ← exponent? rest
    some ({ mantissa with exponent := mantissa.exponent + exponent }.nearest negative)

/-- The number that a text spells: an optional sign, then digits with an optional point and exponent,
or one of the names of infinity and NaN in any case. -/
def ofText? (text : List Char) : Option Binary64 :=
  let (negative, rest) := spanSign text
  unsigned? negative rest

end Binary64
end SpanSearch
