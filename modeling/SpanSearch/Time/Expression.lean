import SpanSearch.Time.Absolute
import SpanSearch.Time.Math

/-! Time expressions: `now` or an absolute time, followed by date math. After an absolute time, two bars
come before the math. -/

namespace SpanSearch

namespace Instant

/-- The text before and after the first two bars, if there are any. -/
def splitBars : List Char → Option (List Char × List Char)
  | [] => none
  | '|' :: '|' :: rest => some ([], rest)
  | c :: rest => (splitBars rest).map fun (before, after) => (c :: before, after)

/-- The instant of an absolute time, blanks around it aside. -/
def ofAbsolute (text : List Char) : Except TimeError Instant :=
  let text := trimBlanks text
  match Absolute.read? text with
  | some t => .ok t
  | none => .error (.invalidDate (String.ofList text))

/-- The instant of a time expression. -/
def resolve (expression : String) (now : Instant) : Except TimeError Instant :=
  match trimBlanks expression.toList with
  | [] => .error .empty
  | 'n' :: 'o' :: 'w' :: math => now.applyMath math
  | text =>
    match splitBars text with
    | some (date, math) => (ofAbsolute date).bind (·.applyMath math)
    | none => ofAbsolute text

end Instant
end SpanSearch
