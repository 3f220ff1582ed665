import SpanSearch.Binary64.Text
import SpanSearch.Json.Value
import SpanSearch.Json.Written

/-! Reading the text of a document: strict notation, with only spaces, tabs and line ends between tokens. -/

namespace SpanSearch
namespace Written

/-- The text after the spaces, tabs and line ends at its start. -/
def skipBlanks (text : List Char) : List Char :=
  text.dropWhile fun c => c == ' ' || c == '\n' || c == '\t' || c == '\r'

/-- What the four digits of an escape stand for. -/
def unitPiece (unit : Nat) : Piece :=
  if 0xD800 ≤ unit && unit < 0xE000 then .half unit else .char (Char.ofNat unit)

/-- The character that a one-letter escape stands for. -/
def letterEscape? : Char → Option Char
  | '"' => some '"'
  | '\\' => some '\\'
  | '/' => some '/'
  | 'b' => some '\x08'
  | 'f' => some '\x0c'
  | 'n' => some '\n'
  | 'r' => some '\r'
  | 't' => some '\t'
  | _ => none

/-- A string literal after its opening quote, and the text after the closing one. -/
def scanString : List Char → Option (List Piece × List Char)
  | [] => none
  | '"' :: rest => some ([], rest)
  | '\\' :: 'u' :: a :: b :: c :: d :: rest => do
    let unit := (((← hexValue? a) * 16 + (← hexValue? b)) * 16 + (← hexValue? c)) * 16 + (← hexValue? d)
    let (pieces, after) ← scanString rest
    some (unitPiece unit :: pieces, after)
  | '\\' :: letter :: rest => do
    let c ← letterEscape? letter
    let (pieces, after) ← scanString rest
    some (.char c :: pieces, after)
  | c :: rest =>
    if c == '\\' || c.toNat < 0x20 then none
    else do
      let (pieces, after) ← scanString rest
      some (.char c :: pieces, after)

/-- The digits before the point: a single zero, or digits of which the first is not zero. -/
def scanWhole (text : List Char) : Option (List Nat × List Char) :=
  match spanDigits text with
  | ([], _) => none
  | (0 :: _ :: _, _) => none
  | spanned => some spanned

/-- A point with at least one digit after it, if a point is next. -/
def scanFraction : List Char → Option (Option (List Nat) × List Char)
  | '.' :: rest =>
    match spanDigits rest with
    | ([], _) => none
    | (digits, after) => some (some digits, after)
  | text => some (none, text)

/-- An exponent with at least one digit, if its letter is next. -/
def scanExponent : List Char → Option (Option Int × List Char)
  | [] => some (none, [])
  | c :: rest =>
    if c == 'e' || c == 'E' then
      let (negative, afterSign) := spanSign rest
      match spanDigits afterSign with
      | ([], _) => none
      | (digits, after) =>
        let magnitude : Int := Decimal.digitsFrom 0 digits
        some (some (if negative then -magnitude else magnitude), after)
    else some (none, c :: rest)

/-- A number literal without its sign. -/
def scanUnsigned (negative : Bool) (text : List Char) : Option (Written × List Char) := do
  let (whole, rest) ← scanWhole text
  let (fraction, rest) ← scanFraction rest
  let (exponent, rest) ← scanExponent rest
  some (.number ⟨negative, whole, fraction, exponent⟩, rest)

/-- A literal that is neither a string nor composed of other documents. -/
def scanPlain : List Char → Option (Written × List Char)
  | 'n' :: 'u' :: 'l' :: 'l' :: rest => some (.null, rest)
  | 't' :: 'r' :: 'u' :: 'e' :: rest => some (.bool true, rest)
  | 'f' :: 'a' :: 'l' :: 's' :: 'e' :: rest => some (.bool false, rest)
  | '-' :: rest => scanUnsigned true rest
  | text => scanUnsigned false text

mutual

/-- A document at the start of a text, and what follows it. -/
def scan : Nat → List Char → Option (Written × List Char)
  | 0, _ => none
  | fuel + 1, text =>
    match skipBlanks text with
    | '"' :: rest => (scanString rest).map fun (pieces, after) => (.string pieces, after)
    | '[' :: rest =>
      match skipBlanks rest with
      | ']' :: after => some (.array [], after)
      | items => (scanItems fuel items).map fun (items, after) => (.array items, after)
    | '{' :: rest =>
      match skipBlanks rest with
      | '}' :: after => some (.object [], after)
      | members => (scanMembers fuel members).map fun (members, after) => (.object members, after)
    | plain => scanPlain plain

/-- Items up to the closing bracket. -/
def scanItems : Nat → List Char → Option (List Written × List Char)
  | 0, _ => none
  | fuel + 1, text => do
    let (item, rest) ← scan fuel text
    match skipBlanks rest with
    | ']' :: after => some ([item], after)
    | ',' :: more =>
      let (items, after) ← scanItems fuel more
      some (item :: items, after)
    | _ => none

/-- Members up to the closing brace. -/
def scanMembers : Nat → List Char → Option (List (List Piece × Written) × List Char)
  | 0, _ => none
  | fuel + 1, text =>
    match skipBlanks text with
    | '"' :: rest => do
      let (name, rest) ← scanString rest
      match skipBlanks rest with
      | ':' :: rest =>
        let (value, rest) ← scan fuel rest
        match skipBlanks rest with
        | '}' :: after => some ([(name, value)], after)
        | ',' :: more =>
          let (members, after) ← scanMembers fuel more
          some ((name, value) :: members, after)
        | _ => none
      | _ => none
    | _ => none

end

/-- The written document at the start of a text, and what follows it. Every step of the scan that
starts another one takes a character, so the length of the text bounds the steps. -/
def ofTextPrefix? (text : List Char) : Option (Written × List Char) :=
  scan (2 * text.length + 1) text

/-- The written document that a text consists of. -/
def ofText? (text : List Char) : Option Written :=
  match ofTextPrefix? text with
  | some (w, rest) => if (skipBlanks rest).isEmpty then some w else none
  | none => none

end Written

namespace Json

/-- The document that a text consists of. -/
def ofText? (text : String) : Option Json := do
  (← Written.ofText? text.toList).read? Written.depthLimit .everything

/-- Reads what a text says, as far as its shape counts. That nothing but blanks follows the document
is looked at last, when the document has been read without an error of its own. -/
def readText {ε α : Type} (malformed : ε) (shape : Shape) (read : Json → Except ε α) (text : String) :
    Except ε α := do
  match Written.ofTextPrefix? text.toList with
  | none => .error malformed
  | some (written, rest) =>
    match written.read? Written.depthLimit shape with
    | none => .error malformed
    | some j =>
      let a ← read j
      if (Written.skipBlanks rest).isEmpty then .ok a else .error malformed

/-- Reads what a text says, where nothing is told of a failure. -/
def readText? {α : Type} (shape : Shape) (read : Json → Option α) (text : String) : Option α :=
  (readText () shape (fun j => (read j).elim (.error ()) .ok) text).toOption

end Json

namespace Value

/-- The free-form value that a text consists of. -/
def ofText? (text : String) : Option Value :=
  (Json.ofText? text).map ofJson

end Value
end SpanSearch
