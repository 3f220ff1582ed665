import SpanSearch.Text.Digit
import SpanSearch.Yaml.Place

/-! Scalars: plain ones, quoted ones, and blocks of lines. -/

namespace SpanSearch
namespace Yaml

/-! ### Folding -/

/-- The blanks between two words, latest first: gaps on one line, or breaks, of which the first is apart. -/
inductive Spacing where
  | gaps (text : List Char)
  | breaks (first more : List Char)

namespace Spacing

/-- One more blank. Gaps count only as long as there is no break. -/
def add (c : Char) : Spacing → Spacing
  | gaps text => if isBreak c then breaks [c] [] else gaps (c :: text)
  | breaks first more => if isBreak c then breaks first (c :: more) else breaks first more

/-- Whether there are no blanks. -/
def isEmpty : Spacing → Bool
  | gaps text => text.isEmpty
  | breaks .. => false

/-- Whether there is a break. -/
def isBroken : Spacing → Bool
  | gaps _ => false
  | breaks .. => true

/-- What the blanks stand for, latest first: a line end alone for a space, and before others for nothing. -/
def folded : Spacing → List Char
  | gaps text => text
  | breaks ['\n'] [] => [' ']
  | breaks ['\n'] more => more
  | breaks first more => more ++ first

end Spacing

/-- The words that were read, latest character first, and the blanks after them. -/
structure Folding where
  words : List Char := []
  spacing : Spacing := .gaps []

namespace Folding

/-- One more blank. -/
def blank (f : Folding) (c : Char) : Folding :=
  { f with spacing := f.spacing.add c }

/-- One more character of a word. -/
def char (f : Folding) (c : Char) : Folding :=
  { words := c :: (f.spacing.folded ++ f.words), spacing := .gaps [] }

/-- A break that is there only to end the line. -/
def escapedBreak (f : Folding) : Folding :=
  { words := f.spacing.folded ++ f.words, spacing := .breaks [] [] }

/-- The words without the blanks after them. -/
def trimmed (f : Folding) : String :=
  String.ofList f.words.reverse

/-- The words and the blanks after them. -/
def text (f : Folding) : String :=
  String.ofList (f.spacing.folded ++ f.words).reverse

end Folding

/-! ### Plain scalars -/

/-- The characters that end a plain scalar in brackets or braces. -/
def flowMarks : List Char :=
  [',', '[', ']', '{', '}']

/-- Reads a plain scalar: its text, whether a break came after it, and what follows. It ends at a colon that ends
a word and, after blanks, at a comment, at a marker, and outside brackets at a line that starts before the least
column. -/
def plain? (inFlow : Bool) (least : Nat) (f : Folding) : List Place → Option (String × Bool × List Place)
  | [] => some (f.trimmed, f.spacing.isBroken, [])
  | p :: rest =>
    if p.isBlank then
      if p.char == '\t' && f.spacing.isBroken && p.column < least then none
      else plain? inFlow least (f.blank p.char) rest
    else if stopsWord f p rest then some (f.trimmed, f.spacing.isBroken, p :: rest)
    else if inFlow && p.char == ':' && startsWithOne ('?' :: flowMarks) rest then none
    else if (p.char == ':' && endsWord rest) || (inFlow && flowMarks.contains p.char) then
      some (f.trimmed, f.spacing.isBroken, p :: rest)
    else plain? inFlow least (f.char p.char) rest
where
  /-- Whether no word of the scalar starts at a character. -/
  stopsWord (f : Folding) (p : Place) (rest : List Place) : Bool :=
    !f.spacing.isEmpty && (p.char == '#' || atMarker (p :: rest) || (!inFlow && p.column < least))

/-! ### Quoted scalars -/

/-- The characters that escapes of one letter stand for. -/
def letterEscapes : List (Char × Char) :=
  [('0', '\x00'), ('a', '\x07'), ('b', '\x08'), ('t', '\t'), ('\t', '\t'), ('n', '\n'), ('v', '\x0b'), ('f', '\x0c'),
    ('r', '\r'), ('e', '\x1b'), (' ', ' '), ('"', '"'), ('/', '/'), ('\\', '\\'), ('N', '\u0085'), ('_', '\u00a0'),
    ('L', '\u2028'), ('P', '\u2029')]

/-- How many hexadecimal digits come after the letter of an escape. -/
def escapeDigits? : Char → Option Nat
  | 'x' => some 2
  | 'u' => some 4
  | 'U' => some 8
  | _ => none

/-- The character of which hexadecimal digits spell the code point. -/
def charOfDigits? (digits : List Char) : Option Char := do
  let n ← hexNumber? digits
  if n.isValidChar then some (Char.ofNat n) else none

/-- Reads a scalar in single quotes after the opening one; a quote inside is doubled. -/
def singleQuoted? (f : Folding) : List Place → Option (String × List Place)
  | [] => none
  | p :: rest =>
    if atMarker (p :: rest) then none
    else if p.isBlank then singleQuoted? (f.blank p.char) rest
    else if p.char == '\'' then
      match rest with
      | [] => some (f.text, [])
      | q :: after => if q.char == '\'' then singleQuoted? (f.char '\'') after else some (f.text, q :: after)
    else singleQuoted? (f.char p.char) rest

/-- Reads a scalar in double quotes after the opening one. -/
def doubleQuoted? (f : Folding) (places : List Place) : Option (String × List Place) :=
  match places with
  | [] => none
  | p :: rest =>
    if atMarker (p :: rest) then none
    else if p.isBlank then doubleQuoted? (f.blank p.char) rest
    else if p.char == '"' then some (f.text, rest)
    else if p.char == '\\' then
      match rest with
      | [] => none
      | q :: after =>
        if q.isBreak then doubleQuoted? f.escapedBreak after
        else match escapeDigits? q.char with
          | some count =>
            if after.length < count then none
            else (charOfDigits? ((after.take count).map (·.char))).bind fun c =>
              doubleQuoted? (f.char c) (after.drop count)
          | none => (letterEscapes.lookup q.char).bind fun c => doubleQuoted? (f.char c) after
    else doubleQuoted? (f.char p.char) rest
termination_by places.length
decreasing_by all_goals simp only [List.length_cons, List.length_drop]; omega

/-! ### Blocks -/

/-- What becomes of the breaks after the last line of a block: none is kept, the first is, or all are. -/
inductive Chomping where
  | strip
  | clip
  | keep
deriving DecidableEq

/-- What comes before the lines of a block: the way its end is kept, and how far in it is if that is given. -/
structure BlockHeader where
  chomping : Chomping
  increment : Option Nat

namespace BlockHeader

/-- The sign that comes next, if one does. -/
def sign : List Place → Option Chomping × List Place
  | [] => (none, [])
  | p :: rest =>
    if p.char == '+' then (some .keep, rest)
    else if p.char == '-' then (some .strip, rest)
    else (none, p :: rest)

/-- The digit that comes next, if one does; it may not be zero. -/
def digit? : List Place → Option (Option Nat × List Place)
  | [] => some (none, [])
  | p :: rest =>
    if p.char == '0' then none
    else if isDigit p.char then some (some (digitValue p.char), rest)
    else some (none, p :: rest)

/-- Reads a sign and a digit, in any order, and the rest of their line. -/
def read? (places : List Place) : Option (BlockHeader × List Place) := do
  let (before, rest) := sign places
  let (increment, rest) ← digit? rest
  let (after, rest) := if before.isNone then sign rest else (none, rest)
  let rest ← endLine? rest
  some (⟨(before <|> after).getD .clip, increment⟩, rest)

end BlockHeader

/-- The column at which the lines of a block start, if it is not given: that of the first one that holds anything,
or the greatest that was reached before. There may be no tabs before it. -/
def detectColumn? (greatest : Nat) : List Place → Option Nat
  | [] => some greatest
  | p :: rest =>
    if p.char == ' ' then detectColumn? greatest rest
    else if p.char == '\t' then none
    else if p.isBreak then detectColumn? (max greatest p.column) rest
    else some (max greatest p.column)

/-- The lines of a block that were read, latest character first. The breaks after the last of them, of which the
first is apart, are not decided yet. -/
structure BlockLines where
  text : List Char := []
  first : List Char := []
  more : List Char := []
  /-- Whether the last line starts with a gap. -/
  startsWithGap : Bool := false
  /-- Whether the last line is not at its end. -/
  isOpen : Bool := false

namespace BlockLines

/-- Starts a line with a character. When lines are folded, a line end between two lines that start with no gap
stands for a space, and before others for nothing. -/
def start (folds : Bool) (b : BlockLines) (c : Char) : BlockLines :=
  let joins := folds && b.first == ['\n'] && !b.startsWithGap && !isGap c
  let first := if !joins then b.first else if b.more.isEmpty then [' '] else []
  { text := c :: (b.more ++ first ++ b.text), startsWithGap := isGap c, isOpen := true }

/-- Reads lines that start at a column, up to one that does not. -/
def read? (folds : Bool) (column : Nat) (b : BlockLines) : List Place → Option (BlockLines × List Place)
  | [] => some (b, [])
  | p :: rest =>
    if b.isOpen then
      if p.isBreak then read? folds column { b with first := [p.char], isOpen := false } rest
      else read? folds column { b with text := p.char :: b.text } rest
    else if p.isBreak then read? folds column { b with more := p.char :: b.more } rest
    else if p.char == ' ' && p.column < column then read? folds column b rest
    else if p.char == '\t' && p.column < column then none
    else if p.column == column then read? folds column (b.start folds p.char) rest
    else some (b, p :: rest)

/-- The text of the lines. -/
def finish (b : BlockLines) (chomping : Chomping) : String :=
  String.ofList (match chomping with
    | .strip => b.text
    | .clip => b.first ++ b.text
    | .keep => b.more ++ b.first ++ b.text).reverse

end BlockLines

/-- Reads a block after its mark. `least` is the least column of what belongs to the block around it. -/
def block? (folds : Bool) (least : Nat) (places : List Place) : Option (String × List Place) := do
  let (header, rest) ← BlockHeader.read? places
  let column ← match header.increment with
    | some increment => some (least - 1 + increment)
    | none => detectColumn? (max least 1) rest
  let (lines, rest) ← BlockLines.read? folds column {} rest
  some (lines.finish header.chomping, rest)

end Yaml
end SpanSearch
