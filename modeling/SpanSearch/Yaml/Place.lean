/-! Texts as characters in their places. What a character means in a configuration file depends on its column
and on the line it is in. -/

namespace SpanSearch
namespace Yaml

/-- Whether a character may occur in a file: any but the controls that do not move on, and code points that
are no characters. -/
def isAllowed (c : Char) : Bool :=
  let n := c.toNat
  n == 9 || n == 10 || n == 13 || (0x20 ≤ n && n ≤ 0x7E) || n == 0x85 || (0xA0 ≤ n && n ≤ 0xFFFD) || 0x10000 ≤ n

/-- Whether a character is a space or a tab. -/
def isGap (c : Char) : Bool :=
  c == ' ' || c == '\t'

/-- Whether a character ends a line: a line end in any of its spellings, or a separator of lines or paragraphs. -/
def isBreak (c : Char) : Bool :=
  c == '\n' || c == '\r' || c == '\u0085' || c == '\u2028' || c == '\u2029'

/-- How a break is kept: every line end as the same one, a separator as it is. -/
def keptBreak (c : Char) : Char :=
  if c == '\u2028' || c == '\u2029' then c else '\n'

/-- A character, the number of bytes before it, and the line and the column it is in. -/
structure Place where
  char : Char
  offset : Nat
  line : Nat
  column : Nat
deriving DecidableEq, Inhabited

namespace Place

/-- The characters of a text in their places, from a given place on. A line end of two characters is one. -/
def ofChars (offset line column : Nat) : List Char → List Place
  | [] => []
  | '\r' :: '\n' :: rest => ⟨'\n', offset, line, column⟩ :: ofChars (offset + 2) (line + 1) 0 rest
  | c :: rest =>
    if isBreak c then ⟨keptBreak c, offset, line, column⟩ :: ofChars (offset + c.utf8Size) (line + 1) 0 rest
    else ⟨c, offset, line, column⟩ :: ofChars (offset + c.utf8Size) line (column + 1) rest

/-- The places of a text, if all its characters are allowed. A byte order mark at its start is passed over, but
takes a column. -/
def ofText? (text : String) : Option (List Place) :=
  if text.toList.all isAllowed then
    match text.toList with
    | '\uFEFF' :: rest => some (ofChars '\uFEFF'.utf8Size 0 1 rest)
    | chars => some (ofChars 0 0 0 chars)
  else none

/-- Whether a character is a space or a tab. -/
def isGap (p : Place) : Bool :=
  Yaml.isGap p.char

/-- Whether a character ends a line. -/
def isBreak (p : Place) : Bool :=
  Yaml.isBreak p.char

/-- Whether a character is a gap or ends a line. -/
def isBlank (p : Place) : Bool :=
  p.isGap || p.isBreak

end Place

/-- Whether no word goes on here: at the end, and before blanks. -/
def endsWord (places : List Place) : Bool :=
  places.head?.all (·.isBlank)

/-- Whether one of the characters comes next. -/
def startsWithOne (chars : List Char) (places : List Place) : Bool :=
  places.head?.any (chars.contains ·.char)

/-- Whether a line starts with three of a mark and nothing that would make it a word. -/
def atTriple (mark : Char) (places : List Place) : Bool :=
  places.head?.any (·.column == 0) && (places.take 3).map (·.char) == [mark, mark, mark] && endsWord (places.drop 3)

/-- Whether a document starts or ends here. -/
def atMarker (places : List Place) : Bool :=
  atTriple '-' places || atTriple '.' places

/-- What follows when only gaps and a comment are left on the line. -/
def endLine? (places : List Place) : Option (List Place) :=
  let rest := places.dropWhile (·.isGap)
  let rest := if startsWithOne ['#'] rest then rest.dropWhile (!·.isBreak) else rest
  match rest with
  | [] => some []
  | p :: after => if p.isBreak then some after else none

end Yaml
end SpanSearch
