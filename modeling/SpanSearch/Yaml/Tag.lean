import SpanSearch.Text.Digit
import SpanSearch.Yaml.Place

/-! Names, tags and directives. A tag is known by its bytes, which need not be those of a text. -/

namespace SpanSearch
namespace Yaml

/-- Whether a character may occur in a name: an ASCII letter or digit, an underscore or a dash. -/
def isNameChar (c : Char) : Bool :=
  c.isAlphanum || c == '_' || c == '-'

/-- The name that comes next, perhaps an empty one. -/
def name (places : List Place) : String × List Place :=
  (String.ofList ((places.takeWhile (isNameChar ·.char)).map (·.char)), places.dropWhile (isNameChar ·.char))

/-- Reads the name of an anchor. -/
def anchorName? (places : List Place) : Option (String × List Place) :=
  let (anchor, rest) := name places
  if !anchor.isEmpty && (endsWord rest || startsWithOne ['?', ':', ',', ']', '}', '%', '@', '\x60'] rest) then
    some (anchor, rest)
  else none

/-! ### Tags -/

/-- A tag: its bytes, or a handle that a directive may explain and the bytes after it. -/
inductive Tag where
  | whole (bytes : List UInt8)
  | under (handle : String) (bytes : List UInt8)
deriving DecidableEq

namespace Tag

/-- Whether a character may stand for itself in a tag; where nothing else can end it, a comma and brackets may. -/
def isPlainChar (wide : Bool) (c : Char) : Bool :=
  isNameChar c || [';', '/', '?', ':', '@', '&', '=', '+', '$', '.', '!', '~', '*', '\'', '(', ')'].contains c ||
    (wide && [',', '[', ']'].contains c)

/-- How many bytes of a character are still to come after a byte, when `expected` were before it. -/
def bytesAfter? (expected : Nat) (byte : Nat) : Option Nat :=
  if 0 < expected then (if byte / 64 == 2 then some (expected - 1) else none)
  else if byte < 0x80 then some 0
  else if byte / 32 == 6 then some 1
  else if byte / 16 == 14 then some 2
  else if byte / 8 == 30 then some 3
  else none

/-- Reads the bytes of a tag. After a percent sign, two digits spell a byte; the bytes of a character may not
be parted. -/
def bytesFrom? (wide : Bool) (expected : Nat) : List Place → Option (List UInt8 × List Place)
  | [] => if expected == 0 then some ([], []) else none
  | p :: rest =>
    if p.char == '%' then
      match rest with
      | a :: b :: after => do
        let byte ← hexNumber? [a.char, b.char]
        let expected ← bytesAfter? expected byte
        let (bytes, after) ← bytesFrom? wide expected after
        some (byte.toUInt8 :: bytes, after)
      | _ => none
    else if expected != 0 then none
    else if isPlainChar wide p.char then do
      let (bytes, after) ← bytesFrom? wide 0 rest
      some (p.char.toNat.toUInt8 :: bytes, after)
    else some ([], p :: rest)

/-- The bytes of a tag, which end before a zero. -/
def bytes? (wide : Bool) (places : List Place) : Option (List UInt8 × List Place) := do
  let (bytes, rest) ← bytesFrom? wide 0 places
  some (bytes.takeWhile (· != 0), rest)

/-- The bytes of a tag that is not left empty. -/
def someBytes? (wide : Bool) (places : List Place) : Option (List UInt8 × List Place) := do
  let (bytes, rest) ← bytes? wide places
  if rest.length < places.length then some (bytes, rest) else none

/-- The tag that leaves the kind of a value open. -/
def openBytes : List UInt8 := [0x21]

/-- Reads a tag after its mark: in angle brackets it is whole, and else it is under the handle between two marks,
or under that of one mark. -/
def read? (inFlow : Bool) (places : List Place) : Option (Tag × List Place) := do
  let (tag, rest) ← readAny places
  if endsWord rest || (inFlow && startsWithOne [','] rest) then some (tag, rest) else none
where
  readAny (places : List Place) : Option (Tag × List Place) :=
    if startsWithOne ['<'] places then do
      let (bytes, rest) ← someBytes? true (places.drop 1)
      if startsWithOne ['>'] rest then some (whole bytes, rest.drop 1) else none
    else
      let (handle, rest) := name places
      if startsWithOne ['!'] rest then do
        let (bytes, rest) ← someBytes? false (rest.drop 1)
        some (under ("!" ++ handle ++ "!") bytes, rest)
      else do
        let (bytes, rest) ← bytes? false places
        some (if bytes.isEmpty then whole openBytes else under "!" bytes, rest)

end Tag

/-! ### Directives -/

/-- What is said about a document before it: the version of the notation, or what a handle stands for. -/
inductive Directive where
  | version
  | shorthand (handle : String) (bytes : List UInt8)
deriving DecidableEq

namespace Directive

/-- A number of at most nine digits. -/
def number? (places : List Place) : Option (Nat × List Place) :=
  let digits := (places.takeWhile (isDigit ·.char)).map fun p => digitValue p.char
  if digits.isEmpty || 9 < digits.length then none
  else some (digits.foldl (10 * · + ·) 0, places.drop digits.length)

/-- Reads a version, which has to be 1.1 or 1.2. -/
def version? (places : List Place) : Option (List Place) := do
  let (major, rest) ← number? places
  if !startsWithOne ['.'] rest then none
  else do
    let (minor, rest) ← number? (rest.drop 1)
    if major == 1 && (minor == 1 || minor == 2) then some rest else none

/-- Reads the handle of tags: one mark, or a name between two. -/
def handle? (places : List Place) : Option (String × List Place) :=
  if startsWithOne ['!'] places then
    let (handle, rest) := name (places.drop 1)
    if startsWithOne ['!'] rest then some ("!" ++ handle ++ "!", rest.drop 1)
    else if handle.isEmpty then some ("!", rest)
    else none
  else none

/-- Reads a directive after its mark, to the end of the line. -/
def read? (places : List Place) : Option (Directive × List Place) := do
  let (word, rest) := name places
  if !endsWord rest then none
  else
    let rest := rest.dropWhile (·.isGap)
    match word with
    | "YAML" => do
      let rest ← version? rest
      some (version, ← endLine? rest)
    | "TAG" => do
      let (name, rest) ← handle? rest
      if !rest.head?.any (·.isGap) then none
      else do
        let (bytes, rest) ← Tag.someBytes? true (rest.dropWhile (·.isGap))
        if endsWord rest then some (shorthand name bytes, ← endLine? rest) else none
    | _ => none

end Directive

end Yaml
end SpanSearch
