import SpanSearch.Yaml.Scalar
import SpanSearch.Yaml.Token

/-! The layout of a file: which blocks, brackets and keys are open at a place. It turns indentation into tokens. The
tokens are only added to, but for a key, which is put before its own tokens once its colon is met. -/

namespace SpanSearch
namespace Yaml

/-- A place at which a key may have started; only the colon after it shows whether one did. -/
structure PossibleKey where
  /-- The number of tokens before it. -/
  before : Nat
  place : Place
  /-- Whether nothing else can start there. -/
  required : Bool

/-- What is known of a file up to a place. -/
structure Layout where
  /-- The tokens up to there, latest first, and their number. -/
  tokens : List Token := []
  count : Nat := 0
  count_eq : count = tokens.length := by rfl
  /-- The columns of the open blocks, innermost first. -/
  blocks : List Nat := []
  /-- The possible key inside the innermost brackets or braces, and those around each of them. -/
  key : Option PossibleKey := none
  outer : List (Option PossibleKey) := []
  /-- Whether a key may start here. -/
  keyAllowed : Bool := true

namespace Layout

/-- Whether brackets or braces are open. -/
def inFlow (l : Layout) : Bool :=
  !l.outer.isEmpty

/-- The least column of what belongs to the innermost block. -/
def least (l : Layout) : Nat :=
  match l.blocks with
  | [] => 0
  | column :: _ => column + 1

/-- Adds a token. -/
def push (l : Layout) (t : Token) : Layout :=
  { l with tokens := t :: l.tokens, count := l.count + 1, count_eq := congrArg (· + 1) l.count_eq }

/-- Adds tokens, latest first, behind the first `before` ones. -/
def insert (l : Layout) (before : Nat) (tokens : List Token) : Layout :=
  let after := l.count - before
  { l with
    tokens := l.tokens.take after ++ tokens ++ l.tokens.drop after
    count := l.count + tokens.length
    count_eq := by
      simp only [List.length_append, List.length_take, List.length_drop, l.count_eq]
      omega }

/-! ### Possible keys -/

/-- Gives up the possible key, unless it is required. -/
def dropKey (l : Layout) : Option Layout :=
  if l.key.any (·.required) then none else some { l with key := none }

/-- Gives up a possible key that is too far away: a key stands on one line, within 1024 bytes. -/
def dropFarKey (l : Layout) (p : Place) : Option Layout :=
  if l.key.any fun k => k.place.line < p.line || k.place.offset + 1024 < p.offset then l.dropKey else some l

/-- Notes that a key may start at a place. In a block it is required where the other keys start. -/
def markKey (l : Layout) (p : Place) : Option Layout :=
  if l.keyAllowed then do
    let l ← l.dropKey
    some { l with key := some ⟨l.count, p, !l.inFlow && l.blocks.head? == some p.column⟩ }
  else some l

/-! ### Blocks -/

/-- Closes the innermost blocks as far as they are further in than a column; in brackets and braces, indentation
does not count. -/
def closeBlocks (l : Layout) (isInside : Nat → Bool) : Layout :=
  if l.inFlow then l
  else
    let closed := (l.blocks.takeWhile isInside).length
    { l with
      tokens := List.replicate closed .blockEnd ++ l.tokens
      count := l.count + closed
      count_eq := by
        simp only [List.length_append, List.length_replicate, l.count_eq]
        omega
      blocks := l.blocks.dropWhile isInside }

/-- Opens a block at a column, unless one is open there. In a block this is possible only where a key is. -/
def openBlock (l : Layout) (p : Place) (opening : Token) : Option Layout :=
  if l.inFlow then some l
  else if !l.keyAllowed then none
  else if l.least ≤ p.column then some { l.push opening with blocks := p.column :: l.blocks }
  else some l

/-! ### Steps -/

/-- Passes over blanks and comments; tabs count as blanks where no key may start. A line end in a block lets a key
start after it. -/
def skipBlanks (inFlow inComment keyAllowed : Bool) : List Place → Bool × List Place
  | [] => (keyAllowed, [])
  | p :: rest =>
    if p.isBreak then skipBlanks inFlow false (keyAllowed || !inFlow) rest
    else if inComment || p.char == ' ' || (p.char == '\t' && (inFlow || !keyAllowed)) then
      skipBlanks inFlow inComment keyAllowed rest
    else if p.char == '#' then skipBlanks inFlow true keyAllowed rest
    else (keyAllowed, p :: rest)

/-- Adds a token between documents or before one. -/
def boundary (l : Layout) (t : Token) : Option Layout := do
  let l ← (l.closeBlocks fun _ => true).dropKey
  some { l.push t with keyAllowed := false }

/-- Adds a token at which a key may start. -/
def content (l : Layout) (p : Place) (t : Token) : Option Layout := do
  let l ← l.markKey p
  some { l.push t with keyAllowed := false }

/-- Opens brackets or braces, which may be a key. -/
def openFlow (l : Layout) (p : Place) (t : Token) : Option Layout := do
  let l ← l.markKey p
  some { l.push t with key := none, outer := l.key :: l.outer, keyAllowed := true }

/-- Closes brackets or braces. -/
def closeFlow (l : Layout) (t : Token) : Option Layout := do
  let l ← l.dropKey
  let l := { l.push t with keyAllowed := false }
  some <| match l.outer with
    | [] => l
    | key :: outer => { l with key, outer }

/-- Adds a comma. -/
def comma (l : Layout) : Option Layout := do
  let l ← l.dropKey
  some { l.push .comma with keyAllowed := true }

/-- Adds the dash of an item. -/
def item (l : Layout) (p : Place) : Option Layout := do
  let l ← (← l.openBlock p .blockSequence).dropKey
  some { l.push .item with keyAllowed := true }

/-- Adds the mark of a key. -/
def keyMark (l : Layout) (p : Place) : Option Layout := do
  let l ← (← l.openBlock p .blockMapping).dropKey
  some { l.push .key with keyAllowed := !l.inFlow }

/-- Adds the colon of a value. A possible key turns out to be one, and opens its block. -/
def value (l : Layout) (p : Place) : Option Layout :=
  match l.key with
  | some k =>
    let opens := !l.inFlow && l.least ≤ k.place.column
    let l := l.insert k.before (if opens then [.key, .blockMapping] else [.key])
    some { l.push .value with
      key := none
      blocks := if opens then k.place.column :: l.blocks else l.blocks
      keyAllowed := false }
  | none => do
    let l ← l.openBlock p .blockMapping
    some { l.push .value with keyAllowed := !l.inFlow }

/-- Adds a block of lines. -/
def lines (l : Layout) (text : String) : Option Layout := do
  let l ← l.dropKey
  some { l.push (.scalar false text) with keyAllowed := true }

/-- Whether a plain scalar starts here. -/
def startsPlain (inFlow : Bool) (p : Place) (rest : List Place) : Bool :=
  if p.char == '-' then !rest.head?.any (·.isGap)
  else if p.char == '?' || p.char == ':' then !inFlow && !endsWord rest
  else !p.isBlank && !flowMarks.contains p.char &&
    !(['#', '&', '*', '!', '|', '>', '\'', '"', '%', '@', '\x60'].contains p.char)

/-- Reads the token that starts at a place. -/
def step? (l : Layout) (p : Place) (rest : List Place) : Option (Layout × List Place) :=
  if p.column == 0 && p.char == '%' then do
    let (d, after) ← Directive.read? rest
    some (← l.boundary (.directive d), after)
  else if atTriple '-' (p :: rest) then do some (← l.boundary .documentStart, rest.drop 2)
  else if atTriple '.' (p :: rest) then do some (← l.boundary .documentEnd, rest.drop 2)
  else if p.char == '[' then do some (← l.openFlow p .flowSequence, rest)
  else if p.char == '{' then do some (← l.openFlow p .flowMapping, rest)
  else if p.char == ']' then do some (← l.closeFlow .flowSequenceEnd, rest)
  else if p.char == '}' then do some (← l.closeFlow .flowMappingEnd, rest)
  else if p.char == ',' then do some (← l.comma, rest)
  else if p.char == '-' && endsWord rest then do some (← l.item p, rest)
  else if p.char == '?' && (l.inFlow || endsWord rest) then do some (← l.keyMark p, rest)
  else if p.char == ':' && (l.inFlow || endsWord rest) then do some (← l.value p, rest)
  else if p.char == '*' then do
    let (name, after) ← anchorName? rest
    some (← l.content p (.alias name), after)
  else if p.char == '&' then do
    let (name, after) ← anchorName? rest
    some (← l.content p (.anchor name), after)
  else if p.char == '!' then do
    let (tag, after) ← Tag.read? l.inFlow rest
    some (← l.content p (.tag tag), after)
  else if (p.char == '|' || p.char == '>') && !l.inFlow then do
    let (text, after) ← block? (p.char == '>') l.least rest
    some (← l.lines text, after)
  else if p.char == '\'' then do
    let (text, after) ← singleQuoted? {} rest
    some (← l.content p (.scalar false text), after)
  else if p.char == '"' then do
    let (text, after) ← doubleQuoted? {} rest
    some (← l.content p (.scalar false text), after)
  else if startsPlain l.inFlow p rest then do
    let (text, afterBreak, after) ← plain? l.inFlow l.least {} (p :: rest)
    let l ← l.content p (.scalar true text)
    some ({ l with keyAllowed := afterBreak }, after)
  else none

/-- Reads the tokens from a place on; the fuel is more than the number of characters. -/
def run? : Nat → Layout → List Place → Option Layout
  | 0, _, _ => none
  | fuel + 1, l, places =>
    let (keyAllowed, places) := skipBlanks l.inFlow false l.keyAllowed places
    let l := { l with keyAllowed }
    match places with
    | [] => (l.closeBlocks fun _ => true).dropKey
    | p :: rest => do
      let l ← l.dropFarKey p
      let (l, after) ← (l.closeBlocks (p.column < ·)).step? p rest
      run? fuel l after

end Layout

/-- The tokens of a text. -/
def Token.ofText? (text : String) : Option (List Token) := do
  let places ← Place.ofText? text
  let l ← Layout.run? (places.length + 1) {} places
  some l.tokens.reverse

end Yaml
end SpanSearch
