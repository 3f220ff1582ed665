import SpanSearch.Yaml.Layout

/-! Nodes: the tree that tokens spell. -/

namespace SpanSearch
namespace Yaml

/-- A node, in which anchors are known by an `ρ`. -/
inductive Node (ρ : Type) where
  /-- What an anchor is on. -/
  | alias (anchor : ρ)
  | scalar (anchor : Option ρ) (tag : Option (List UInt8)) (plain : Bool) (text : String)
  | sequence (anchor : Option ρ) (items : List (Node ρ))
  | mapping (anchor : Option ρ) (members : List (Node ρ × Node ρ))
deriving Inhabited

namespace Node

/-- A node that was left out. -/
def missing {ρ : Type} : Node ρ :=
  .scalar none none true ""

/-- Where a node stands: in brackets or braces, in a block, or as a key or a value in a block, where the items of
a list need no indentation. -/
inductive Context where
  | flow
  | block
  | member
deriving DecidableEq

/-- What may be said of a node before it. -/
structure Properties where
  anchor : Option String := none
  tag : Option (List UInt8) := none

/-- The handles of tags, and the bytes they stand for. -/
abbrev Handles := List (String × List UInt8)

namespace Properties

/-- The bytes of a tag, if its handle is known. -/
def tagBytes? (handles : Handles) : Tag → Option (List UInt8)
  | .whole bytes => some bytes
  | .under handle bytes => (handles.lookup handle).map (· ++ bytes)

/-- Reads the properties of a node: an anchor and a tag, in any order. -/
def read? (handles : Handles) : List Token → Option (Properties × List Token)
  | .anchor name :: .tag tag :: rest | .tag tag :: .anchor name :: rest => do
    some ({ anchor := some name, tag := some (← tagBytes? handles tag) }, rest)
  | .anchor name :: rest => some ({ anchor := some name }, rest)
  | .tag tag :: rest => do some ({ tag := some (← tagBytes? handles tag) }, rest)
  | rest => some ({}, rest)

/-- Whether nothing is said. -/
def isEmpty (p : Properties) : Bool :=
  p.anchor.isNone && p.tag.isNone

end Properties

/-- Whether a token ends a key or a value in a block. -/
def endsMember : Token → Bool
  | .key | .value | .blockEnd => true
  | _ => false

/-- Whether one of some tokens comes next. -/
def comesNext (isOne : Token → Bool) (tokens : List Token) : Bool :=
  tokens.head?.any isOne

/-- What follows a comma. -/
def afterComma? : List Token → Option (List Token)
  | .comma :: rest => some rest
  | _ => none

/-- A node of which only properties are given. -/
def emptyNode? (p : Properties) (tokens : List Token) : Option (Node String × List Token) :=
  if p.isEmpty then none else some (.scalar p.anchor p.tag true "", tokens)

mutual

/-- Reads a node. -/
def read? (handles : Handles) : Nat → Context → List Token → Option (Node String × List Token)
  | 0, _, _ => none
  | _, _, .alias name :: rest => some (.alias name, rest)
  | fuel + 1, context, tokens => do
    let (p, tokens) ← Properties.read? handles tokens
    match tokens with
    | .scalar plain text :: rest =>
      some (.scalar p.anchor (if p.tag == some Tag.openBytes then none else p.tag) plain text, rest)
    | .flowSequence :: rest =>
      (flowItems? handles fuel true rest).map fun (items, rest) => (.sequence p.anchor items, rest)
    | .flowMapping :: rest =>
      (flowMembers? handles fuel true rest).map fun (members, rest) => (.mapping p.anchor members, rest)
    | .item :: _ =>
      if context == .member then
        (bareItems? handles fuel tokens).map fun (items, rest) => (.sequence p.anchor items, rest)
      else emptyNode? p tokens
    | .blockSequence :: rest =>
      if context == .flow then emptyNode? p tokens
      else (blockItems? handles fuel rest).map fun (items, rest) => (.sequence p.anchor items, rest)
    | .blockMapping :: rest =>
      if context == .flow then emptyNode? p tokens
      else (blockMembers? handles fuel rest).map fun (members, rest) => (.mapping p.anchor members, rest)
    | tokens => emptyNode? p tokens

/-- Reads a node that may be left out before some tokens. -/
def part? (handles : Handles) : Nat → Context → (Token → Bool) → List Token → Option (Node String × List Token)
  | 0, _, _, _ => none
  | fuel + 1, context, endsPart, tokens =>
    if comesNext endsPart tokens then some (missing, tokens) else read? handles fuel context tokens

/-- Reads the items of a block, to its end. -/
def blockItems? (handles : Handles) : Nat → List Token → Option (List (Node String) × List Token)
  | 0, _ => none
  | fuel + 1, tokens =>
    match tokens with
    | .blockEnd :: rest => some ([], rest)
    | .item :: rest => do
      let (item, rest) ← part? handles fuel .block (fun t => t == .item || t == .blockEnd) rest
      let (items, rest) ← blockItems? handles fuel rest
      some (item :: items, rest)
    | _ => none

/-- Reads items that have no block of their own. -/
def bareItems? (handles : Handles) : Nat → List Token → Option (List (Node String) × List Token)
  | 0, _ => none
  | fuel + 1, tokens =>
    match tokens with
    | .item :: rest => do
      let (item, rest) ← part? handles fuel .block (fun t => t == .item || endsMember t) rest
      let (items, rest) ← bareItems? handles fuel rest
      some (item :: items, rest)
    | rest => some ([], rest)

/-- Reads the members of a block, to its end. -/
def blockMembers? (handles : Handles) : Nat → List Token → Option (List (Node String × Node String) × List Token)
  | 0, _ => none
  | fuel + 1, tokens =>
    match tokens with
    | .blockEnd :: rest => some ([], rest)
    | .key :: rest => do
      let (key, rest) ← part? handles fuel .member endsMember rest
      let (value, rest) ← match rest with
        | .value :: rest => part? handles fuel .member endsMember rest
        | rest => some (missing, rest)
      let (members, rest) ← blockMembers? handles fuel rest
      some ((key, value) :: members, rest)
    | _ => none

/-- Reads the items in brackets, to the closing one; a comma comes before each but the first, and may come after
the last. An item with a key is a mapping with that member. -/
def flowItems? (handles : Handles) : Nat → Bool → List Token → Option (List (Node String) × List Token)
  | 0, _, _ => none
  | _, _, .flowSequenceEnd :: rest => some ([], rest)
  | fuel + 1, first, tokens =>
    match if first then some tokens else afterComma? tokens with
    | some (.flowSequenceEnd :: rest) => some ([], rest)
    | some (.key :: rest) => do
      let (key, rest) ←
        if comesNext (fun t => t == .value || t == .comma || t == .flowSequenceEnd) rest then
          some (missing, rest.drop 1)
        else read? handles fuel .flow rest
      let (value, rest) ← match rest with
        | .value :: rest => part? handles fuel .flow (fun t => t == .comma || t == .flowSequenceEnd) rest
        | rest => some (missing, rest)
      let (items, rest) ← flowItems? handles fuel false rest
      some (.mapping none [(key, value)] :: items, rest)
    | some tokens => do
      let (item, rest) ← read? handles fuel .flow tokens
      let (items, rest) ← flowItems? handles fuel false rest
      some (item :: items, rest)
    | none => none

/-- Reads the members in braces, to the closing one; a comma comes before each but the first, and may come after
the last. -/
def flowMembers? (handles : Handles) :
    Nat → Bool → List Token → Option (List (Node String × Node String) × List Token)
  | 0, _, _ => none
  | _, _, .flowMappingEnd :: rest => some ([], rest)
  | fuel + 1, first, tokens =>
    match if first then some tokens else afterComma? tokens with
    | some (.flowMappingEnd :: rest) => some ([], rest)
    | some (.key :: rest) => do
      let (key, rest) ← part? handles fuel .flow (fun t => t == .value || t == .comma || t == .flowMappingEnd) rest
      let (value, rest) ← match rest with
        | .value :: rest => part? handles fuel .flow (fun t => t == .comma || t == .flowMappingEnd) rest
        | rest => some (missing, rest)
      let (members, rest) ← flowMembers? handles fuel false rest
      some ((key, value) :: members, rest)
    | some tokens => do
      let (key, rest) ← read? handles fuel .flow tokens
      let (members, rest) ← flowMembers? handles fuel false rest
      some ((key, missing) :: members, rest)
    | none => none

end

/-! ### Streams -/

/-- The handles that need no directive. -/
def standardHandles : Handles :=
  [("!", "!".toUTF8.toList), ("!!", "tag:yaml.org,2002:".toUTF8.toList)]

/-- The directives at the start of a stream, and what follows them. -/
def directives : List Token → List Directive × List Token
  | .directive d :: rest => (d :: (directives rest).1, (directives rest).2)
  | rest => ([], rest)

/-- The handles that directives explain, each of them once; the version may be given once, too. -/
def handlesOf? (directives : List Directive) : Option Handles :=
  let handles := directives.filterMap fun
    | .version => none
    | .shorthand handle bytes => some (handle, bytes)
  if directives.count .version ≤ 1 && decide (handles.map (·.1)).Nodup then some handles else none

/-- Whether a token ends the content of a document. -/
def endsDocument : Token → Bool
  | .directive _ | .documentStart | .documentEnd => true
  | _ => false

/-- The only document of a stream of tokens, or nothing if the stream is empty. -/
def ofTokens? (tokens : List Token) : Option (Option (Node String)) :=
  if tokens.isEmpty then some none
  else do
    let fuel := 4 * tokens.length + 4
    let (directives, rest) := directives tokens
    let handles ← handlesOf? directives
    let (node, rest) ← match rest with
      | .documentStart :: rest =>
        if rest.isEmpty || comesNext endsDocument rest then some (missing, rest)
        else read? (handles ++ standardHandles) fuel .block rest
      | rest => if directives.isEmpty then read? standardHandles fuel .block rest else none
    if (rest.dropWhile (· == .documentEnd)).isEmpty then some (some node) else none

end Node

end Yaml
end SpanSearch
