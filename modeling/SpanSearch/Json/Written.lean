import SpanSearch.Json.Basic

/-! Documents as they are written: literals before they stand for numbers and characters. A written
document is read as a whole, or as a record of which only the members with known names count. -/

namespace SpanSearch

/-- A piece of a string literal: a character, or half of a surrogate pair given by an escape. -/
inductive Piece where
  | char (c : Char)
  | half (unit : Nat)
deriving DecidableEq

namespace Piece

/-- The character that two halves form together. -/
def join? (first second : Nat) : Option Char :=
  if 0xD800 ≤ first && first < 0xDC00 && 0xDC00 ≤ second && second < 0xE000 then
    some (Char.ofNat (0x10000 + (first - 0xD800) * 0x400 + (second - 0xDC00)))
  else none

/-- The characters of a string literal; a half without its other half stands for none. -/
def characters? : List Piece → Option (List Char)
  | [] => some []
  | char c :: rest => (characters? rest).map (c :: ·)
  | half first :: half second :: rest => do
    let c ← join? first second
    (characters? rest).map (c :: ·)
  | half _ :: _ => none

/-- The string of a literal. -/
def string? (pieces : List Piece) : Option String :=
  (characters? pieces).map String.ofList

end Piece

/-- A document as it is written. -/
inductive Written where
  | null
  | bool (b : Bool)
  | number (literal : NumberLiteral)
  | string (pieces : List Piece)
  | array (items : List Written)
  | object (members : List (List Piece × Written))

/-- What of a written document counts: all of it, or, where it is a record, the members with these
names, each again in part or as a whole. -/
inductive Shape where
  | everything
  | record (members : List (String × Shape))

namespace Shape

/-- The shape of a member, if the member counts. -/
def member? : Shape → String → Option Shape
  | everything, _ => some everything
  | record members, name => members.lookup name

/-- A record whose members with these names count as a whole. -/
def ofNames (names : List String) : Shape :=
  record (names.map (·, everything))

/-- The shapes of the items of a record that is written by position. -/
def positions : Shape → List Shape
  | everything => []
  | record members => members.map (·.2)

end Shape

namespace Written

mutual

/-- The document that is written, as far as its shape counts, if its arrays and objects are nested
no deeper than `depth`. -/
def read? (depth : Nat) (shape : Shape) : Written → Option Json
  | null => some .null
  | bool b => some (.bool b)
  | number literal => literal.number?.map .number
  | string pieces => (Piece.string? pieces).map .string
  | array items =>
    match depth with
    | 0 => none
    | depth + 1 => (readItems? depth shape.positions items).map .array
  | object members =>
    match depth with
    | 0 => none
    | depth + 1 => (readMembers? depth shape members).map .object

/-- Items, each read with the shape of its position; those beyond the positions count as a whole. -/
def readItems? (depth : Nat) (shapes : List Shape) : List Written → Option (List Json)
  | [] => some []
  | w :: rest => do
    let item ← read? depth (shapes.headD .everything) w
    (readItems? depth shapes.tail rest).map (item :: ·)

/-- The members that count. The others need a name, but their values may be anything. -/
def readMembers? (depth : Nat) (shape : Shape) : List (List Piece × Written) → Option (List (String × Json))
  | [] => some []
  | (pieces, w) :: rest => do
    let name ← Piece.string? pieces
    match shape.member? name with
    | none => readMembers? depth shape rest
    | some inner =>
      let value ← read? depth inner w
      (readMembers? depth shape rest).map ((name, value) :: ·)

end

/-- The greatest nesting of arrays and objects that is read. -/
def depthLimit : Nat := 127

end Written
end SpanSearch
