import SpanSearch.Yaml.Node

/-! Documents, in which an anchor is known by a number instead of a name. -/

namespace SpanSearch
namespace Yaml

namespace Node

/-- The numbers of the names that anchors have had so far, each name once. -/
abbrev Anchors := List (String × Nat)

/-- Numbers an anchor by the number of names before it, which then belongs to its name. -/
def numberAnchor (names : Anchors) : Option String → Option Nat × Anchors
  | none => (none, names)
  | some name => (some names.length, (name, names.length) :: names.filter (·.1 != name))

mutual

/-- Numbers the anchors of a node and then those inside it. An alias refers to an anchor before it. -/
def number? (names : Anchors) : Node String → Option (Node Nat × Anchors)
  | .alias name => (names.lookup name).map fun n => (.alias n, names)
  | .scalar anchor tag plain text =>
    let (anchor, names) := numberAnchor names anchor
    some (.scalar anchor tag plain text, names)
  | .sequence anchor items => do
    let (anchor, names) := numberAnchor names anchor
    let (items, names) ← numberItems? names items
    some (.sequence anchor items, names)
  | .mapping anchor members => do
    let (anchor, names) := numberAnchor names anchor
    let (members, names) ← numberMembers? names members
    some (.mapping anchor members, names)

/-- Numbers the anchors of nodes one after another. -/
def numberItems? (names : Anchors) : List (Node String) → Option (List (Node Nat) × Anchors)
  | [] => some ([], names)
  | item :: rest => do
    let (item, names) ← number? names item
    let (rest, names) ← numberItems? names rest
    some (item :: rest, names)

/-- Numbers the anchors of members, in each of the key and then of the value. -/
def numberMembers? (names : Anchors) : List (Node String × Node String) → Option (List (Node Nat × Node Nat) × Anchors)
  | [] => some ([], names)
  | (key, value) :: rest => do
    let (key, names) ← number? names key
    let (value, names) ← number? names value
    let (rest, names) ← numberMembers? names rest
    some ((key, value) :: rest, names)

end

mutual

/-- The nodes with an anchor, a node before those inside it. -/
def anchored {ρ : Type} : Node ρ → List (ρ × Node ρ)
  | .alias _ => []
  | .scalar anchor tag plain text => (anchor.map (·, .scalar anchor tag plain text)).toList
  | .sequence anchor items => (anchor.map (·, .sequence anchor items)).toList ++ anchoredItems items
  | .mapping anchor members => (anchor.map (·, .mapping anchor members)).toList ++ anchoredMembers members

/-- The nodes with an anchor among nodes and inside them. -/
def anchoredItems {ρ : Type} : List (Node ρ) → List (ρ × Node ρ)
  | [] => []
  | item :: rest => anchored item ++ anchoredItems rest

/-- The nodes with an anchor among keys and values and inside them. -/
def anchoredMembers {ρ : Type} : List (Node ρ × Node ρ) → List (ρ × Node ρ)
  | [] => []
  | (key, value) :: rest => anchored key ++ anchored value ++ anchoredMembers rest

end

end Node

/-- A document. -/
structure Document where
  root : Node Nat
  /-- The nodes with an anchor. A number may be given again; the last node with it counts. -/
  anchored : List (Nat × Node Nat)

namespace Document

/-- The document of a text; an empty text leaves its root out. -/
def ofText? (text : String) : Option Document := do
  let tokens ← Token.ofText? text
  let node := (← Node.ofTokens? tokens).getD .missing
  let (root, _) ← node.number? []
  some ⟨root, root.anchored.reverse⟩

/-- A node itself, where an alias stands for one. -/
def follow? (d : Document) : Node Nat → Option (Node Nat)
  | .alias n => d.anchored.lookup n
  | node => some node

/-- The text of a scalar, whatever its tag. -/
def text? (d : Document) (node : Node Nat) : Option String := do
  match ← d.follow? node with
  | .scalar _ _ _ text => some text
  | _ => none

/-- The members of a mapping with their names; a value that was left out has none. -/
def members? (d : Document) (node : Node Nat) : Option (List (String × Node Nat)) := do
  match ← d.follow? node with
  | .mapping _ members => members.mapM fun (key, value) => do some (← d.text? key, value)
  | .scalar _ _ true "" => some []
  | _ => none

/-- The name that a choice is given by: a tag of its own on a value that is left out or void, or a text. -/
def choice? (d : Document) (node : Node Nat) : Option String := do
  match ← d.follow? node with
  | .scalar _ tag plain text =>
    match (tag.bind ownName?) with
    | some name => if plain && ["", "null", "Null", "NULL", "~"].contains text then some name else none
    | none => some text
  | _ => none
where
  /-- The name in a tag that starts with a mark. -/
  ownName? : List UInt8 → Option String
    | 0x21 :: name => String.fromUTF8? ⟨name.toArray⟩
    | _ => none

end Document

end Yaml
end SpanSearch
