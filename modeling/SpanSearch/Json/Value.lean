import SpanSearch.Entries
import SpanSearch.Json.Basic

/-! Free-form values: documents in which every object lists each name once, in ascending order. Of
repeated names the last one is kept. -/

namespace SpanSearch
namespace Json

mutual

/-- Every object of the document lists its names in ascending order. -/
def Canonical : Json → Prop
  | array items => CanonicalItems items
  | object members => Entries.Ascending members ∧ CanonicalMembers members
  | _ => True

/-- Every item is canonical. -/
def CanonicalItems : List Json → Prop
  | [] => True
  | j :: rest => j.Canonical ∧ CanonicalItems rest

/-- The value of every member is canonical. -/
def CanonicalMembers : List (String × Json) → Prop
  | [] => True
  | (_, j) :: rest => j.Canonical ∧ CanonicalMembers rest

end

mutual

/-- The document with the members of every object in order, the last one of a name kept. -/
def collapse : Json → Json
  | array items => .array (collapseItems items)
  | object members => .object (collapseMembers [] members)
  | j => j

/-- Collapses every item. -/
def collapseItems : List Json → List Json
  | [] => []
  | j :: rest => collapse j :: collapseItems rest

/-- Inserts the members one after another into those already in place. -/
def collapseMembers (placed : List (String × Json)) : List (String × Json) → List (String × Json)
  | [] => placed
  | (name, j) :: rest => collapseMembers (Entries.place name (collapse j) placed) rest

end

theorem canonicalMembers_place {name : String} {value : Json} {members : List (String × Json)}
    (hv : value.Canonical) (h : CanonicalMembers members) : CanonicalMembers (Entries.place name value members) := by
  induction members with
  | nil => exact ⟨hv, trivial⟩
  | cons held rest ih =>
    obtain ⟨here, tail⟩ := h
    rw [Entries.place]
    split
    · exact ⟨hv, here, tail⟩
    · split
      · exact ⟨here, ih tail⟩
      · exact ⟨hv, tail⟩

mutual

theorem canonical_collapse : ∀ j : Json, (collapse j).Canonical
  | null | bool _ | number _ | string _ => trivial
  | array items => canonicalItems_collapse items
  | object members => collapseMembers_canonical members [] List.Pairwise.nil trivial

theorem canonicalItems_collapse : ∀ items : List Json, CanonicalItems (collapseItems items)
  | [] => trivial
  | j :: rest => ⟨canonical_collapse j, canonicalItems_collapse rest⟩

theorem collapseMembers_canonical : ∀ (members placed : List (String × Json)), Entries.Ascending placed →
    CanonicalMembers placed → Canonical (.object (collapseMembers placed members))
  | [], _, ascending, canonical => ⟨ascending, canonical⟩
  | (_, j) :: rest, _, ascending, canonical =>
    collapseMembers_canonical rest _ (Entries.ascending_place ascending)
      (canonicalMembers_place (canonical_collapse j) canonical)

end
end Json

/-- A free-form value: a document whose objects list each name once, in ascending order. -/
structure Value where
  json : Json
  canonical : json.Canonical

namespace Value

/-- The value that a document stands for. -/
def ofJson (j : Json) : Value :=
  ⟨j.collapse, j.canonical_collapse⟩

/-- A string as a value. -/
def ofString (s : String) : Value :=
  ⟨.string s, trivial⟩

/-- The value `null`. -/
def null : Value :=
  ⟨.null, trivial⟩

/-- A number as a value. -/
def ofNumber (n : Number) : Value :=
  ⟨.number n, trivial⟩

instance : BEq Value := ⟨fun a b => a.json == b.json⟩

instance : Inhabited Value := ⟨null⟩

end Value
end SpanSearch
