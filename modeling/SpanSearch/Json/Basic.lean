import SpanSearch.Json.Number

/-! Documents as trees. An object keeps its members in the order of the text, repeated names included. -/

namespace SpanSearch

/-- A document. -/
inductive Json where
  | null
  | bool (b : Bool)
  | number (n : Number)
  | string (s : String)
  | array (items : List Json)
  | object (members : List (String × Json))
deriving Inhabited

namespace Json

mutual

/-- Equality of documents, member by member in order, with the numbers compared as numbers. -/
def alike : Json → Json → Bool
  | null, null => true
  | bool a, bool b => a == b
  | number a, number b => a == b
  | string a, string b => a == b
  | array as, array bs => alikeItems as bs
  | object as, object bs => alikeMembers as bs
  | _, _ => false

/-- Equality of items, one by one. -/
def alikeItems : List Json → List Json → Bool
  | [], [] => true
  | a :: as, b :: bs => alike a b && alikeItems as bs
  | _, _ => false

/-- Equality of members, one by one. -/
def alikeMembers : List (String × Json) → List (String × Json) → Bool
  | [], [] => true
  | (k, a) :: as, (l, b) :: bs => k == l && alike a b && alikeMembers as bs
  | _, _ => false

end

instance : BEq Json := ⟨alike⟩

/-- The names of members that are present, with their values. -/
def members (entries : List (String × Option Json)) : List (String × Json) :=
  entries.filterMap fun (name, value) => value.map (name, ·)

/-- An object of the members that are present. -/
def record (entries : List (String × Option Json)) : Json :=
  .object (members entries)

/-- The string that a document is, if it is one. -/
def string? : Json → Option String
  | string s => some s
  | _ => none

/-- The truth value that a document is, if it is one. -/
def bool? : Json → Option Bool
  | bool b => some b
  | _ => none

/-- The number that a document is, if it is one. -/
def number? : Json → Option Number
  | number n => some n
  | _ => none

/-- The signed 64-bit whole number that a document is, if it is one. -/
def int64? : Json → Option Int64
  | number (.whole n) => n.int64?
  | _ => none

end Json
end SpanSearch
