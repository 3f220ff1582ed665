import SpanSearch.Json.Value

/-! Records: documents whose members have fixed names. A record is written as an object, or as an
array of its members in their order, where members at the end may be missing. -/

namespace SpanSearch
namespace Json

/-- No name is given twice. -/
def namesDiffer (members : List (String × Json)) : Bool :=
  match members with
  | [] => true
  | (name, _) :: rest => !(rest.any (·.1 == name)) && namesDiffer rest

/-- The members of a record with the given names, of which each may occur once; other members
are passed over. -/
def record? (names : List String) : Json → Option (List (String × Json))
  | object members =>
    let known := members.filter fun m => names.contains m.1
    if namesDiffer known then some known else none
  | array items => if items.length ≤ names.length then some (names.zip items) else none
  | _ => none

/-- The members of a record that has no members besides those with the given names. -/
def closedRecord? (names : List String) (j : Json) : Option (List (String × Json)) :=
  match j with
  | object members => if members.all fun m => names.contains m.1 then record? names j else none
  | _ => record? names j

/-- The only member of an object. -/
def onlyMember? : Json → Option (String × Json)
  | object [m] => some m
  | _ => none

/-- Reads a member that has to be there. -/
def required {α : Type} (read : Json → Option α) (name : String) (members : List (String × Json)) : Option α :=
  (members.lookup name).bind read

/-- Reads a member that has a default. -/
def withDefault {α : Type} (default : α) (read : Json → Option α) (name : String)
    (members : List (String × Json)) : Option α :=
  match members.lookup name with
  | none => some default
  | some j => read j

/-- Reads a member that may be absent; `null` is as good as absent. -/
def optional {α : Type} (read : Json → Option α) (name : String) (members : List (String × Json)) :
    Option (Option α) :=
  match members.lookup name with
  | none => some none
  | some .null => some none
  | some j => (read j).map some

end Json
end SpanSearch
