import SpanSearch.Config
import SpanSearch.Yaml.Document

/-! Configuration files: documents of the settings. Any scalar may stand for a name, and members that are not
settings are passed over. -/

namespace SpanSearch
namespace Yaml
namespace Document

/-- The members of a mapping of which each of the given names occurs at most once. -/
def record? (d : Document) (names : List String) (node : Node Nat) : Option (List (String × Node Nat)) := do
  let members ← d.members? node
  if names.all fun name => (members.filter (·.1 == name)).length ≤ 1 then some members else none

/-- Reads a member that has a default. -/
def withDefault {α : Type} (default : α) (read : Node Nat → Option α) (name : String)
    (members : List (String × Node Nat)) : Option α :=
  match members.lookup name with
  | none => some default
  | some node => read node

/-- The field names in a node. -/
def fields? (d : Document) (node : Node Nat) : Option Fields := do
  let members ← d.record? Fields.names node
  Fields.readBy fun default name => withDefault default d.text? name members

/-- The settings in a document. -/
def config? (d : Document) : Option Config := do
  let default : Config := {}
  let members ← d.record? Config.names d.root
  some {
    index := ← withDefault default.index d.text? "index" members
    fields := ← withDefault default.fields d.fields? "fields" members
    minimumMerge := ← withDefault default.minimumMerge
      (fun node => (d.choice? node).bind MergePolicy.ofName?) "minimum_should_match" members }

end Document
end Yaml

/-- The settings that a file holds. -/
def Config.ofText? (text : String) : Option Config :=
  (Yaml.Document.ofText? text).bind (·.config?)

end SpanSearch
