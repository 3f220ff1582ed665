import SpanSearch.Yaml.Tag

/-! Tokens: what a file consists of once its indentation is told by opening and closing tokens. -/

namespace SpanSearch
namespace Yaml

/-- A token. -/
inductive Token where
  | directive (d : Directive)
  | documentStart
  | documentEnd
  /-- The start of a list, or of members, that is told by indentation. -/
  | blockSequence
  | blockMapping
  | blockEnd
  | flowSequence
  | flowSequenceEnd
  | flowMapping
  | flowMappingEnd
  /-- The dash before an item. -/
  | item
  | comma
  | key
  | value
  | alias (name : String)
  | anchor (name : String)
  | tag (tag : Tag)
  | scalar (plain : Bool) (text : String)
deriving DecidableEq

end Yaml
end SpanSearch
