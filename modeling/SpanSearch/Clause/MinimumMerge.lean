import SpanSearch.Clause.Basic

/-! How the minimum numbers of matches of several fragments become one. -/

namespace SpanSearch

/-- Which minimum counts when several fragments bring one. -/
inductive MergePolicy where
  /-- The last fragment decides, also by having none. -/
  | last
  /-- The greatest count decides. -/
  | max
deriving DecidableEq

namespace MergePolicy

/-- The minimum after one more fragment. Only counts are compared; otherwise the later one decides. -/
def merge : MergePolicy → Option MinimumMatch → Option MinimumMatch → Option MinimumMatch
  | max, some (.count a), some (.count b) => some (.count (if a ≤ b then b else a))
  | max, current, none => current
  | _, _, next => next

end MergePolicy
end SpanSearch
