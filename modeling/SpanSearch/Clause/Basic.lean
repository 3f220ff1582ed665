import SpanSearch.Json.Value

/-! Clauses of a search query. A clause of a form that is not modelled is kept as a free-form value. -/

namespace SpanSearch

/-- How many of the optional clauses have to match: a count, or an expression such as `75%`. -/
inductive MinimumMatch where
  | count (n : Int64)
  | expression (text : String)
deriving DecidableEq

/-- The value that a term is compared with, alone or as the member `value` of an object. -/
inductive TermValue where
  | explicit (value : Value)
  | plain (value : Value)

/-- The bounds of a range; without any bound it matches every document that has the field. -/
structure RangeBounds where
  gte : Option Value := none
  gt : Option Value := none
  lte : Option Value := none
  lt : Option Value := none

/-- Whether a value keeps to all bounds, for any way to compare values. -/
structure RangeBounds.Admits (b : RangeBounds) (atMost below : Value → Value → Prop) (v : Value) : Prop where
  gte : ∀ w ∈ b.gte, atMost w v
  gt : ∀ w ∈ b.gt, below w v
  lte : ∀ w ∈ b.lte, atMost v w
  lt : ∀ w ∈ b.lt, below v w

mutual

/-- A clause. -/
inductive Clause where
  | bool (body : BoolClause)
  | term (field : String) (value : TermValue)
  | range (field : String) (bounds : RangeBounds)
  | present (field : String)
  | queryString (text : String)
  | other (value : Value)

/-- The body of a boolean clause: what has to match, in a scored and in an unscored list, what
may match, what may not, and how many of the optional clauses have to. -/
structure BoolClause where
  must : List Clause
  filter : List Clause
  should : List Clause
  mustNot : List Clause
  minimum : Option MinimumMatch

end

namespace BoolClause

/-- A boolean clause without any clauses in it. -/
def empty : BoolClause :=
  ⟨[], [], [], [], none⟩

instance : EmptyCollection BoolClause := ⟨empty⟩
instance : Inhabited BoolClause := ⟨empty⟩

/-- Adds a clause that has to match. -/
def addMust (body : BoolClause) (clause : Clause) : BoolClause :=
  { body with must := body.must ++ [clause] }

/-- Adds a clause that may not match. -/
def addMustNot (body : BoolClause) (clause : Clause) : BoolClause :=
  { body with mustNot := body.mustNot ++ [clause] }

/-- Adds a clause that may match. -/
def addShould (body : BoolClause) (clause : Clause) : BoolClause :=
  { body with should := body.should ++ [clause] }

end BoolClause

instance : Inhabited Clause := ⟨.bool ∅⟩

/-- A complete query. -/
structure SearchQuery where
  query : Clause

namespace SearchQuery

/-- The body of the query if it is a boolean clause. -/
def bool? (q : SearchQuery) : Option BoolClause :=
  match q.query with
  | .bool body => some body
  | _ => none

end SearchQuery

namespace TermValue

instance : BEq TermValue where
  beq
    | explicit a, explicit b => a == b
    | plain a, plain b => a == b
    | _, _ => false

end TermValue

instance : BEq RangeBounds where
  beq a b := a.gte == b.gte && a.gt == b.gt && a.lte == b.lte && a.lt == b.lt

mutual

/-- Equality of clauses, with free-form values compared as values. -/
def Clause.alike : Clause → Clause → Bool
  | .bool a, .bool b => a.alike b
  | .term f a, .term g b => f == g && a == b
  | .range f a, .range g b => f == g && a == b
  | .present f, .present g => f == g
  | .queryString s, .queryString t => s == t
  | .other a, .other b => a == b
  | _, _ => false

/-- Equality of boolean clauses, list by list. -/
def BoolClause.alike : BoolClause → BoolClause → Bool
  | ⟨must, filter, should, mustNot, minimum⟩, ⟨must', filter', should', mustNot', minimum'⟩ =>
    Clause.alikeAll must must' && Clause.alikeAll filter filter' && Clause.alikeAll should should' &&
      Clause.alikeAll mustNot mustNot' && minimum == minimum'

/-- Equality of lists of clauses, one by one. -/
def Clause.alikeAll : List Clause → List Clause → Bool
  | [], [] => true
  | a :: as, b :: bs => a.alike b && Clause.alikeAll as bs
  | _, _ => false

end

instance : BEq Clause := ⟨Clause.alike⟩
instance : BEq BoolClause := ⟨BoolClause.alike⟩
instance : BEq SearchQuery := ⟨fun a b => a.query == b.query⟩

end SpanSearch
