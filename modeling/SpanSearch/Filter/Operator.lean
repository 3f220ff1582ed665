/-! The operators of filters: six that are known, and any other name. -/

namespace SpanSearch

/-- The names of the known operators. -/
def knownOperatorNames : List String :=
  ["exists", "does not exist", "is", "is not", "is between", "is not between"]

/-- The operator of a filter. A name that is not known never is one of the known names. -/
inductive Operator where
  | present
  | absent
  | equal
  | notEqual
  | between
  | notBetween
  | unknown (name : String) (isUnknown : name ∉ knownOperatorNames)
deriving DecidableEq

namespace Operator

/-- The name of an operator. -/
def name : Operator → String
  | present => "exists"
  | absent => "does not exist"
  | equal => "is"
  | notEqual => "is not"
  | between => "is between"
  | notBetween => "is not between"
  | unknown name _ => name

/-- The operators with a known name, in the order of the names. -/
def known : List Operator :=
  [present, absent, equal, notEqual, between, notBetween]

/-- The operator of a name. -/
def ofName (name : String) : Operator :=
  if isUnknown : name ∉ knownOperatorNames then unknown name isUnknown
  else (known.find? (·.name == name)).getD present

@[simp] theorem name_ofName (name : String) : (ofName name).name = name := by
  unfold ofName
  split
  · rfl
  · next h =>
    have known := Decidable.not_not.mp h
    simp only [knownOperatorNames, List.mem_cons, List.not_mem_nil, or_false] at known
    rcases known with rfl | rfl | rfl | rfl | rfl | rfl <;> rfl

@[simp] theorem ofName_name (operator : Operator) : ofName operator.name = operator := by
  cases operator with
  | unknown name isUnknown => exact dif_pos isUnknown
  | _ => rfl

end Operator
end SpanSearch
