import SpanSearch.Binary64.Text
import SpanSearch.Time.Unit

/-! Date math: terms that step by a number of units or round down to one, applied from left to right. -/

namespace SpanSearch

/-- Why a time expression has no instant. -/
inductive TimeError where
  | empty
  | invalidDate (text : String)
  | invalidMath (text : String)
  | missingUnit
  | invalidUnit (text : String)
  | outOfRange
deriving DecidableEq

namespace TimeError

/-- The error as shown to the user. -/
def message : TimeError → String
  | empty => "empty time expression"
  | invalidDate text => s!"invalid date: {text}"
  | invalidMath text => s!"invalid date math: {text}"
  | missingUnit => "missing time unit"
  | invalidUnit text => s!"invalid time unit: {text}"
  | outOfRange => "time out of range"

end TimeError

/-- The unit at the start of a text, and the rest. -/
def TimeUnit.scan : List Char → Except TimeError (TimeUnit × List Char)
  | 'm' :: 's' :: rest => .ok (.millisecond, rest)
  | 'y' :: rest => .ok (.year, rest)
  | 'M' :: rest => .ok (.month, rest)
  | 'w' :: rest => .ok (.week, rest)
  | 'd' :: rest => .ok (.day, rest)
  | 'h' :: rest => .ok (.hour, rest)
  | 'H' :: rest => .ok (.hour, rest)
  | 'm' :: rest => .ok (.minute, rest)
  | 's' :: rest => .ok (.second, rest)
  | [] => .error .missingUnit
  | text => .error (.invalidUnit (String.ofList text))

/-- A term of date math. -/
inductive MathTerm where
  | round (unit : TimeUnit)
  | shift (amount : Int) (unit : TimeUnit)
deriving DecidableEq

namespace MathTerm

/-- The amount that digits spell, one if there are none, as far as 64 bits with a sign hold it. -/
def amount (digits : List Nat) : Except TimeError Int :=
  if digits.isEmpty then .ok 1
  else if Decimal.digitsFrom 0 digits < 2 ^ 63 then .ok (Decimal.digitsFrom 0 digits)
  else .error .outOfRange

/-- An amount, negated for a minus, and its unit. The amount is looked at before the unit. -/
def scanShift (sign : Int) (text : List Char) : Except TimeError (MathTerm × List Char) := do
  let (digits, rest) := spanDigits text
  let n ← amount digits
  let (unit, rest) ← TimeUnit.scan rest
  .ok (.shift (sign * n) unit, rest)

/-- The term at the start of a text that is not empty; `math` is all of the date math. -/
def scan (math : List Char) : List Char → Except TimeError (MathTerm × List Char)
  | '/' :: rest => do
    let (unit, rest) ← TimeUnit.scan rest
    .ok (.round unit, rest)
  | '+' :: rest => scanShift 1 rest
  | '-' :: rest => scanShift (-1) rest
  | _ => .error (.invalidMath (String.ofList math))

theorem scan_unit_length {text rest : List Char} {unit : TimeUnit}
    (h : TimeUnit.scan text = .ok (unit, rest)) : rest.length < text.length := by
  unfold TimeUnit.scan at h
  split at h <;> cases h <;> simp only [List.length_cons] <;> omega

theorem length_spanDigits (text : List Char) : (spanDigits text).2.length ≤ text.length :=
  (List.dropWhile_sublist _).length_le

theorem scanShift_length {sign : Int} {text rest : List Char} {term : MathTerm}
    (h : scanShift sign text = .ok (term, rest)) : rest.length < text.length := by
  unfold scanShift at h
  have bound := length_spanDigits text
  generalize spanDigits text = spanned at h bound
  obtain ⟨digits, left⟩ := spanned
  cases hn : amount digits with
  | error e => simp [hn, bind, Except.bind] at h
  | ok n =>
    cases hu : TimeUnit.scan left with
    | error e => simp [hn, hu, bind, Except.bind] at h
    | ok found =>
      simp only [hn, hu, bind, Except.bind, Except.ok.injEq, Prod.mk.injEq] at h
      rw [← h.2]
      exact Nat.lt_of_lt_of_le (scan_unit_length hu) bound

theorem scan_length {math text rest : List Char} {term : MathTerm}
    (h : scan math text = .ok (term, rest)) : rest.length < text.length := by
  unfold scan at h
  split at h
  · next tail =>
    cases hu : TimeUnit.scan tail with
    | error e => simp [hu, bind, Except.bind] at h
    | ok found =>
      simp only [hu, bind, Except.bind, Except.ok.injEq, Prod.mk.injEq] at h
      rw [← h.2]
      exact Nat.lt_succ_of_lt (scan_unit_length hu)
  · exact Nat.lt_succ_of_lt (scanShift_length h)
  · exact Nat.lt_succ_of_lt (scanShift_length h)
  · simp at h

/-- The instant that a term leads to. -/
def apply (term : MathTerm) (t : Instant) : Except TimeError Instant :=
  match (match term with
    | round unit => unit.roundDown? t
    | shift amount unit => unit.add? t amount) with
  | some t => .ok t
  | none => .error .outOfRange

end MathTerm

namespace Instant

/-- Applies the terms that a text consists of; `math` is all of the date math. Each term is applied
before the next one is read. -/
def applyTerms (math text : List Char) (t : Instant) : Except TimeError Instant :=
  if text.isEmpty then .ok t
  else
    match h : MathTerm.scan math text with
    | .error e => .error e
    | .ok (term, rest) =>
      have : rest.length < text.length := MathTerm.scan_length h
      match term.apply t with
      | .error e => .error e
      | .ok t => applyTerms math rest t
termination_by text.length

/-- Applies date math. -/
def applyMath (math : List Char) (t : Instant) : Except TimeError Instant :=
  applyTerms math math t

end Instant
end SpanSearch
