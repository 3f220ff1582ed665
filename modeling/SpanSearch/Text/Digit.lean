/-! Digits: the ten ASCII ones, and those of numbers to the base sixteen. -/

namespace SpanSearch

/-- Whether a character is one of the ten ASCII digits. -/
def isDigit (c : Char) : Bool :=
  '0' ≤ c && c ≤ '9'

theorem isDigit_iff {c : Char} : isDigit c ↔ 48 ≤ c.toNat ∧ c.toNat ≤ 57 := by
  simp only [isDigit, Bool.and_eq_true, decide_eq_true_eq, Char.le_def, UInt32.le_iff_toNat_le]
  exact Iff.rfl

/-- The value of an ASCII digit. -/
def digitValue (c : Char) : Nat :=
  c.toNat - '0'.toNat

/-- The digits at the start of a text, as their values, and the rest. -/
def spanDigits (text : List Char) : List Nat × List Char :=
  ((text.takeWhile isDigit).map digitValue, text.dropWhile isDigit)

/-- The value of a hexadecimal digit. -/
def hexValue? (c : Char) : Option Nat :=
  if isDigit c then some (digitValue c)
  else if 'a' ≤ c && c ≤ 'f' then some (c.toNat - 'a'.toNat + 10)
  else if 'A' ≤ c && c ≤ 'F' then some (c.toNat - 'A'.toNat + 10)
  else none

/-- The number that hexadecimal digits spell, of which there is at least one. -/
def hexNumber? : List Char → Option Nat
  | [] => none
  | digits => digits.foldlM (fun n c => (hexValue? c).map (16 * n + ·)) 0

end SpanSearch
