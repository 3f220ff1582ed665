import SpanSearch.Json.Printer
import SpanSearch.Json.Reader
import SpanSearch.Proofs.Documents

/-! Literals: the written form of a string is read as that string, and that of a whole number as that
    number. The written form of a double is nearest to it but is read with more than one rounding, so that a
    double is read back only where the roundings agree; documents whose numbers are all read back are lossless. -/

namespace SpanSearch
namespace Written
open Json

/-! ### Strings -/

theorem hexValue?_hexDigit : ∀ n < 16, hexValue? (hexDigit n) = some n := by
  decide

theorem scanString_char {c : Char} (rest : List Char) (hq : c ≠ '"') (hb : c ≠ '\\') (hc : ¬c.toNat < 0x20) :
    scanString (c :: rest) =
      (do let (pieces, after) ← scanString rest; some (.char c :: pieces, after)) := by
  rw [scanString.eq_def]
  split
  · contradiction
  · next h => exact absurd (List.cons.inj h).1 hq
  · next h => exact absurd (List.cons.inj h).1 hb
  · next h => exact absurd (List.cons.inj h).1 hb
  · next h =>
    obtain ⟨rfl, rfl⟩ := List.cons.inj h
    simp only [beq_eq_false_iff_ne.mpr hb, hc, decide_false, Bool.or_self, Bool.false_eq_true, ↓reduceIte]

theorem scanString_letter {l c : Char} (rest : List Char) (hl : l ≠ 'u') (hc : letterEscape? l = some c) :
    scanString ('\\' :: l :: rest) =
      (do let (pieces, after) ← scanString rest; some (.char c :: pieces, after)) := by
  rw [scanString.eq_def]
  split
  · contradiction
  · next h => exact absurd (List.cons.inj h).1 (by decide)
  · next h => exact absurd (List.cons.inj (List.cons.inj h).2).1 hl
  · next h =>
    obtain ⟨rfl, rfl⟩ := List.cons.inj (List.cons.inj h).2
    simp only [hc, Option.bind_eq_bind, Option.bind_some]
  · next letter h =>
    obtain ⟨rfl, rfl⟩ := List.cons.inj h
    exact (letter l rest rfl rfl).elim

/-- A character as it is written is read as that character. -/
theorem scanString_escape (c : Char) (rest : List Char) :
    scanString (escape c ++ rest) =
      (do let (pieces, after) ← scanString rest; some (.char c :: pieces, after)) := by
  unfold escape
  -- The two special characters and the five control characters that have a letter of their own.
  iterate 7
    split
    · next h => exact scanString_letter rest (by decide) (congrArg some (beq_iff_eq.mp h).symm)
  split
  · next h =>
    have high := hexValue?_hexDigit (c.toNat / 16) (by omega)
    have low := hexValue?_hexDigit (c.toNat % 16) (by omega)
    have unit : ((0 * 16 + 0) * 16 + c.toNat / 16) * 16 + c.toNat % 16 = c.toNat := by omega
    have zero : hexValue? '0' = some 0 := rfl
    have piece : unitPiece c.toNat = .char c := by
      rw [unitPiece, if_neg (by simp only [Bool.and_eq_true, decide_eq_true_eq]; omega), Char.ofNat_toNat]
    simp only [List.cons_append, List.nil_append, scanString, zero, high, low, Option.bind_eq_bind,
      Option.bind_some, unit, piece]
  · next hq hb _ _ _ _ _ hc =>
    exact scanString_char rest (by simpa using hq) (by simpa using hb) hc

/-- The string that a string is written as is read up to its closing quote. -/
theorem scanString_quoted (s : String) (rest : List Char) :
    scanString (s.toList.flatMap escape ++ '"' :: rest) = some (s.toList.map .char, rest) := by
  induction s.toList with
  | nil => rw [List.flatMap_nil, List.nil_append, scanString, List.map_nil]
  | cons c more ih =>
    rw [List.flatMap_cons, List.append_assoc, scanString_escape, ih]
    rfl

theorem characters?_map_char : ∀ cs : List Char, Piece.characters? (cs.map .char) = some cs
  | [] => rfl
  | c :: rest => by
    rw [List.map_cons, Piece.characters?, characters?_map_char rest, Option.map_some]

theorem string?_map_char (s : String) : Piece.string? (s.toList.map .char) = some s := by
  rw [Piece.string?, characters?_map_char, Option.map_some, String.ofList_toList]

/-! ### Blanks -/

/-- A character that may stand between tokens. -/
def isGap (c : Char) : Bool :=
  c == ' ' || c == '\n' || c == '\t' || c == '\r'

theorem skipBlanks_gap {c : Char} (h : isGap c) (text : List Char) : skipBlanks (c :: text) = skipBlanks text :=
  List.dropWhile_cons_of_pos h

theorem skipBlanks_of_not_gap {c : Char} (h : isGap c = false) (text : List Char) :
    skipBlanks (c :: text) = c :: text :=
  List.dropWhile_cons_of_neg (Bool.not_eq_true _ ▸ h)

theorem skipBlanks_gap_append {gap : List Char} (h : ∀ c ∈ gap, isGap c) (text : List Char) :
    skipBlanks (gap ++ text) = skipBlanks text := by
  induction gap with
  | nil => rfl
  | cons c rest ih =>
    rw [List.cons_append, skipBlanks_gap (h c List.mem_cons_self)]
    exact ih fun d hd => h d (List.mem_cons_of_mem c hd)

@[simp] theorem skipBlanks_skipBlanks (text : List Char) : skipBlanks (skipBlanks text) = skipBlanks text := by
  induction text with
  | nil => rfl
  | cons c rest ih =>
    cases hc : isGap c with
    | true => rwa [skipBlanks_gap hc]
    | false => rw [skipBlanks_of_not_gap hc, skipBlanks_of_not_gap hc]

/-- What follows a text that is not all blank is not skipped. -/
theorem skipBlanks_append {text : List Char} (h : skipBlanks text ≠ []) (rest : List Char) :
    skipBlanks (text ++ rest) = skipBlanks text ++ rest := by
  induction text with
  | nil => exact absurd rfl h
  | cons c more ih =>
    cases hc : isGap c with
    | true =>
      rw [skipBlanks_gap hc] at h
      rw [List.cons_append, skipBlanks_gap hc, skipBlanks_gap hc, ih h]
    | false => rw [List.cons_append, skipBlanks_of_not_gap hc, skipBlanks_of_not_gap hc, List.cons_append]

theorem skipBlanks_append_of_nil {text : List Char} (h : skipBlanks text = []) (rest : List Char) :
    skipBlanks (text ++ rest) = skipBlanks rest := by
  induction text with
  | nil => rfl
  | cons c more ih =>
    cases hc : isGap c with
    | true =>
      rw [skipBlanks_gap hc] at h
      rw [List.cons_append, skipBlanks_gap hc, ih h]
    | false =>
      rw [skipBlanks_of_not_gap hc] at h
      cases h

/-! ### Numbers -/

/-- No number literal goes on at the start of the text. -/
def EndsNumber (text : List Char) : Prop :=
  ∀ c ∈ text.head?, isDigit c = false ∧ c ≠ '.' ∧ c ≠ 'e' ∧ c ≠ 'E'

theorem endsNumber_nil : EndsNumber [] :=
  fun _ h => absurd h (by simp)

theorem endsNumber_cons {c : Char} {text : List Char} (h : isDigit c = false ∧ c ≠ '.' ∧ c ≠ 'e' ∧ c ≠ 'E') :
    EndsNumber (c :: text) := by
  intro d hd
  obtain rfl : c = d := by simpa using hd
  exact h

section Append
variable {text rest : List Char}

theorem spanDigits_append (h : EndsNumber rest) :
    spanDigits (text ++ rest) = ((spanDigits text).1, (spanDigits text).2 ++ rest) := by
  have none : rest.takeWhile isDigit = [] ∧ rest.dropWhile isDigit = rest := by
    cases rest with
    | nil => exact ⟨rfl, rfl⟩
    | cons c more =>
      have hc : ¬isDigit c := by simpa using (h c rfl).1
      exact ⟨List.takeWhile_cons_of_neg hc, List.dropWhile_cons_of_neg hc⟩
  simp only [spanDigits]
  induction text with
  | nil => simp [none.1, none.2]
  | cons c more ih =>
    by_cases hc : isDigit c
    · simp only [Prod.mk.injEq] at ih
      simp [List.takeWhile_cons_of_pos hc, List.dropWhile_cons_of_pos hc, ih.1, ih.2]
    · simp [List.takeWhile_cons_of_neg hc, List.dropWhile_cons_of_neg hc]

theorem scanWhole_append (h : EndsNumber rest) {digits : List Nat} {after : List Char}
    (hs : scanWhole text = some (digits, after)) : scanWhole (text ++ rest) = some (digits, after ++ rest) := by
  unfold scanWhole at hs ⊢
  rw [spanDigits_append h]
  cases hd : spanDigits text with
  | mk ds a =>
    rw [hd] at hs
    match ds with
    | [] => cases hs
    | 0 :: _ :: _ => cases hs
    | [0] => cases hs; rfl
    | (n + 1) :: more => cases hs; rfl

theorem scanFraction_append (h : EndsNumber rest) {fraction : Option (List Nat)} {after : List Char}
    (hs : scanFraction text = some (fraction, after)) :
    scanFraction (text ++ rest) = some (fraction, after ++ rest) := by
  cases text with
  | nil =>
    cases hs
    cases rest with
    | nil => rfl
    | cons c more =>
      rw [List.nil_append, scanFraction.eq_def]
      split
      · next hc => exact absurd (List.cons.inj hc).1 (h c rfl).2.1
      · rfl
  | cons c more =>
    by_cases hc : c = '.'
    · subst hc
      rw [List.cons_append]
      simp only [scanFraction] at hs ⊢
      rw [spanDigits_append h]
      cases hd : spanDigits more with
      | mk ds a =>
        rw [hd] at hs
        cases ds with
        | nil => cases hs
        | cons d ds => cases hs; rfl
    · have plain : ∀ more, scanFraction (c :: more) = some (none, c :: more) := by
        intro more
        rw [scanFraction]
        exact fun _ e => hc (List.cons.inj e).1
      rw [plain] at hs
      cases hs
      exact plain _

theorem spanSign_append (h : text ≠ []) : spanSign (text ++ rest) = ((spanSign text).1, (spanSign text).2 ++ rest) := by
  cases text with
  | nil => exact absurd rfl h
  | cons c more =>
    by_cases minus : c = '-'
    · subst minus; rfl
    by_cases plus : c = '+'
    · subst plus; rfl
    have plain : ∀ more, spanSign (c :: more) = (false, c :: more) := by
      intro more
      rw [spanSign.eq_def]
      split
      · next e => exact absurd (List.cons.inj e).1 minus
      · next e => exact absurd (List.cons.inj e).1 plus
      · rfl
    rw [List.cons_append, plain, plain, List.cons_append]

theorem scanExponent_append (h : EndsNumber rest) {exponent : Option Int} {after : List Char}
    (hs : scanExponent text = some (exponent, after)) :
    scanExponent (text ++ rest) = some (exponent, after ++ rest) := by
  cases text with
  | nil =>
    cases hs
    cases rest with
    | nil => rfl
    | cons c more =>
      obtain ⟨-, -, small, large⟩ := h c rfl
      rw [List.nil_append, scanExponent, if_neg (by simp [small, large])]
  | cons c more =>
    rw [List.cons_append, scanExponent]
    rw [scanExponent] at hs
    split at hs
    · next letter =>
      rw [if_pos letter]
      have signed : more ≠ [] := by rintro rfl; cases hs
      rw [spanSign_append signed]
      simp only [spanDigits_append h]
      cases hd : spanDigits (spanSign more).2 with
      | mk ds a =>
        simp only [hd] at hs
        cases ds with
        | nil => cases hs
        | cons d ds => cases hs; rfl
    · next letter => cases hs; rw [if_neg letter, List.cons_append]

theorem scanUnsigned_append (h : EndsNumber rest) {negative : Bool} {w : Written} {after : List Char}
    (hs : scanUnsigned negative text = some (w, after)) :
    scanUnsigned negative (text ++ rest) = some (w, after ++ rest) := by
  simp only [scanUnsigned, Option.bind_eq_bind, Option.bind_eq_some_iff, Prod.exists] at hs
  obtain ⟨digits, a, whole, fraction, b, point, exponent, c, power, same⟩ := hs
  cases same
  simp only [scanUnsigned, Option.bind_eq_bind, Option.bind_some, scanWhole_append h whole, scanFraction_append h point,
    scanExponent_append h power]

theorem isDigit_of_scanUnsigned {c : Char} {negative : Bool} {result : Written × List Char}
    (hs : scanUnsigned negative (c :: text) = some result) : isDigit c := by
  cases hc : isDigit c with
  | true => rfl
  | false =>
    have none : scanWhole (c :: text) = none := by
      simp only [scanWhole, spanDigits, List.takeWhile_cons_of_neg (by simp [hc] : ¬isDigit c), List.map_nil]
    rw [scanUnsigned, none] at hs
    cases hs

theorem scanPlain_of_isDigit {c : Char} (hc : isDigit c) : scanPlain (c :: text) = scanUnsigned false (c :: text) := by
  rw [scanPlain.eq_def]
  split
  all_goals first
    | rfl
    | next h =>
      obtain rfl := (List.cons.inj h).1
      exact absurd hc (by decide)

theorem scanPlain_append (h : EndsNumber rest) {literal : NumberLiteral} {after : List Char}
    (hs : scanPlain text = some (.number literal, after)) :
    scanPlain (text ++ rest) = some (.number literal, after ++ rest) := by
  rw [scanPlain.eq_def] at hs
  split at hs
  · cases hs
  · cases hs
  · cases hs
  · exact scanUnsigned_append h hs
  · cases text with
    | nil => cases hs
    | cons c more =>
      rw [List.cons_append, scanPlain_of_isDigit (isDigit_of_scanUnsigned hs), ← List.cons_append]
      exact scanUnsigned_append h hs

end Append

/-- Where no string, array or object starts, a plain literal has to. -/
theorem scan_plain {c : Char} {text more : List Char} (hb : skipBlanks text = c :: more) (quote : c ≠ '"')
    (bracket : c ≠ '[') (brace : c ≠ '{') (fuel : Nat) : scan (fuel + 1) text = scanPlain (c :: more) := by
  rw [scan, hb]
  split
  · next h => exact absurd (List.cons.inj h).1 quote
  · next h => exact absurd (List.cons.inj h).1 bracket
  · next h => exact absurd (List.cons.inj h).1 brace
  · rfl

theorem scan_number_append {text rest after : List Char} {literal : NumberLiteral} {fuel : Nat}
    (hs : scan fuel text = some (.number literal, after)) (h : EndsNumber rest) (more : Nat) :
    scan (more + 1) (text ++ rest) = some (.number literal, after ++ rest) := by
  cases fuel with
  | zero => rw [scan] at hs; cases hs
  | succ fuel =>
    cases hb : skipBlanks text with
    | nil => rw [scan, hb] at hs; cases hs
    | cons c tail =>
      have hb' : skipBlanks (text ++ rest) = c :: (tail ++ rest) := by
        rw [skipBlanks_append (by rw [hb]; exact List.cons_ne_nil _ _), hb, List.cons_append]
      by_cases quote : c = '"'
      · subst quote
        rw [scan, hb] at hs
        simp at hs
      by_cases bracket : c = '['
      · subst bracket
        rw [scan, hb] at hs
        simp only at hs
        split at hs <;> simp at hs
      by_cases brace : c = '{'
      · subst brace
        rw [scan, hb] at hs
        simp only at hs
        split at hs <;> simp at hs
      rw [scan_plain hb quote bracket brace] at hs
      rw [scan_plain hb' quote bracket brace, ← List.cons_append]
      exact scanPlain_append h hs

end Written

/-- A number that is read back from its own text. -/
def Number.ReadsBack (n : Number) : Prop :=
  Json.ofText? (Json.number n).text = some (.number n)

namespace Json

mutual

/-- Every number of the document is read back from its own text. -/
def Lossless : Json → Prop
  | number n => n.ReadsBack
  | array items => LosslessItems items
  | object members => LosslessMembers members
  | _ => True

/-- Every item is lossless. -/
def LosslessItems : List Json → Prop
  | [] => True
  | j :: rest => j.Lossless ∧ LosslessItems rest

/-- The value of every member is lossless. -/
def LosslessMembers : List (String × Json) → Prop
  | [] => True
  | (_, j) :: rest => j.Lossless ∧ LosslessMembers rest

end

theorem losslessItems_iff {items : List Json} : LosslessItems items ↔ ∀ j ∈ items, j.Lossless := by
  induction items with
  | nil => simp [LosslessItems]
  | cons j rest ih => rw [LosslessItems, ih, List.forall_mem_cons]

theorem losslessMembers_iff {members : List (String × Json)} :
    LosslessMembers members ↔ ∀ m ∈ members, m.2.Lossless := by
  induction members with
  | nil => simp [LosslessMembers]
  | cons m rest ih => rw [LosslessMembers, ih, List.forall_mem_cons]

theorem lossless_array {items : List Json} : (array items).Lossless ↔ ∀ j ∈ items, j.Lossless := by
  rw [Lossless, losslessItems_iff]

theorem lossless_object {members : List (String × Json)} : (object members).Lossless ↔ ∀ m ∈ members, m.2.Lossless := by
  rw [Lossless, losslessMembers_iff]

theorem lossless_single {name : String} {j : Json} : (object [(name, j)]).Lossless ↔ j.Lossless := by
  simp [lossless_object]

theorem lossless_string (s : String) : (string s).Lossless := by
  simp only [Lossless]

end Json

namespace Written

/-- A number that is read back from its own text is also read where more text follows. -/
theorem scan_number {n : Number} (h : n.ReadsBack) {rest : List Char} (hr : EndsNumber rest) (fuel : Nat) :
    ∃ w after, scan (fuel + 1) (n.text ++ rest) = some (w, after) ∧ skipBlanks after = skipBlanks rest ∧
      ∀ depth, w.read? depth .everything = some (.number n) := by
  simp only [Number.ReadsBack, Json.ofText?, ofText?, ofTextPrefix?, Json.text, Json.compact, String.toList_ofList,
    Option.bind_eq_bind, Option.bind_eq_some_iff] at h
  obtain ⟨w, hw, hread⟩ := h
  split at hw
  · next w' after hs =>
    split at hw
    · next blank =>
      cases hw
      -- Only a number literal is read as a number.
      cases w with
      | number literal =>
        refine ⟨_, _, scan_number_append hs hr fuel, skipBlanks_append_of_nil ?_ rest, fun depth => ?_⟩
        · exact List.isEmpty_iff.mp blank
        · simpa only [read?] using hread
      | null => simp [read?] at hread
      | bool b => simp [read?] at hread
      | string pieces => simp [read?] at hread
      | array items => simp [read?, depthLimit] at hread
      | object members => simp [read?, depthLimit] at hread
    · cases hw
  · cases hw

/-! ### Whole numbers -/

theorem isDigit_of_mem_toDigits {n : Nat} {c : Char} (h : c ∈ Nat.toDigits 10 n) : isDigit c := by
  have digit := Nat.isDigit_of_mem_toDigits (by decide) (by decide) h
  simpa [isDigit, Char.isDigit, Char.le_def] using digit

theorem spanDigits_toDigits (n : Nat) : spanDigits (Nat.toDigits 10 n) = ((Nat.toDigits 10 n).map digitValue, []) := by
  have all : ∀ c ∈ Nat.toDigits 10 n, isDigit c := fun _ => isDigit_of_mem_toDigits
  have taken := @List.takeWhile_append_of_pos Char isDigit (Nat.toDigits 10 n) [] all
  have dropped := @List.dropWhile_append_of_pos Char isDigit (Nat.toDigits 10 n) [] all
  rw [List.append_nil] at taken dropped
  rw [spanDigits, taken, dropped]
  simp

theorem head?_toDigits_ne_zero {n : Nat} (h : 0 < n) : ∀ c ∈ (Nat.toDigits 10 n).head?, digitValue c ≠ 0 := by
  induction n using Nat.strongRecOn with
  | ind n ih =>
    by_cases small : n < 10
    · rw [Nat.toDigits_of_lt_base small]
      have all : ∀ m < 10, 0 < m → digitValue m.digitChar ≠ 0 := by decide
      intro c hc
      obtain rfl : n.digitChar = c := by simpa using hc
      exact all n small h
    · rw [Nat.toDigits_of_base_le (by decide) (Nat.le_of_not_lt small),
        List.head?_append, Option.or_of_isSome (by simp)]
      exact ih (n / 10) (Nat.div_lt_self h (by decide)) (Nat.div_pos (Nat.le_of_not_lt small) (by decide))

theorem scanWhole_toDigits (n : Nat) :
    scanWhole (Nat.toDigits 10 n) = some ((Nat.toDigits 10 n).map digitValue, []) := by
  rw [scanWhole, spanDigits_toDigits]
  split
  · next h => exact absurd (List.map_eq_nil_iff.mp (congrArg Prod.fst h)) Nat.toDigits_ne_nil
  · next d more _ h =>
    -- A leading zero is the only digit.
    have digits := congrArg Prod.fst h
    cases n with
    | zero => simp at digits
    | succ n =>
      cases hd : Nat.toDigits 10 (n + 1) with
      | nil => exact absurd hd Nat.toDigits_ne_nil
      | cons c rest =>
        simp only [hd, List.map_cons, List.cons.injEq] at digits
        exact absurd digits.1 (head?_toDigits_ne_zero (Nat.succ_pos n) c (by rw [hd]; rfl))
  · rfl

theorem scanUnsigned_toDigits (negative : Bool) (n : Nat) :
    scanUnsigned negative (Nat.toDigits 10 n) =
      some (.number ⟨negative, (Nat.toDigits 10 n).map digitValue, none, none⟩, []) := by
  rw [scanUnsigned, scanWhole_toDigits]
  rfl

theorem le_digitsFrom : ∀ (start : Nat) (digits : List Nat), start ≤ Decimal.digitsFrom start digits
  | start, [] => Nat.le_refl start
  | start, d :: rest => Nat.le_trans (by omega) (le_digitsFrom (10 * start + d) rest)

theorem takeFitting_eq {start : Nat} {digits : List Nat} (h : Decimal.digitsFrom start digits < 2 ^ 64) :
    NumberLiteral.takeFitting start digits = (Decimal.digitsFrom start digits, []) := by
  induction digits generalizing start with
  | nil => rfl
  | cons d rest ih =>
    have fits : 10 * start + d < 2 ^ 64 := Nat.lt_of_le_of_lt (le_digitsFrom _ rest) h
    rw [NumberLiteral.takeFitting, if_pos fits]
    exact ih h

theorem digitsFrom_toDigits (n : Nat) : Decimal.digitsFrom 0 ((Nat.toDigits 10 n).map digitValue) = n := by
  rw [Decimal.digitsFrom, List.foldl_map]
  exact Nat.ofDigitChars_ten_toDigits

theorem ofText?_of_scan {text after : List Char} {w : Written} {j : Json}
    (hs : scan (2 * text.length + 1) text = some (w, after)) (blank : skipBlanks after = [])
    (hr : w.read? depthLimit .everything = some j) : Json.ofText? (String.ofList text) = some j := by
  rw [Json.ofText?, ofText?, ofTextPrefix?, String.toList_ofList, hs]
  simp only [blank, List.isEmpty_nil, ↓reduceIte, Option.bind_eq_bind, Option.bind_some, hr]

theorem takeFitting_toDigits {n : Nat} (h : n < 2 ^ 64) :
    NumberLiteral.takeFitting 0 ((Nat.toDigits 10 n).map digitValue) = (n, []) := by
  have same := digitsFrom_toDigits n
  rw [takeFitting_eq (by rwa [same]), same]

theorem ofInt?_value (n : Whole) : Whole.ofInt? n.value = some n :=
  dif_pos ⟨n.least, n.below⟩

/-- The literal that a whole number is written as. -/
def literal (n : Whole) : NumberLiteral :=
  ⟨decide (n.value < 0), (Nat.toDigits 10 n.value.natAbs).map digitValue, none, none⟩

theorem number?_literal (n : Whole) : (literal n).number? = some (.whole n) := by
  have least := n.least
  have below := n.below
  rw [literal, NumberLiteral.number?, takeFitting_toDigits (by omega)]
  by_cases h : n.value < 0
  · have magnitude : -(n.value.natAbs : Int) = n.value := by omega
    have fits : (n.value.natAbs == 0 || decide (2 ^ 63 < n.value.natAbs)) = false := by
      simp only [Bool.or_eq_false_iff, beq_eq_false_iff_ne, decide_eq_false_iff_not]
      omega
    simp only [decide_eq_true h, fits, magnitude, ofInt?_value]
    rfl
  · have magnitude : (n.value.natAbs : Int) = n.value := by omega
    simp only [decide_eq_false h, magnitude, ofInt?_value]
    rfl

theorem scan_wholeText (n : Whole) (fuel : Nat) :
    scan (fuel + 1) (Number.wholeText n.value) = some (.number (literal n), []) := by
  have digits := scanUnsigned_toDigits (decide (n.value < 0)) n.value.natAbs
  rw [Number.wholeText]
  by_cases h : n.value < 0
  · rw [if_pos h]
    rw [decide_eq_true h] at digits
    rw [literal, decide_eq_true h]
    exact (scan_plain (skipBlanks_of_not_gap rfl _) (by decide) (by decide) (by decide) fuel).trans digits
  · rw [if_neg h, List.nil_append]
    rw [decide_eq_false h] at digits
    rw [literal, decide_eq_false h]
    cases hd : Nat.toDigits 10 n.value.natAbs with
    | nil => exact absurd hd Nat.toDigits_ne_nil
    | cons c rest =>
      have hc : isDigit c := isDigit_of_mem_toDigits (hd ▸ List.mem_cons_self)
      have other : ∀ d, isDigit d = false → c ≠ d := fun d hd same => Bool.false_ne_true (hd.symm.trans (same ▸ hc))
      have gap : isGap c = false := by
        simp [isGap, other ' ' rfl, other '\n' rfl, other '\t' rfl, other '\r' rfl]
      rw [scan_plain (skipBlanks_of_not_gap gap _) (other _ rfl) (other _ rfl) (other _ rfl),
        scanPlain_of_isDigit hc, ← hd, digits]

end Written

/-- Whole numbers are read back from their own text. -/
theorem Number.readsBack_whole (n : Whole) : (Number.whole n).ReadsBack := by
  refine Written.ofText?_of_scan (Written.scan_wholeText n _) rfl ?_
  rw [Written.read?, Written.number?_literal, Option.map_some]

end SpanSearch
