import SpanSearch.Proofs.Instants
import SpanSearch.Proofs.SpelledTimes
import SpanSearch.Time.Expression

/-! The forms of absolute times exclude one another: no text is read by two of them. None reads a text that starts with
    `now` or has a bar in it, so that taking an expression apart there loses no date. -/

namespace SpanSearch
namespace Absolute

/-- The forms of absolute times. -/
inductive Form where
  | strict
  | letter
  | blank
  | picker
  | date
deriving DecidableEq

namespace Form

def read? : Form → List Char → Option Instant
  | strict => strict?
  | letter => dateLetterTime?
  | blank => dateBlankTime?
  | picker => pickerTime?
  | date => date?

/-- All forms, in the order in which they are tried. -/
def all : List Form :=
  [strict, letter, blank, picker, date]

theorem mem_all (f : Form) : f ∈ all := by
  cases f <;> decide

theorem findSome?_all (text : List Char) : all.findSome? (·.read? text) = Absolute.read? text :=
  rfl

end Form

/-! ### Where the forms differ -/

section Heads
variable {c : Char} {more text rest : List Char} {most : Nat}

theorem dropBlanks_cons (blank : isBlank c = false) : dropBlanks (c :: more) = c :: more := by
  simp [dropBlanks, blank]

theorem number_eq_none (blank : isBlank c = false) (digit : isDigit c = false) : number most (c :: more) = none := by
  cases most <;> simp [number, dropBlanks_cons blank, digit]

/-- A letter of the English alphabet. -/
def IsLetter (c : Char) : Prop :=
  65 ≤ c.toNat ∧ c.toNat ≤ 90 ∨ 97 ≤ c.toNat ∧ c.toNat ≤ 122

instance (c : Char) : Decidable (IsLetter c) :=
  inferInstanceAs (Decidable (_ ∨ _))

namespace IsLetter

theorem not_isBlank (letter : IsLetter c) : isBlank c = false := by
  simp only [IsLetter] at letter
  simp only [isBlank, Bool.or_eq_false_iff, Bool.and_eq_false_iff, beq_eq_false_iff_ne, decide_eq_false_iff_not]
  omega

theorem not_isDigit (letter : IsLetter c) : isDigit c = false := by
  rw [← Bool.not_eq_true, isDigit_iff]
  simp only [IsLetter] at letter
  omega

theorem ne_mark (letter : IsLetter c) : c ≠ '+' ∧ c ≠ '-' ∧ c ≠ '|' := by
  refine ⟨?_, ?_, ?_⟩ <;> rintro rfl <;> exact absurd letter (by decide)

theorem of_toLower (h : 97 ≤ c.toLower.toNat ∧ c.toLower.toNat ≤ 122) : IsLetter c := by
  delta Char.toLower at h
  split at h
  · next upper => exact .inl upper
  · exact .inr h

end IsLetter

theorem yearMonthDay_eq_none (letter : IsLetter c) : yearMonthDay (c :: more) = none := by
  have unread : year (c :: more) = none := by
    rw [year, dropBlanks_cons letter.not_isBlank]
    split
    · next h => exact absurd (List.cons.inj h).1 letter.ne_mark.2.1
    · next h => exact absurd (List.cons.inj h).1 letter.ne_mark.1
    · rw [number_eq_none letter.not_isBlank letter.not_isDigit]
      rfl
  rw [yearMonthDay, unread]
  rfl

theorem exists_of_monthName {n : Nat} (h : monthName text = some (n, rest)) :
    ∃ name, name ≠ [] ∧ (∀ c ∈ name, IsLetter c) ∧ text = name ++ rest := by
  have letters : ∀ name ∈ monthNames, name.toList ≠ [] ∧ name.toList.all fun c => 97 ≤ c.toNat ∧ c.toNat ≤ 122 := by
    decide
  simp only [monthName, Option.bind_eq_bind, Option.bind_eq_some_iff, Option.some.injEq, Prod.mk.injEq] at h
  obtain ⟨index, found, -, rfl⟩ := h
  have known : String.ofList ((text.take 3).map Char.toLower) ∈ monthNames :=
    List.isSome_idxOf?.mp (by rw [found]; rfl)
  obtain ⟨nonempty, lower⟩ := letters _ known
  rw [String.toList_ofList] at nonempty lower
  refine ⟨text.take 3, fun empty => nonempty (by rw [empty]; rfl), fun c member => ?_,
    (List.take_append_drop 3 text).symm⟩
  exact .of_toLower (of_decide_eq_true (List.all_eq_true.mp lower _ (List.mem_map_of_mem member)))

end Heads

/-! ### What the forms read -/

section Parts
variable {text more : List Char} {date : ClockTime} {t : Instant}

@[simp] theorem timeOfDay?_dropBlanks (date : ClockTime) (text : List Char) :
    timeOfDay? date (dropBlanks text) = timeOfDay? date text := by
  simp [timeOfDay?, number]

@[simp] theorem timeOfDay?_space (date : ClockTime) (text : List Char) :
    timeOfDay? date (' ' :: text) = timeOfDay? date text := by
  rw [← timeOfDay?_dropBlanks date text]
  exact (timeOfDay?_dropBlanks date (' ' :: text)).symm

theorem timeOfDay?_letter {c : Char} (letter : IsLetter c) : timeOfDay? date (c :: more) = none := by
  simp [timeOfDay?, number_eq_none letter.not_isBlank letter.not_isDigit]

theorem dateLetterTime?_eq_some_iff : dateLetterTime? text = some t ↔
    ∃ date more, yearMonthDay text = some (date, 'T' :: more) ∧ timeOfDay? date more = some t := by
  simp only [dateLetterTime?, Option.bind_eq_bind, Option.bind_eq_some_iff, Prod.exists, mark_eq_some_iff]
  constructor
  · rintro ⟨date, _, parsed, more, rfl, time⟩
    exact ⟨date, more, parsed, time⟩
  · rintro ⟨date, more, parsed, time⟩
    exact ⟨date, _, parsed, more, rfl, time⟩

theorem dateBlankTime?_eq_some_iff : dateBlankTime? text = some t ↔
    ∃ date more, yearMonthDay text = some (date, more) ∧ timeOfDay? date more = some t := by
  simp only [dateBlankTime?, Option.bind_eq_bind, Option.bind_eq_some_iff, Prod.exists, timeOfDay?_dropBlanks]

theorem pickerTime?_eq_some_iff : pickerTime? text = some t ↔ ∃ date rest more, monthDayYear text = some (date, rest) ∧
    dropBlanks rest = '@' :: more ∧ timeOfDay? date more = some t := by
  simp only [pickerTime?, Option.bind_eq_bind, Option.bind_eq_some_iff, Prod.exists, mark_eq_some_iff,
    timeOfDay?_dropBlanks]
  constructor
  · rintro ⟨date, rest, parsed, more, marked, time⟩
    exact ⟨date, rest, more, parsed, marked, time⟩
  · rintro ⟨date, rest, more, parsed, marked, time⟩
    exact ⟨date, rest, parsed, more, marked, time⟩

theorem date?_eq_some_iff :
    date? text = some t ↔ ∃ date : ClockTime, yearMonthDay text = some (date, []) ∧ date.instant? 0 = some t := by
  simp only [date?, Option.bind_eq_bind, Option.bind_eq_some_iff, Prod.exists, Option.ite_none_right_eq_some,
    List.isEmpty_iff]
  constructor
  · rintro ⟨date, _, parsed, rfl, start⟩
    exact ⟨date, parsed, start⟩
  · rintro ⟨date, parsed, start⟩
    exact ⟨date, [], parsed, rfl, start⟩

theorem exists_letter_of_monthDayYear {rest : List Char} (h : monthDayYear text = some (date, rest)) :
    ∃ c more, IsLetter c ∧ text = c :: more := by
  simp only [monthDayYear, Option.bind_eq_bind, Option.bind_eq_some_iff, Prod.exists] at h
  obtain ⟨_, _, named, -⟩ := h
  obtain ⟨name, nonempty, letters, rfl⟩ := exists_of_monthName named
  obtain ⟨c, more, rfl⟩ := List.exists_cons_of_ne_nil nonempty
  exact ⟨c, _, letters c List.mem_cons_self, rfl⟩

end Parts

/-! ### One form for a text -/

namespace Form
variable {text : List Char} {t u : Instant} {f g : Form}

theorem yearMonthDay_of_pickerTime? (h : pickerTime? text = some t) : yearMonthDay text = none := by
  obtain ⟨_, _, _, parsed, -⟩ := pickerTime?_eq_some_iff.mp h
  obtain ⟨c, more, letter, rfl⟩ := exists_letter_of_monthDayYear parsed
  exact yearMonthDay_eq_none letter

/-- The other forms cannot end with an offset. -/
theorem eq_strict_of_strict? (strict : strict? text = some u) (h : f.read? text = some t) : f = .strict := by
  obtain ⟨d, separator, c, o, known, same⟩ := exists_spelled_of_strict? strict
  have parsed := d.yearMonthDay_text (separator :: (c.text ++ o.text))
  -- All but the picker read the same date, and differ in what may come after it.
  rw [← same] at parsed
  cases f with
  | strict => rfl
  | letter =>
    obtain ⟨date, more, parsed', time⟩ := dateLetterTime?_eq_some_iff.mp h
    cases parsed.symm.trans parsed'
    cases (timeOfDay?_offset c o).symm.trans time
  | blank =>
    obtain ⟨date, more, parsed', time⟩ := dateBlankTime?_eq_some_iff.mp h
    cases parsed.symm.trans parsed'
    simp only [separators, List.mem_cons, List.not_mem_nil, or_false] at known
    rcases known with rfl | rfl | rfl
    · cases (timeOfDay?_letter (by decide)).symm.trans time
    · cases (timeOfDay?_letter (by decide)).symm.trans time
    · rw [timeOfDay?_space, timeOfDay?_offset] at time
      cases time
  | picker => cases parsed.symm.trans (yearMonthDay_of_pickerTime? h)
  | date =>
    obtain ⟨date, parsed', -⟩ := date?_eq_some_iff.mp h
    cases parsed.symm.trans parsed'

/-- The form that a text has the look of. -/
def look (text : List Char) : Form :=
  if (strict? text).isSome then strict
  else
    match yearMonthDay text with
    | none => picker
    | some (_, []) => date
    | some (_, c :: _) => if c = 'T' then letter else blank

theorem look_eq_of_read? (h : f.read? text = some t) : look text = f := by
  rw [look]
  cases reads : strict? text with
  | some u => rw [eq_strict_of_strict? reads h]; rfl
  | none =>
    cases f with
    | strict => cases reads.symm.trans h
    | letter =>
      obtain ⟨date, more, parsed, -⟩ := dateLetterTime?_eq_some_iff.mp h
      simp [parsed]
    | blank =>
      obtain ⟨date, more, parsed, time⟩ := dateBlankTime?_eq_some_iff.mp h
      cases more with
      | nil => cases time
      | cons c more =>
        have other : c ≠ 'T' := by
          rintro rfl
          cases (timeOfDay?_letter (by decide)).symm.trans time
        simp [parsed, other]
    | picker => simp [yearMonthDay_of_pickerTime? h]
    | date =>
      obtain ⟨date, parsed, -⟩ := date?_eq_some_iff.mp h
      simp [parsed]

theorem findSome?_eq_look {order : List Form} (complete : ∀ f, f ∈ order) (text : List Char) :
    order.findSome? (·.read? text) = (look text).read? text := by
  cases found : order.findSome? (·.read? text) with
  | none => exact (List.findSome?_eq_none_iff.mp found _ (complete _)).symm
  | some t =>
    obtain ⟨f, -, read⟩ := List.exists_of_findSome?_eq_some found
    rw [look_eq_of_read? read, read]

theorem read?_eq_look (text : List Char) : Absolute.read? text = (look text).read? text := by
  rw [← findSome?_all, findSome?_eq_look mem_all]

end Form

/-! ### Bars -/

section Bars
variable {text rest : List Char}

theorem bar_dropWhile {p : Char → Bool} (other : p '|' = false) (bar : '|' ∈ text) : '|' ∈ text.dropWhile p := by
  rw [← List.takeWhile_append_dropWhile (p := p) (l := text), List.mem_append] at bar
  rcases bar with early | late
  · rw [List.mem_takeWhile_imp early] at other
    cases other
  · exact late

theorem bar_dropBlanks (bar : '|' ∈ text) : '|' ∈ dropBlanks text :=
  bar_dropWhile (by decide) bar

theorem bar_cons {c : Char} (other : c ≠ '|') (bar : '|' ∈ c :: text) : '|' ∈ text :=
  (List.mem_cons.mp bar).resolve_left other.symm

theorem bar_mark {c : Char} (h : mark c text = some rest) (other : c ≠ '|') (bar : '|' ∈ text) : '|' ∈ rest := by
  rw [mark_eq_some_iff.mp h] at bar
  exact bar_cons other bar

theorem bar_number {most n : Nat} (h : number most text = some (n, rest)) (bar : '|' ∈ text) : '|' ∈ rest := by
  simp only [number, Option.ite_none_left_eq_some, Option.some.injEq, Prod.mk.injEq] at h
  obtain ⟨-, -, rfl⟩ := h
  have first : ((dropBlanks text).take most).takeWhile isDigit <+: dropBlanks text :=
    (List.takeWhile_prefix isDigit).trans (List.take_prefix most (dropBlanks text))
  have bar := bar_dropBlanks bar
  rw [← List.prefix_iff_eq_append.mp first, List.mem_append] at bar
  rcases bar with early | late
  · exact absurd (List.mem_takeWhile_imp early) (by decide)
  · exact late

theorem bar_signed {sign n : Int} (h : year.signed sign text = some (n, rest)) (bar : '|' ∈ text) : '|' ∈ rest := by
  rw [year.signed] at h
  split at h
  · cases h
  · next spanned =>
    cases h
    have same : text.dropWhile isDigit = rest := (Prod.mk.inj spanned).2
    rw [← same]
    exact bar_dropWhile (by decide) bar

theorem bar_year {n : Int} (h : year text = some (n, rest)) (bar : '|' ∈ text) : '|' ∈ rest := by
  have bar := bar_dropBlanks bar
  rw [year] at h
  split at h
  · next more same =>
    rw [same] at bar
    exact bar_signed h (bar_cons (by decide) bar)
  · next more same =>
    rw [same] at bar
    exact bar_signed h (bar_cons (by decide) bar)
  · simp only [Option.map_eq_some_iff, Prod.exists, Prod.mk.injEq] at h
    obtain ⟨_, _, number, -, rfl⟩ := h
    exact bar_number number bar

theorem bar_fraction {nanos : Nat} (h : fraction text = some (nanos, rest)) (bar : '|' ∈ text) : '|' ∈ rest := by
  obtain ⟨fraction, digital, rfl⟩ := SpelledClock.exists_of_fraction h
  refine (List.mem_append.mp bar).resolve_left fun early => ?_
  cases fraction with
  | none => cases early
  | some digits =>
    have among : '|' ∈ digits := bar_cons (by decide) early
    exact absurd (digital digits rfl _ among) (by decide)

theorem bar_yearMonthDay {date : ClockTime} (h : yearMonthDay text = some (date, rest)) (bar : '|' ∈ text) :
    '|' ∈ rest := by
  simp only [yearMonthDay, Option.bind_eq_bind, Option.bind_eq_some_iff, Prod.exists, Option.some.injEq,
    Prod.mk.injEq] at h
  obtain ⟨_, _, year, _, dash, _, _, month, _, dash', _, _, day, -, rfl⟩ := h
  have bar := bar_mark dash (by decide) (bar_year year bar)
  have bar := bar_mark dash' (by decide) (bar_number month bar)
  exact bar_number day bar

theorem bar_monthDayYear {date : ClockTime} (h : monthDayYear text = some (date, rest)) (bar : '|' ∈ text) :
    '|' ∈ rest := by
  simp only [monthDayYear, Option.bind_eq_bind, Option.bind_eq_some_iff, Prod.exists, Option.some.injEq,
    Prod.mk.injEq] at h
  obtain ⟨_, _, named, _, _, day, _, comma, _, _, year, -, rfl⟩ := h
  obtain ⟨name, -, letters, rfl⟩ := exists_of_monthName named
  have bar := (List.mem_append.mp bar).resolve_left fun early => (letters _ early).ne_mark.2.2 rfl
  have bar := bar_mark comma (by decide) (bar_number day (bar_dropBlanks bar))
  exact bar_year year (bar_dropBlanks bar)

theorem not_bar_of_timeOfDay? {date : ClockTime} {t : Instant} (h : timeOfDay? date text = some t) : '|' ∉ text := by
  intro bar
  simp only [timeOfDay?, Option.bind_eq_bind, Option.bind_eq_some_iff, Prod.exists, Option.ite_none_right_eq_some,
    List.isEmpty_iff] at h
  obtain ⟨_, _, hour, _, colon, _, _, minute, _, colon', _, _, second, _, _, fraction, rfl, -⟩ := h
  have bar := bar_mark colon (by decide) (bar_number hour bar)
  have bar := bar_mark colon' (by decide) (bar_number minute bar)
  exact List.not_mem_nil (bar_fraction fraction (bar_number second bar))

end Bars

namespace Form
variable {text : List Char} {t : Instant} {f : Form}

theorem not_bar_of_read? (h : f.read? text = some t) : '|' ∉ text := by
  intro bar
  cases f with
  | strict =>
    obtain ⟨d, separator, c, o, known, rfl⟩ := exists_spelled_of_strict? h
    have other : separator ≠ '|' := by
      rintro rfl
      exact absurd known (by decide)
    simp only [List.mem_append, List.mem_cons] at bar
    rcases bar with bar | rfl | bar | bar
    · exact (d.isPlain _ bar).2 rfl
    · exact other rfl
    · exact (c.isPlain _ bar).2 rfl
    · exact (o.isPlain _ bar).2 rfl
  | letter =>
    obtain ⟨date, more, parsed, time⟩ := dateLetterTime?_eq_some_iff.mp h
    exact not_bar_of_timeOfDay? time (bar_cons (by decide) (bar_yearMonthDay parsed bar))
  | blank =>
    obtain ⟨date, more, parsed, time⟩ := dateBlankTime?_eq_some_iff.mp h
    exact not_bar_of_timeOfDay? time (bar_yearMonthDay parsed bar)
  | picker =>
    obtain ⟨date, rest, more, parsed, marked, time⟩ := pickerTime?_eq_some_iff.mp h
    have bar := bar_dropBlanks (bar_monthDayYear parsed bar)
    rw [marked] at bar
    exact not_bar_of_timeOfDay? time (bar_cons (by decide) bar)
  | date =>
    obtain ⟨date, parsed, -⟩ := date?_eq_some_iff.mp h
    exact List.not_mem_nil (bar_yearMonthDay parsed bar)

theorem dated_of_read? (h : f.read? text = some t) (other : f ≠ picker) :
    ∃ date rest, yearMonthDay text = some (date, rest) := by
  cases f with
  | strict =>
    obtain ⟨d, separator, c, o, -, rfl⟩ := exists_spelled_of_strict? h
    exact ⟨_, _, d.yearMonthDay_text _⟩
  | letter =>
    obtain ⟨date, more, parsed, -⟩ := dateLetterTime?_eq_some_iff.mp h
    exact ⟨date, _, parsed⟩
  | blank =>
    obtain ⟨date, more, parsed, -⟩ := dateBlankTime?_eq_some_iff.mp h
    exact ⟨date, _, parsed⟩
  | picker => exact absurd rfl other
  | date =>
    obtain ⟨date, parsed, -⟩ := date?_eq_some_iff.mp h
    exact ⟨date, _, parsed⟩

theorem read?_now (f : Form) (math : List Char) : f.read? ('n' :: 'o' :: 'w' :: math) = none := by
  have dateless : yearMonthDay ('n' :: 'o' :: 'w' :: math) = none := yearMonthDay_eq_none (by decide)
  by_cases named : f = picker
  · rw [named]
    rfl
  · cases found : f.read? ('n' :: 'o' :: 'w' :: math) with
    | none => rfl
    | some t =>
      obtain ⟨date, rest, parsed⟩ := dated_of_read? found named
      cases dateless.symm.trans parsed

end Form
end Absolute

/-! ### Whole expressions -/

namespace Instant
open Absolute
variable {text : List Char} {expression : String} {now t : Instant}

theorem splitBars_eq_none (h : '|' ∉ text) : splitBars text = none := by
  induction text with
  | nil => rfl
  | cons c rest ih =>
    obtain ⟨other, later⟩ := not_or.mp (mt List.mem_cons.mpr h)
    rw [splitBars, ih later, Option.map_none]
    rintro rest' rfl
    exact absurd rfl other

theorem resolve_eq_ok_iff (bar : '|' ∉ trimBlanks expression.toList)
    (absolute : ∀ math, trimBlanks expression.toList ≠ 'n' :: 'o' :: 'w' :: math) :
    resolve expression now = .ok t ↔ Absolute.read? (trimBlanks expression.toList) = some t := by
  have ofAbsolute : ofAbsolute (trimBlanks expression.toList) = .ok t ↔
      Absolute.read? (trimBlanks expression.toList) = some t := by
    rw [Instant.ofAbsolute, trimBlanks_trimBlanks]
    cases Absolute.read? (trimBlanks expression.toList) <;> simp
  rw [resolve]
  split
  · next empty =>
    have unread : Absolute.read? [] = none := rfl
    rw [empty, unread]
    exact iff_of_false (by simp) (by simp)
  · next math same => exact absurd same (absolute math)
  · rw [splitBars_eq_none bar]
    exact ofAbsolute

end Instant

namespace Absolute.Form
open Instant
variable {expression : String} {now t : Instant} {f : Form}

/-- An expression that a form reads has its date in front of no date math. -/
theorem resolve_of_read? (h : f.read? (trimBlanks expression.toList) = some t) : resolve expression now = .ok t := by
  refine (resolve_eq_ok_iff (not_bar_of_read? h) fun math same => ?_).mpr ?_
  · rw [same, read?_now] at h
    cases h
  · rw [read?_eq_look, look_eq_of_read? h, h]

/-- At most one of the forms reads an expression without the blanks around it, so that any list of all forms finds the
same instant as their own order. What a form reads starts with no `now` and has no two bars in it, and the expression
resolves to the instant that the form tells. -/
theorem read?_exclusive (expression : String) (now : Instant) :
    (∀ f g : Form, (f.read? (trimBlanks expression.toList)).isSome → (g.read? (trimBlanks expression.toList)).isSome →
      f = g) ∧
    (∀ order : List Form, (∀ f, f ∈ order) →
      order.findSome? (·.read? (trimBlanks expression.toList)) = Absolute.read? (trimBlanks expression.toList)) ∧
    ∀ (f : Form) (t : Instant), f.read? (trimBlanks expression.toList) = some t →
      ¬['n', 'o', 'w'] <+: trimBlanks expression.toList ∧ ¬['|', '|'] <:+: trimBlanks expression.toList ∧
      ofAbsolute expression.toList = .ok t ∧ resolve expression now = .ok t := by
  refine ⟨fun f g reads reads' => ?_, fun order complete => ?_, fun f t read => ⟨?_, ?_, ?_, resolve_of_read? read⟩⟩
  · obtain ⟨t, read⟩ := Option.isSome_iff_exists.mp reads
    obtain ⟨u, read'⟩ := Option.isSome_iff_exists.mp reads'
    rw [← look_eq_of_read? read, look_eq_of_read? read']
  · rw [findSome?_eq_look complete, read?_eq_look]
  · rintro ⟨math, same⟩
    rw [← same] at read
    cases (read?_now f math).symm.trans read
  · intro bars
    exact not_bar_of_read? read (bars.subset List.mem_cons_self)
  · rw [ofAbsolute, read?_eq_look, look_eq_of_read? read, read]

/-- With no blank between date and time of day, but with blanks elsewhere. -/
theorem read?_exclusive_blanks : ∃ (expression : String) (t : Instant), expression = " +2020- 1-153: 4:5.6\n" ∧
    t.date = ⟨2020, 1, 15⟩ ∧ t.clock = (11045, 600000000) ∧ blank.read? (trimBlanks expression.toList) = some t ∧
    (∀ f : Form, (f.read? (trimBlanks expression.toList)).isSome → f = blank) ∧
    all.reverse.findSome? (·.read? (trimBlanks expression.toList)) = Absolute.read? (trimBlanks expression.toList) ∧
    resolve expression epoch = .ok t := by
  let expression := " +2020- 1-153: 4:5.6\n"
  let t : Instant := ⟨1579057445, 600000000, by decide, by decide, by decide, by decide⟩
  have read : blank.read? (trimBlanks expression.toList) = some t := by decide
  obtain ⟨one, order, resolves⟩ := read?_exclusive expression epoch
  exact ⟨expression, t, rfl, by decide, by decide, read, fun f reads => one f blank reads (by rw [read]; rfl),
    order _ (by rintro (_ | _) <;> decide), (resolves blank t read).2.2.2⟩

end Absolute.Form
end SpanSearch
