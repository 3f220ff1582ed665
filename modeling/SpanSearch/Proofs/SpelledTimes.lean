import Mathlib.Data.List.TakeWhile
import SpanSearch.Proofs.DateMath
import SpanSearch.Time.Absolute

/-! Dates, times of day and offsets as the strict form spells them, with all their digits. Every form reads such a part
    in the same way, whatever follows it. -/

namespace SpanSearch

/-! ### Digits -/

/-- So many ASCII digits. -/
structure Digits (count : Nat) where
  text : List Char
  length_text : text.length = count
  digital : ∀ c ∈ text, isDigit c

namespace Digits
variable {count : Nat}

def ofText (text : List Char) (digital : text.all isDigit) : Digits text.length :=
  ⟨text, rfl, List.all_eq_true.mp digital⟩

def value (d : Digits count) : Nat :=
  Decimal.digitsFrom 0 (d.text.map digitValue)

theorem exists_cons (d : Digits (count + 1)) : ∃ c more, d.text = c :: more ∧ isDigit c := by
  obtain ⟨text, length_text, digital⟩ := d
  cases text with
  | nil => cases length_text
  | cons c more => exact ⟨c, more, rfl, digital c List.mem_cons_self⟩

end Digits

theorem not_isBlank_of_isDigit {c : Char} (h : isDigit c) : isBlank c = false := by
  rw [isDigit_iff] at h
  simp only [isBlank, Bool.or_eq_false_iff, Bool.and_eq_false_iff, beq_eq_false_iff_ne, decide_eq_false_iff_not]
  omega

/-- Neither a blank nor a bar. -/
def IsPlain (c : Char) : Prop :=
  isBlank c = false ∧ c ≠ '|'

instance (c : Char) : Decidable (IsPlain c) :=
  inferInstanceAs (Decidable (_ ∧ _))

theorem isPlain_of_isDigit {c : Char} (h : isDigit c) : IsPlain c := by
  refine ⟨not_isBlank_of_isDigit h, ?_⟩
  rintro rfl
  cases h

theorem Digits.isPlain {count : Nat} (d : Digits count) : ∀ c ∈ d.text, IsPlain c :=
  fun c member => isPlain_of_isDigit (d.digital c member)

@[simp] theorem dropBlanks_digits {count : Nat} (d : Digits (count + 1)) (rest : List Char) :
    dropBlanks (d.text ++ rest) = d.text ++ rest := by
  obtain ⟨c, more, text, digit⟩ := d.exists_cons
  rw [text, List.cons_append, dropBlanks, List.dropWhile_cons_of_neg (by simp [not_isBlank_of_isDigit digit])]

namespace Absolute
variable {count : Nat} {text rest : List Char}

@[simp] theorem mark_cons (c : Char) (rest : List Char) : mark c (c :: rest) = some rest := by
  simp [mark]

theorem mark_eq_some_iff {c : Char} : mark c text = some rest ↔ text = c :: rest := by
  cases text with
  | nil => simp [mark]
  | cons d more =>
    by_cases same : d = c
    · simp [mark, same]
    · simp [mark, same]

theorem fixedNumber_eq_some_iff {n : Nat} :
    fixedNumber count text = some (n, rest) ↔ ∃ d : Digits count, text = d.text ++ rest ∧ n = d.value := by
  constructor
  · intro h
    simp only [fixedNumber, Option.ite_none_right_eq_some, Option.some.injEq, Prod.mk.injEq, Bool.and_eq_true,
      beq_iff_eq] at h
    obtain ⟨⟨length_text, digital⟩, rfl, rfl⟩ := h
    exact ⟨⟨text.take count, length_text, List.all_eq_true.mp digital⟩, (List.take_append_drop count text).symm, rfl⟩
  · rintro ⟨⟨digits, rfl, digital⟩, rfl, rfl⟩
    simp [fixedNumber, Digits.value, List.all_eq_true.mpr digital]

@[simp] theorem fixedNumber_digits (d : Digits count) (rest : List Char) :
    fixedNumber count (d.text ++ rest) = some (d.value, rest) :=
  fixedNumber_eq_some_iff.mpr ⟨d, rfl, rfl⟩

@[simp] theorem number_digits (d : Digits (count + 1)) (rest : List Char) :
    number (count + 1) (d.text ++ rest) = some (d.value, rest) := by
  have taken : ((d.text ++ rest).take (count + 1)).takeWhile isDigit = d.text := by
    rw [List.take_left' d.length_text, List.takeWhile_eq_self_iff.mpr d.digital]
  obtain ⟨c, more, text, -⟩ := d.exists_cons
  have nonempty : d.text.isEmpty = false := by rw [text]; rfl
  simp only [number, dropBlanks_digits, taken, nonempty, Bool.false_eq_true, ↓reduceIte, Digits.value,
    List.drop_left]

@[simp] theorem year_digits (d : Digits 4) (rest : List Char) :
    year (d.text ++ rest) = some ((d.value : Int), rest) := by
  obtain ⟨c, more, text, digit⟩ := d.exists_cons
  have number := number_digits d rest
  have kept := dropBlanks_digits d rest
  rw [text, List.cons_append] at number kept ⊢
  rw [year, kept]
  split
  · next h =>
    obtain rfl := (List.cons.inj h).1
    cases digit
  · next h =>
    obtain rfl := (List.cons.inj h).1
    cases digit
  · rw [number]
    rfl

end Absolute

/-! ### Dates -/

/-- A date as in `2020-10-15`. -/
structure SpelledDate where
  year : Digits 4
  month : Digits 2
  day : Digits 2

namespace SpelledDate

def text (d : SpelledDate) : List Char :=
  d.year.text ++ '-' :: (d.month.text ++ '-' :: d.day.text)

/-- The start of the day, as the clock shows it. -/
def start (d : SpelledDate) : ClockTime :=
  { year := d.year.value, month := d.month.value, day := d.day.value }

theorem yearMonthDay_text (d : SpelledDate) (rest : List Char) :
    Absolute.yearMonthDay (d.text ++ rest) = some (d.start, rest) := by
  simp [Absolute.yearMonthDay, text, start]

theorem isPlain (d : SpelledDate) : ∀ c ∈ d.text, IsPlain c := by
  have dash : IsPlain '-' := by decide
  simp only [text, List.forall_mem_append, List.forall_mem_cons]
  exact ⟨d.year.isPlain, dash, d.month.isPlain, dash, d.day.isPlain⟩

end SpelledDate

/-! ### Times of day -/

/-- A time of day as in `07:30:00` or `07:30:00.5`. There may be no digits after the point. -/
structure SpelledClock where
  hour : Digits 2
  minute : Digits 2
  second : Digits 2
  fraction : Option (List Char)
  digital : ∀ digits ∈ fraction, ∀ c ∈ digits, isDigit c

/-- No digits and no fraction of a second go on at the start of the text. -/
def EndsClock (text : List Char) : Prop :=
  ∀ c, text.head? = some c → isDigit c = false ∧ c ≠ '.'

namespace SpelledClock

def fractionText : Option (List Char) → List Char
  | none => []
  | some digits => '.' :: digits

def text (c : SpelledClock) : List Char :=
  c.hour.text ++ ':' :: (c.minute.text ++ ':' :: (c.second.text ++ fractionText c.fraction))

/-- The nanoseconds, if there is a digit after a point. -/
def nanos? (c : SpelledClock) : Option Nat :=
  match c.fraction with
  | none => some 0
  | some [] => none
  | some digits => some (Absolute.fractionNanos (digits.map digitValue))

/-- The time of day on a date. -/
def on? (c : SpelledClock) (date : ClockTime) : Option ClockTime :=
  c.nanos?.map fun nanos =>
    { date with hour := c.hour.value, minute := c.minute.value, second := c.second.value, nanos }

theorem fraction_text (c : SpelledClock) {rest : List Char} (ends : EndsClock rest) :
    Absolute.fraction (fractionText c.fraction ++ rest) = c.nanos?.map (·, rest) := by
  obtain ⟨_, _, _, fraction, digital⟩ := c
  cases fraction with
  | none =>
    show Absolute.fraction rest = some (0, rest)
    cases rest with
    | nil => rfl
    | cons c more =>
      have other := (ends c rfl).2
      simp [Absolute.fraction, other]
  | some digits =>
    obtain ⟨taken, dropped⟩ := TermLead.takeWhile_digits (digital digits rfl) fun c head => (ends c head).1
    show Absolute.fraction ('.' :: (digits ++ rest)) = _
    rw [Absolute.fraction, spanDigits, taken, dropped]
    cases digits <;> rfl

theorem exists_of_fraction {nanos : Nat} {text rest : List Char} (h : Absolute.fraction text = some (nanos, rest)) :
    ∃ fraction : Option (List Char), (∀ digits ∈ fraction, ∀ c ∈ digits, isDigit c) ∧
      text = fractionText fraction ++ rest := by
  rw [Absolute.fraction.eq_def] at h
  split at h
  · next more =>
    split at h
    · cases h
    · next spanned =>
      simp only [spanDigits, Prod.mk.injEq] at spanned
      simp only [Option.some.injEq, Prod.mk.injEq] at h
      refine ⟨some (more.takeWhile isDigit), fun digits same c member => ?_, ?_⟩
      · cases same
        exact List.mem_takeWhile_imp member
      · rw [fractionText, ← h.2, ← spanned.2, List.cons_append, List.takeWhile_append_dropWhile]
  · cases h
    exact ⟨none, (fun _ none => by cases none), rfl⟩

theorem isPlain (c : SpelledClock) : ∀ d ∈ c.text, IsPlain d := by
  have colon : IsPlain ':' := by decide
  have fraction : ∀ d ∈ fractionText c.fraction, IsPlain d := by
    cases digits : c.fraction with
    | none => exact fun d member => absurd member List.not_mem_nil
    | some digits' =>
      have point : IsPlain '.' := by decide
      exact List.forall_mem_cons.mpr ⟨point, fun d member => isPlain_of_isDigit (c.digital _ digits d member)⟩
  simp only [text, List.forall_mem_append, List.forall_mem_cons]
  exact ⟨c.hour.isPlain, colon, c.minute.isPlain, colon, c.second.isPlain, fraction⟩

end SpelledClock

/-! ### Offsets -/

/-- The signs of an offset. -/
inductive OffsetSign where
  | plus
  | hyphen
  | minus

namespace OffsetSign

def char : OffsetSign → Char
  | plus => '+'
  | hyphen => '-'
  | minus => '−'

def factor : OffsetSign → Int
  | plus => 1
  | _ => -1

end OffsetSign

/-- An offset as in `Z` or `+02:00`. -/
inductive SpelledOffset where
  | zulu (capital : Bool)
  | signed (sign : OffsetSign) (hours minutes : Digits 2) (hours_lt : hours.value < 24)
    (minutes_lt : minutes.value < 60)

namespace SpelledOffset

def text : SpelledOffset → List Char
  | zulu capital => [if capital then 'Z' else 'z']
  | signed sign hours minutes _ _ => sign.char :: (hours.text ++ ':' :: minutes.text)

/-- The seconds that the offset is ahead of UTC. -/
def seconds : SpelledOffset → Int
  | zulu _ => 0
  | signed sign hours minutes _ _ => sign.factor * (3600 * hours.value + 60 * minutes.value)

theorem hoursMinutes_eq_some_iff {factor seconds : Int} {text rest : List Char} :
    Absolute.offset.hoursMinutes factor text = some (seconds, rest) ↔ ∃ hours minutes : Digits 2,
      (hours.value < 24 ∧ minutes.value < 60) ∧ text = hours.text ++ ':' :: (minutes.text ++ rest) ∧
        seconds = factor * (3600 * hours.value + 60 * minutes.value) := by
  constructor
  · intro h
    simp only [Absolute.offset.hoursMinutes, Option.bind_eq_bind, Option.bind_eq_some_iff, Prod.exists,
      Absolute.fixedNumber_eq_some_iff, Absolute.mark_eq_some_iff, Option.ite_none_right_eq_some, Bool.and_eq_true,
      decide_eq_true_eq, Option.some.injEq, Prod.mk.injEq] at h
    obtain ⟨_, _, ⟨hours, rfl, rfl⟩, _, rfl, _, _, ⟨minutes, rfl, rfl⟩, within, rfl, rfl⟩ := h
    exact ⟨hours, minutes, within, rfl, rfl⟩
  · rintro ⟨hours, minutes, within, rfl, rfl⟩
    simp [Absolute.offset.hoursMinutes, within]

/-- The readable offsets are the spelled ones. -/
theorem offset_eq_some_iff {seconds : Int} {text rest : List Char} : Absolute.offset text = some (seconds, rest) ↔
    ∃ o : SpelledOffset, text = o.text ++ rest ∧ seconds = o.seconds := by
  constructor
  · intro h
    have signed (sign : OffsetSign) (more : List Char)
        (h : Absolute.offset.hoursMinutes sign.factor more = some (seconds, rest)) :
        ∃ o : SpelledOffset, sign.char :: more = o.text ++ rest ∧ seconds = o.seconds := by
      obtain ⟨hours, minutes, ⟨hours_lt, minutes_lt⟩, rfl, rfl⟩ := hoursMinutes_eq_some_iff.mp h
      exact ⟨.signed sign hours minutes hours_lt minutes_lt, by simp [SpelledOffset.text], rfl⟩
    rw [Absolute.offset.eq_def] at h
    split at h
    · cases h
      exact ⟨.zulu true, rfl, rfl⟩
    · cases h
      exact ⟨.zulu false, rfl, rfl⟩
    · exact signed .plus _ h
    · exact signed .hyphen _ h
    · exact signed .minus _ h
    · cases h
  · rintro ⟨o, rfl, rfl⟩
    cases o with
    | zulu capital => cases capital <;> rfl
    | signed sign hours minutes hours_lt minutes_lt =>
      have read : Absolute.offset.hoursMinutes sign.factor (hours.text ++ ':' :: (minutes.text ++ rest)) =
          some ((signed sign hours minutes hours_lt minutes_lt).seconds, rest) :=
        hoursMinutes_eq_some_iff.mpr ⟨hours, minutes, ⟨hours_lt, minutes_lt⟩, rfl, rfl⟩
      rw [text, List.cons_append, List.append_assoc, List.cons_append]
      cases sign <;> exact read

@[simp] theorem offset_text (o : SpelledOffset) : Absolute.offset o.text = some (o.seconds, []) :=
  offset_eq_some_iff.mpr ⟨o, (List.append_nil _).symm, rfl⟩

theorem endsClock_text (o : SpelledOffset) : EndsClock o.text := by
  intro c head
  rcases o with capital | ⟨sign, _, _, _, _⟩
  · cases head
    cases capital <;> decide
  · cases head
    cases sign <;> decide

theorem isPlain (o : SpelledOffset) : ∀ c ∈ o.text, IsPlain c := by
  rcases o with capital | ⟨sign, hours, minutes, _, _⟩
  · rw [text, List.forall_mem_singleton]
    cases capital <;> decide
  · have colon : IsPlain ':' := by decide
    have signs : IsPlain sign.char := by cases sign <;> decide
    simp only [text, List.forall_mem_append, List.forall_mem_cons]
    exact ⟨signs, hours.isPlain, colon, minutes.isPlain⟩

end SpelledOffset

/-! ### The forms -/

namespace Absolute
variable {text rest : List Char} {date : ClockTime}

/-- The letters and the blank that the strict form has between date and time of day. -/
def separators : List Char :=
  ['T', 't', ' ']

theorem separator_eq_some_iff :
    (mark 'T' text <|> mark 't' text <|> mark ' ' text) = some rest ↔ ∃ c ∈ separators, text = c :: rest := by
  cases text with
  | nil => simp [mark]
  | cons c more =>
    by_cases known : c ∈ separators
    · simp only [separators, List.mem_cons, List.not_mem_nil, or_false] at known
      rcases known with rfl | rfl | rfl <;> simp [mark, separators]
    · simp only [separators, List.mem_cons, List.not_mem_nil, or_false, not_or] at known
      simp [mark, separators, known]

theorem strict?_spelled (d : SpelledDate) (c : SpelledClock) {separator : Char} (known : separator ∈ separators)
    (ends : EndsClock rest) : strict? (d.text ++ separator :: (c.text ++ rest)) =
      (c.on? d.start).bind fun time =>
        (offset rest).bind fun (seconds, more) => if more.isEmpty then time.instant? seconds else none := by
  have marked (more : List Char) := separator_eq_some_iff.mpr ⟨separator, known, @rfl _ (separator :: more)⟩
  simp only [strict?, SpelledDate.text, SpelledClock.text, List.append_assoc, List.cons_append, fixedNumber_digits,
    mark_cons, marked, Option.bind_eq_bind, Option.bind_some, c.fraction_text ends, SpelledClock.on?, Option.bind_map]
  rfl

/-- What the strict form reads is a date, a time of day and an offset, all spelled in full. -/
theorem exists_spelled_of_strict? {t : Instant} (h : strict? text = some t) :
    ∃ (d : SpelledDate) (separator : Char) (c : SpelledClock) (o : SpelledOffset), separator ∈ separators ∧
      text = d.text ++ separator :: (c.text ++ o.text) := by
  simp only [strict?, Option.bind_eq_bind, Option.bind_eq_some_iff, Prod.exists, fixedNumber_eq_some_iff,
    mark_eq_some_iff, separator_eq_some_iff, SpelledOffset.offset_eq_some_iff, Option.ite_none_right_eq_some,
    List.isEmpty_iff] at h
  obtain ⟨_, _, ⟨year, rfl, -⟩, _, rfl, _, _, ⟨month, rfl, -⟩, _, rfl, _, _, ⟨day, rfl, -⟩, _,
    ⟨separator, known, rfl⟩, _, _, ⟨hour, rfl, -⟩, _, rfl, _, _, ⟨minute, rfl, -⟩, _, rfl, _, _, ⟨second, rfl, -⟩, _, _,
    parsed, _, _, ⟨o, rfl, -⟩, rfl, -⟩ := h
  obtain ⟨fraction, digital, rfl⟩ := SpelledClock.exists_of_fraction parsed
  exact ⟨⟨year, month, day⟩, separator, ⟨hour, minute, second, fraction, digital⟩, o, known,
    by simp [SpelledDate.text, SpelledClock.text]⟩

theorem timeOfDay?_spelled (c : SpelledClock) (ends : EndsClock rest) : timeOfDay? date (c.text ++ rest) =
    if rest.isEmpty then (c.on? date).bind (·.instant? 0) else none := by
  simp only [timeOfDay?, SpelledClock.text, List.append_assoc, List.cons_append, number_digits, mark_cons,
    Option.bind_eq_bind, Option.bind_some, c.fraction_text ends]
  cases nanos : c.nanos? <;> simp [SpelledClock.on?, nanos]

theorem timeOfDay?_offset (c : SpelledClock) (o : SpelledOffset) : timeOfDay? date (c.text ++ o.text) = none := by
  rw [timeOfDay?_spelled c o.endsClock_text]
  cases o <;> rfl

end Absolute
end SpanSearch
