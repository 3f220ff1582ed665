import SpanSearch.Time.Math

/-! Date math as a language. A text of date math is a sequence of terms and can be split into them in one way
    only; applying it applies their steps from left to right. A text that is no such sequence, or whose steps
    do not all succeed, has the error of its leftmost term that fails, whatever comes after that term. -/

namespace SpanSearch

/-! ### Terms as they are spelled -/

/-- The names of the units. -/
def unitNames : List (List Char × TimeUnit) :=
  [(['y'], .year), (['M'], .month), (['w'], .week), (['d'], .day), (['h'], .hour), (['H'], .hour),
    (['m'], .minute), (['s'], .second), (['m', 's'], .millisecond)]

/-- The name of a unit. -/
structure UnitName where
  text : List Char
  unit : TimeUnit
  known : (text, unit) ∈ unitNames

/-- The name is not the start of a longer one, which only `m` is, of `ms`. -/
def UnitName.Ends (name : UnitName) (rest : List Char) : Prop :=
  name.text = ['m'] → rest.head? ≠ some 's'

/-- What stands before the unit of a term: a slash, or a sign and perhaps digits. -/
inductive TermLead where
  | slash
  | sign (negative : Bool) (digits : List Char) (digital : ∀ c ∈ digits, isDigit c)

namespace TermLead

def text : TermLead → List Char
  | slash => ['/']
  | sign negative digits _ => (if negative then '-' else '+') :: digits

/-- The digits are all there are. -/
def Ends : TermLead → List Char → Prop
  | slash, _ => True
  | sign .., rest => ∀ c, rest.head? = some c → isDigit c = false

/-- The number that digits spell, one if there are none. -/
def number (digits : List Char) : Nat :=
  if digits = [] then 1 else Decimal.digitsFrom 0 (digits.map digitValue)

/-- A signed 64-bit word holds the number. -/
def Fits : TermLead → Prop
  | slash => True
  | sign _ digits _ => number digits < 2 ^ 63

instance (lead : TermLead) : Decidable lead.Fits :=
  match lead with
  | slash => inferInstanceAs (Decidable True)
  | sign _ digits _ => inferInstanceAs (Decidable (number digits < 2 ^ 63))

/-- The term that has this before its unit. -/
def term : TermLead → TimeUnit → MathTerm
  | slash, unit => .round unit
  | sign negative digits _, unit => .shift ((if negative then -1 else 1) * number digits) unit

end TermLead

/-- A term as it is spelled. -/
structure SpelledTerm where
  lead : TermLead
  name : UnitName

namespace SpelledTerm

def text (s : SpelledTerm) : List Char :=
  s.lead.text ++ s.name.text

/-- Terms one behind the other. -/
def texts (terms : List SpelledTerm) : List Char :=
  terms.flatMap text

/-- The instant that the term leads to: rounded down to its unit, or moved by the number of units. -/
def step? (s : SpelledTerm) (t : Instant) : Option Instant :=
  match s.lead with
  | .slash => s.name.unit.roundDown? t
  | .sign negative digits _ =>
    if TermLead.number digits < 2 ^ 63 then
      s.name.unit.add? t ((if negative then -1 else 1) * TermLead.number digits)
    else none

/-- The steps of terms from left to right. -/
def steps? (terms : List SpelledTerm) (t : Instant) : Option Instant :=
  terms.foldlM (fun t s => s.step? t) t

/-- The unit of the last term is not spelled further. -/
def EndBefore (terms : List SpelledTerm) (rest : List Char) : Prop :=
  ∀ last ∈ terms.getLast?, last.name.Ends rest

end SpelledTerm

/-- Why the term at the start of a text fails at an instant; `math` is all of the date math. -/
inductive FirstFails (math : List Char) (t : Instant) : List Char → TimeError → Prop where
  | unknown {c : Char} {rest : List Char} (slash : c ≠ '/') (plus : c ≠ '+') (minus : c ≠ '-') :
      FirstFails math t (c :: rest) (.invalidMath (String.ofList math))
  | large {lead : TermLead} {rest : List Char} (ends : lead.Ends rest) (large : ¬lead.Fits) :
      FirstFails math t (lead.text ++ rest) .outOfRange
  | noUnit {lead : TermLead} (fits : lead.Fits) : FirstFails math t lead.text .missingUnit
  | badUnit {lead : TermLead} {rest : List Char} (ends : lead.Ends rest) (fits : lead.Fits) (more : rest ≠ [])
      (unnamed : ∀ name : UnitName, ¬name.text <+: rest) :
      FirstFails math t (lead.text ++ rest) (.invalidUnit (String.ofList rest))
  | stuck {s : SpelledTerm} {rest : List Char} (ends : s.name.Ends rest) (stuck : s.step? t = none) :
      FirstFails math t (s.text ++ rest) .outOfRange

/-! ### Units -/

namespace UnitName

theorem text_cons (name : UnitName) : ∃ c more, name.text = c :: more ∧ isDigit c = false := by
  have letters : ∀ entry ∈ unitNames, entry.1.head?.any (!isDigit ·) := by decide
  have letter := letters _ name.known
  cases text : name.text with
  | nil => rw [text] at letter; cases letter
  | cons c more =>
    rw [text] at letter
    exact ⟨c, more, rfl, by simpa using letter⟩

/-- The longest name at the start of a text that starts with a name. -/
theorem exists_ends (name : UnitName) (rest : List Char) :
    ∃ (longest : UnitName) (after : List Char), longest.Ends after ∧ name.text ++ rest = longest.text ++ after := by
  by_cases ends : name.Ends rest
  · exact ⟨name, rest, ends, rfl⟩
  · obtain ⟨short, further⟩ := Classical.not_imp.mp ends
    obtain ⟨after, rfl⟩ := List.head?_eq_some_iff.mp (Classical.not_not.mp further)
    exact ⟨⟨['m', 's'], .millisecond, by decide⟩, after, (fun same => by cases same), by rw [short]; rfl⟩

end UnitName

namespace TimeUnit

theorem scan_name {name : UnitName} {rest : List Char} (ends : name.Ends rest) :
    scan (name.text ++ rest) = .ok (name.unit, rest) := by
  obtain ⟨text, unit, known⟩ := name
  simp only [unitNames, List.mem_cons, Prod.mk.injEq, List.not_mem_nil, or_false] at known
  rcases known with ⟨rfl, rfl⟩ | ⟨rfl, rfl⟩ | ⟨rfl, rfl⟩ | ⟨rfl, rfl⟩ | ⟨rfl, rfl⟩ | ⟨rfl, rfl⟩ | ⟨rfl, rfl⟩ |
    ⟨rfl, rfl⟩ | ⟨rfl, rfl⟩
  any_goals rfl
  -- What follows the name is looked at only after `m`.
  cases rest with
  | nil => rfl
  | cons c more =>
    have other : c ≠ 's' := fun same => ends rfl (congrArg some same)
    simp [scan, other]

theorem scan_unnamed {text : List Char} (more : text ≠ []) (unnamed : ∀ name : UnitName, ¬name.text <+: text) :
    scan text = .error (.invalidUnit (String.ofList text)) := by
  have letter (c : Char) (unit : TimeUnit) (rest : List Char) (known : ([c], unit) ∈ unitNames)
      (same : text = c :: rest) : False := unnamed ⟨[c], unit, known⟩ ⟨rest, same.symm⟩
  unfold scan
  split
  · exact absurd ⟨_, rfl⟩ (unnamed ⟨['m', 's'], .millisecond, by decide⟩)
  · exact (letter 'y' .year _ (by decide) rfl).elim
  · exact (letter 'M' .month _ (by decide) rfl).elim
  · exact (letter 'w' .week _ (by decide) rfl).elim
  · exact (letter 'd' .day _ (by decide) rfl).elim
  · exact (letter 'h' .hour _ (by decide) rfl).elim
  · exact (letter 'H' .hour _ (by decide) rfl).elim
  · exact (letter 'm' .minute _ (by decide) rfl).elim
  · exact (letter 's' .second _ (by decide) rfl).elim
  · exact absurd rfl more
  · rfl

end TimeUnit

/-! ### Before the unit -/

namespace TermLead

theorem text_cons (lead : TermLead) : ∃ c more, lead.text = c :: more ∧ c ≠ 's' := by
  cases lead with
  | slash => exact ⟨_, _, rfl, by decide⟩
  | sign negative digits digital => exact ⟨_, _, rfl, by cases negative <;> decide⟩

theorem ends_nil (lead : TermLead) : lead.Ends [] := by
  cases lead with
  | slash => trivial
  | sign negative digits digital => exact fun c head => by cases head

theorem ends_name (lead : TermLead) (name : UnitName) (rest : List Char) : lead.Ends (name.text ++ rest) := by
  cases lead with
  | slash => trivial
  | sign negative digits digital =>
    obtain ⟨c, more, text, other⟩ := name.text_cons
    intro d head
    rw [text] at head
    cases head
    exact other

theorem exists_lead (c : Char) (more : List Char) :
    (c ≠ '/' ∧ c ≠ '+' ∧ c ≠ '-') ∨
      ∃ (lead : TermLead) (rest : List Char), lead.Ends rest ∧ c :: more = lead.text ++ rest := by
  have signed (negative : Bool) : ∃ (lead : TermLead) (rest : List Char), lead.Ends rest ∧
      (if negative then '-' else '+') :: more = lead.text ++ rest := by
    have digital : ∀ d ∈ more.takeWhile isDigit, isDigit d := List.all_eq_true.mp List.all_takeWhile
    refine ⟨.sign negative (more.takeWhile isDigit) digital, more.dropWhile isDigit, fun d head => ?_, ?_⟩
    · have stop := List.head?_dropWhile_not isDigit more
      rw [head] at stop
      exact stop
    · rw [text, List.cons_append, List.takeWhile_append_dropWhile]
  by_cases slash : c = '/'
  · subst slash
    exact .inr ⟨.slash, more, trivial, rfl⟩
  by_cases plus : c = '+'
  · subst plus
    exact .inr (signed false)
  by_cases minus : c = '-'
  · subst minus
    exact .inr (signed true)
  exact .inl ⟨slash, plus, minus⟩

theorem takeWhile_digits {digits rest : List Char} (digital : ∀ c ∈ digits, isDigit c)
    (ends : ∀ c, rest.head? = some c → isDigit c = false) :
    (digits ++ rest).takeWhile isDigit = digits ∧ (digits ++ rest).dropWhile isDigit = rest := by
  rw [List.takeWhile_append_of_pos digital, List.dropWhile_append_of_pos digital]
  cases rest with
  | nil => simp
  | cons c more =>
    have other : ¬isDigit c := by simpa using ends c rfl
    rw [List.takeWhile_cons_of_neg other, List.dropWhile_cons_of_neg other, List.append_nil]
    exact ⟨rfl, rfl⟩

theorem amount_digits (digits : List Char) : MathTerm.amount (digits.map digitValue) =
    if number digits < 2 ^ 63 then .ok (number digits : Int) else .error .outOfRange := by
  cases digits with
  | nil => rfl
  | cons c more =>
    have nonempty : ((c :: more).map digitValue).isEmpty = false := rfl
    rw [MathTerm.amount, nonempty, number, if_neg (List.cons_ne_nil c more)]
    rfl

theorem append_inj {lead lead' : TermLead} {rest rest' : List Char} (ends : lead.Ends rest) (ends' : lead'.Ends rest')
    (same : lead.text ++ rest = lead'.text ++ rest') : lead = lead' ∧ rest = rest' := by
  match lead, lead' with
  | slash, slash => exact ⟨rfl, (List.cons.inj same).2⟩
  | slash, sign negative' _ _ => cases negative' <;> cases same
  | sign negative _ _, slash => cases negative <;> cases same
  | sign negative digits digital, sign negative' digits' digital' =>
    obtain ⟨first, more⟩ := List.cons.inj same
    obtain ⟨taken, dropped⟩ := takeWhile_digits digital ends
    obtain ⟨taken', dropped'⟩ := takeWhile_digits digital' ends'
    have digits_eq : digits = digits' := by rw [← taken, ← taken']; exact congrArg _ more
    have rest_eq : rest = rest' := by rw [← dropped, ← dropped']; exact congrArg _ more
    have negative_eq : negative = negative' := by cases negative <;> cases negative' <;> first | rfl | cases first
    subst digits_eq negative_eq
    exact ⟨rfl, rest_eq⟩

/-- A term is read by its lead, whose number is looked at first, and its unit. -/
theorem scan_lead (math : List Char) {lead : TermLead} {rest : List Char} (ends : lead.Ends rest) :
    MathTerm.scan math (lead.text ++ rest) =
      if lead.Fits then (TimeUnit.scan rest).map fun found => (lead.term found.1, found.2)
      else .error .outOfRange := by
  cases lead with
  | slash =>
    rw [if_pos (show TermLead.slash.Fits from trivial)]
    cases h : TimeUnit.scan rest <;> simp [text, MathTerm.scan, h, term, bind, Except.bind, Except.map]
  | sign negative digits digital =>
    have shift : ∀ sign, MathTerm.scanShift sign (digits ++ rest) =
        if number digits < 2 ^ 63 then
          (TimeUnit.scan rest).map fun found => (.shift (sign * number digits) found.1, found.2)
        else .error .outOfRange := by
      intro sign
      obtain ⟨taken, dropped⟩ := takeWhile_digits digital ends
      rw [MathTerm.scanShift, spanDigits, taken, dropped]
      simp only [amount_digits]
      split
      · cases h : TimeUnit.scan rest <;> simp [bind, Except.bind, Except.map]
      · rfl
    cases negative
    · exact shift 1
    · exact shift (-1)

end TermLead

/-! ### One term -/

section Term
variable {math text rest : List Char} {t : Instant}

theorem Instant.applyTerms_of_error {e : TimeError} (more : text ≠ []) (h : MathTerm.scan math text = .error e) :
    applyTerms math text t = .error e := by
  rw [applyTerms, if_neg (by simpa using more)]
  split
  · next e' h' =>
    rw [h] at h'
    cases h'
    rfl
  · next h' =>
    rw [h] at h'
    cases h'

theorem Instant.applyTerms_of_ok {term : MathTerm} (more : text ≠ [])
    (h : MathTerm.scan math text = .ok (term, rest)) :
    applyTerms math text t = (term.apply t).bind (applyTerms math rest) := by
  rw [applyTerms, if_neg (by simpa using more)]
  split
  · next h' =>
    rw [h] at h'
    cases h'
  · next term' rest' h' =>
    rw [h] at h'
    cases h'
    cases term.apply t <;> rfl

theorem TermLead.append_ne_nil (lead : TermLead) (rest : List Char) : lead.text ++ rest ≠ [] := by
  obtain ⟨c, more, text, -⟩ := lead.text_cons
  rw [text]
  exact List.cons_ne_nil _ _

namespace SpelledTerm
variable {s : SpelledTerm}

theorem text_append (s : SpelledTerm) (rest : List Char) : s.text ++ rest = s.lead.text ++ (s.name.text ++ rest) :=
  List.append_assoc _ _ _

theorem apply_term (fits : s.lead.Fits) (t : Instant) : (s.lead.term s.name.unit).apply t =
    match s.step? t with
    | some u => .ok u
    | none => .error .outOfRange := by
  obtain ⟨lead, name⟩ := s
  cases lead with
  | slash => rfl
  | sign negative digits digital =>
    rw [step?]
    simp only [if_pos (show TermLead.number digits < 2 ^ 63 from fits)]
    rfl

theorem step?_of_not_fits (large : ¬s.lead.Fits) (t : Instant) : s.step? t = none := by
  obtain ⟨lead, name⟩ := s
  cases lead with
  | slash => exact absurd trivial large
  | sign negative digits digital => exact if_neg large

/-- A term at the start of a text makes its step before the rest is looked at. -/
theorem applyTerms_append (ends : s.name.Ends rest) : Instant.applyTerms math (s.text ++ rest) t =
    match s.step? t with
    | some u => Instant.applyTerms math rest u
    | none => .error .outOfRange := by
  have scan := TermLead.scan_lead math (s.lead.ends_name s.name rest)
  rw [TimeUnit.scan_name ends] at scan
  rw [text_append]
  by_cases fits : s.lead.Fits
  · rw [if_pos fits] at scan
    rw [Instant.applyTerms_of_ok (s.lead.append_ne_nil _) scan, apply_term fits]
    cases s.step? t <;> rfl
  · rw [if_neg fits] at scan
    rw [Instant.applyTerms_of_error (s.lead.append_ne_nil _) scan, step?_of_not_fits fits]

end SpelledTerm

theorem FirstFails.applyTerms {e : TimeError} (h : FirstFails math t text e) :
    Instant.applyTerms math text t = .error e := by
  cases h with
  | @unknown c rest slash plus minus =>
    refine Instant.applyTerms_of_error (List.cons_ne_nil c rest) ?_
    simp [MathTerm.scan, slash, plus, minus]
  | @large lead rest ends large =>
    refine Instant.applyTerms_of_error (lead.append_ne_nil rest) ?_
    rw [TermLead.scan_lead math ends, if_neg large]
  | @noUnit lead fits =>
    have scan := TermLead.scan_lead math lead.ends_nil
    rw [if_pos fits, List.append_nil] at scan
    exact Instant.applyTerms_of_error (List.append_nil lead.text ▸ lead.append_ne_nil []) scan
  | @badUnit lead rest ends fits more unnamed =>
    refine Instant.applyTerms_of_error (lead.append_ne_nil rest) ?_
    rw [TermLead.scan_lead math ends, if_pos fits, TimeUnit.scan_unnamed more unnamed]
    rfl
  | stuck ends stuck => rw [SpelledTerm.applyTerms_append ends, stuck]

/-- A text that is not empty starts with a term that makes its step, or with one that fails. -/
theorem exists_first (math : List Char) (t : Instant) (more : text ≠ []) :
    (∃ (s : SpelledTerm) (rest : List Char) (u : Instant),
      s.name.Ends rest ∧ text = s.text ++ rest ∧ s.step? t = some u) ∨ ∃ e, FirstFails math t text e := by
  obtain ⟨c, after, rfl⟩ := List.exists_cons_of_ne_nil more
  rcases TermLead.exists_lead c after with ⟨slash, plus, minus⟩ | ⟨lead, rest, ends, same⟩
  · exact .inr ⟨_, .unknown slash plus minus⟩
  rw [same]
  by_cases fits : lead.Fits
  · by_cases empty : rest = []
    · rw [empty, List.append_nil]
      exact .inr ⟨_, .noUnit fits⟩
    by_cases named : ∃ name : UnitName, name.text <+: rest
    · obtain ⟨name, after, rfl⟩ := named
      obtain ⟨longest, after, last, spelled⟩ := name.exists_ends after
      rw [spelled, ← SpelledTerm.text_append ⟨lead, longest⟩]
      cases step : SpelledTerm.step? ⟨lead, longest⟩ t with
      | none => exact .inr ⟨_, .stuck last step⟩
      | some u => exact .inl ⟨_, after, u, last, rfl, step⟩
    · exact .inr ⟨_, .badUnit ends fits empty (not_exists.mp named)⟩
  · exact .inr ⟨_, .large ends fits⟩

end Term

/-! ### All terms -/

namespace SpelledTerm
variable {math rest : List Char} {terms : List SpelledTerm}

theorem texts_cons (s : SpelledTerm) (terms : List SpelledTerm) : texts (s :: terms) = s.text ++ texts terms :=
  List.flatMap_cons

theorem steps?_cons (s : SpelledTerm) (terms : List SpelledTerm) (t : Instant) :
    steps? (s :: terms) t = (s.step? t).bind (steps? terms) :=
  List.foldlM_cons

/-- A sign or a slash continues no name of a unit. -/
theorem ends_text (name : UnitName) (s : SpelledTerm) (rest : List Char) : name.Ends (s.text ++ rest) := by
  obtain ⟨c, more, text, other⟩ := s.lead.text_cons
  intro _ head
  rw [text_append, text] at head
  exact other (Option.some.inj head)

theorem endBefore_cons {s : SpelledTerm} :
    EndBefore (s :: terms) rest ↔ s.name.Ends (texts terms ++ rest) ∧ EndBefore terms rest := by
  cases terms with
  | nil => simp [EndBefore, texts]
  | cons s' more =>
    have ends : s.name.Ends (texts (s' :: more) ++ rest) := by
      rw [texts_cons, List.append_assoc]
      exact ends_text _ _ _
    simp only [EndBefore, List.getLast?_cons_cons, ends, true_and]

theorem endBefore_nil (terms : List SpelledTerm) : EndBefore terms [] :=
  fun _ _ _ head => by cases head

theorem applyTerms_texts : ∀ {terms : List SpelledTerm} {t : Instant}, EndBefore terms rest →
    Instant.applyTerms math (texts terms ++ rest) t =
      match steps? terms t with
      | some u => Instant.applyTerms math rest u
      | none => .error .outOfRange
  | [], t, _ => rfl
  | s :: terms, t, ends => by
    obtain ⟨here, later⟩ := endBefore_cons.mp ends
    rw [texts_cons, List.append_assoc, applyTerms_append here, steps?_cons]
    cases s.step? t with
    | none => rfl
    | some u => exact applyTerms_texts later

theorem applyMath_texts (terms : List SpelledTerm) (t : Instant) : t.applyMath (texts terms) =
    match steps? terms t with
    | some u => .ok u
    | none => .error .outOfRange := by
  have applied := @applyTerms_texts (texts terms) [] terms t (endBefore_nil terms)
  rw [List.append_nil] at applied
  rw [Instant.applyMath, applied]
  cases steps? terms t with
  | none => rfl
  | some u =>
    show Instant.applyTerms (texts terms) [] u = .ok u
    rw [Instant.applyTerms]
    rfl

/-- Every text is a sequence of terms that make their steps, up to its end or to a term that fails. -/
theorem exists_split (math text : List Char) (t : Instant) :
    ∃ (terms : List SpelledTerm) (u : Instant) (rest : List Char), text = texts terms ++ rest ∧
      EndBefore terms rest ∧ steps? terms t = some u ∧ (rest = [] ∨ ∃ e, FirstFails math u rest e) := by
  by_cases empty : text = []
  · exact ⟨[], t, [], empty, endBefore_nil [], rfl, .inl rfl⟩
  rcases exists_first math t empty with ⟨s, rest, u, ends, same, step⟩ | ⟨e, fails⟩
  · have shorter : rest.length < text.length := by
      obtain ⟨c, more, lead, -⟩ := s.lead.text_cons
      rw [same, text_append, lead]
      simp only [List.length_append, List.length_cons]
      omega
    obtain ⟨terms, v, after, split, last, steps, stop⟩ := exists_split math rest u
    refine ⟨s :: terms, v, after, ?_, endBefore_cons.mpr ⟨split ▸ ends, last⟩, ?_, stop⟩
    · rw [same, split, texts_cons, List.append_assoc]
    · rw [steps?_cons, step]
      exact steps
  · exact ⟨[], t, text, rfl, (fun _ last => by cases last), rfl, .inr ⟨e, fails⟩⟩
termination_by text.length

theorem append_inj {s s' : SpelledTerm} {rest' : List Char} (ends : s.name.Ends rest) (ends' : s'.name.Ends rest')
    (same : s.text ++ rest = s'.text ++ rest') : s = s' ∧ rest = rest' := by
  obtain ⟨lead, name⟩ := s
  obtain ⟨lead', name'⟩ := s'
  rw [text_append, text_append] at same
  obtain ⟨rfl, after⟩ := TermLead.append_inj (lead.ends_name name rest) (lead'.ends_name name' rest') same
  have scanned := TimeUnit.scan_name ends
  rw [after, TimeUnit.scan_name ends'] at scanned
  cases name
  cases name'
  cases scanned
  obtain rfl := List.append_cancel_right after
  exact ⟨rfl, rfl⟩

theorem texts_inj : ∀ {terms terms' : List SpelledTerm}, texts terms = texts terms' → terms = terms'
  | [], [], _ => rfl
  | [], s :: terms, same => absurd same.symm (by rw [texts_cons, text_append]; exact s.lead.append_ne_nil _)
  | s :: terms, [], same => absurd same (by rw [texts_cons, text_append]; exact s.lead.append_ne_nil _)
  | s :: terms, s' :: terms', same => by
    have ends : s.name.Ends (texts terms) := by simpa using (endBefore_cons.mp (endBefore_nil (s :: terms))).1
    have ends' : s'.name.Ends (texts terms') := by simpa using (endBefore_cons.mp (endBefore_nil (s' :: terms'))).1
    rw [texts_cons, texts_cons] at same
    obtain ⟨rfl, rest⟩ := append_inj ends ends' same
    rw [texts_inj rest]

end SpelledTerm

namespace Instant
open SpelledTerm

/-- Date math gives an instant if it is a sequence of terms whose steps all succeed, in which case the sequence
is the only one and its steps from left to right lead to that instant. Otherwise it gives the error of the
leftmost term that fails. -/
theorem applyMath_terms (math : List Char) (t : Instant) :
    (∀ u, t.applyMath math = .ok u ↔ ∃ terms, math = texts terms ∧ steps? terms t = some u) ∧
    (∀ terms terms', math = texts terms → math = texts terms' → terms = terms') ∧
    ∀ e, t.applyMath math = .error e ↔ ∃ terms rest u, math = texts terms ++ rest ∧ EndBefore terms rest ∧
      steps? terms t = some u ∧ FirstFails math u rest e := by
  have run {terms rest u} (same : math = texts terms ++ rest) (ends : EndBefore terms rest)
      (steps : steps? terms t = some u) : t.applyMath math = applyTerms math rest u := by
    have applied : applyTerms math (texts terms ++ rest) t = _ := applyTerms_texts ends
    rwa [← same, steps] at applied
  have done (u : Instant) : applyTerms math [] u = .ok u := by rw [applyTerms]; rfl
  -- The text is split where it is stuck, so that each statement says which of the two ways it stops in.
  obtain ⟨terms, u, rest, same, ends, steps, stop⟩ := exists_split math math t
  have result := run same ends steps
  refine ⟨fun v => ⟨fun applied => ?_, ?_⟩, fun _ _ split split' => texts_inj (split.symm.trans split'),
    fun e => ⟨fun failed => ?_, ?_⟩⟩
  · rcases stop with rfl | ⟨e, fails⟩
    · rw [applied, done] at result
      cases result
      exact ⟨terms, by simpa using same, steps⟩
    · rw [applied, fails.applyTerms] at result
      cases result
  · rintro ⟨terms', split, steps'⟩
    rw [run (by simpa using split) (endBefore_nil terms') steps', done]
  · rcases stop with rfl | ⟨e', fails⟩
    · rw [failed, done] at result
      cases result
    · rw [failed, fails.applyTerms] at result
      cases result
      exact ⟨terms, rest, u, same, ends, steps, fails⟩
  · rintro ⟨terms', rest', u', split, ends', steps', fails⟩
    rw [run split ends' steps', fails.applyTerms]

end Instant
end SpanSearch
