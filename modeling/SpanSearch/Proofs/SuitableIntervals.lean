import Mathlib.Data.List.Chain
import SpanSearch.Proofs.Instants
import SpanSearch.Time.Range

/-! The interval that suits a time range. Up to the ends of the ladder it is no longer than the span between the two
    instants and longer than a two thousandth of it, and a wider range never has a finer one. Without a span it is the
    minute of the calendar. -/

namespace SpanSearch

/-! ### Rungs -/

namespace Interval
variable {seconds more : Int} {rungs : List (Int × Interval)}

/-- The interval of the first rung that reaches as far as a span, and a year where none does. -/
def onRungs (rungs : List (Int × Interval)) (seconds : Int) : Interval :=
  match rungs.find? (seconds ≤ ·.1) with
  | some (_, i) => i
  | none => year

theorem onRungs_cons (reach : Int) (i : Interval) : onRungs ((reach, i) :: rungs) seconds =
    if seconds ≤ reach then i else onRungs rungs seconds := by
  by_cases within : seconds ≤ reach <;> simp [onRungs, within]

/-- An interval is as long as the spans of the rung before at most, and a span that is beyond these is longer. -/
theorem millis_onRungs_le {before : Int × Interval}
    (climbs : List.IsChain (fun a b : Int × Interval => b.2.millis ≤ 1000 * a.1) (before :: rungs ++ [(0, year)]))
    (beyond : before.1 < seconds) :
    (onRungs rungs seconds).millis ≤ 1000 * (seconds - 1) := by
  induction rungs generalizing before with
  | nil =>
    have longest : year.millis ≤ 1000 * before.1 := by simpa using climbs
    show year.millis ≤ 1000 * (seconds - 1)
    omega
  | cons rung rungs ih =>
    obtain ⟨reach, i⟩ := rung
    obtain ⟨here, later⟩ := List.isChain_cons_cons.mp climbs
    rw [onRungs_cons]
    split
    · simp only at here
      omega
    · next further => exact ih later (Int.not_le.mp further)

theorem onRungs_reaches (seconds : Int) : onRungs rungs seconds = year ∨ ∃ rung ∈ rungs, seconds ≤ rung.1 ∧
    onRungs rungs seconds = rung.2 := by
  cases found : rungs.find? (seconds ≤ ·.1) with
  | none => exact .inl (by rw [onRungs, found])
  | some rung =>
    exact .inr ⟨rung, List.mem_of_find?_eq_some found, by simpa using List.find?_some found, by rw [onRungs, found]⟩

theorem millis_onRungs_mono
    (longer : List.Pairwise (fun a b : Int × Interval => a.2.millis ≤ b.2.millis) (rungs ++ [(0, year)]))
    (h : seconds ≤ more) : (onRungs rungs seconds).millis ≤ (onRungs rungs more).millis := by
  induction rungs with
  | nil => exact Int.le_refl _
  | cons rung rungs ih =>
    obtain ⟨reach, i⟩ := rung
    obtain ⟨first, longer⟩ := List.pairwise_cons.mp longer
    rw [onRungs_cons, onRungs_cons]
    by_cases within : more ≤ reach
    · simp only [Int.le_trans h within, within, ↓reduceIte, Int.le_refl]
    rw [if_neg within]
    split
    · rcases @onRungs_reaches rungs more with beyond | ⟨rung, member, -, same⟩
      · rw [beyond]
        exact first (0, year) (by simp)
      · rw [same]
        exact first rung (by simp [member])
    · exact ih longer

/-! ### The ladder -/

theorem forSeconds_eq (seconds : Int) : forSeconds seconds = onRungs ladder seconds :=
  rfl

theorem forSeconds_ne_calendarMinute (seconds : Int) : forSeconds seconds ≠ calendarMinute := by
  have rungs : ∀ rung ∈ ladder, rung.2 ≠ calendarMinute := by decide
  rw [forSeconds_eq]
  rcases @onRungs_reaches ladder seconds with beyond | ⟨rung, member, -, same⟩
  · rw [beyond]
    decide
  · rw [same]
    exact rungs rung member

theorem millis_forSeconds_le (seconds : Int) :
    forSeconds seconds = millisecond ∨ (forSeconds seconds).millis ≤ 1000 * (seconds - 1) := by
  rw [forSeconds_eq, ladder, onRungs_cons]
  split
  · exact .inl rfl
  · next beyond => exact .inr (@millis_onRungs_le seconds _ (1, millisecond) (by decide) (Int.not_le.mp beyond))

theorem lt_millis_forSeconds (seconds : Int) :
    forSeconds seconds = year ∨ 1000 * (seconds + 1) ≤ 2000 * (forSeconds seconds).millis := by
  have rungs : ∀ rung ∈ ladder, 1000 * (rung.1 + 1) ≤ 2000 * rung.2.millis := by decide
  rw [forSeconds_eq]
  rcases @onRungs_reaches ladder seconds with beyond | ⟨rung, member, within, same⟩
  · exact .inl beyond
  · have reach := rungs rung member
    rw [same]
    exact .inr (by omega)

theorem millis_forSeconds_mono (h : seconds ≤ more) : (forSeconds seconds).millis ≤ (forSeconds more).millis :=
  millis_onRungs_mono (by decide) h

end Interval

/-! ### Ranges -/

/-- The expression has no instant. -/
def Instant.Unresolved (expression : String) (now : Instant) : Prop :=
  ∃ e, resolve expression now = .error e

namespace TimeRange
open Instant
variable {r : TimeRange} {now s f : Instant} {e : TimeError}

theorem resolve_eq_ok_iff :
    r.resolve now = .ok (s, f) ↔ Instant.resolve r.start now = .ok s ∧ Instant.resolve r.finish now = .ok f := by
  cases start : Instant.resolve r.start now <;> cases finish : Instant.resolve r.finish now <;>
    simp [resolve, start, finish, bind, Except.bind]

/-- The error is that of the start, if that has one. -/
theorem resolve_eq_error_iff : r.resolve now = .error e ↔ Instant.resolve r.start now = .error e ∨
    (∃ s, Instant.resolve r.start now = .ok s) ∧ Instant.resolve r.finish now = .error e := by
  cases start : Instant.resolve r.start now <;> cases finish : Instant.resolve r.finish now <;>
    simp [resolve, start, finish, bind, Except.bind]

theorem unresolved_iff : Unresolved r.start now ∨ Unresolved r.finish now ↔ ∃ e, r.resolve now = .error e := by
  simp only [resolve_eq_error_iff, Unresolved]
  constructor
  · rintro (⟨e, start⟩ | ⟨e, finish⟩)
    · exact ⟨e, .inl start⟩
    · cases start : Instant.resolve r.start now with
      | error e' => exact ⟨e', .inl rfl⟩
      | ok s => exact ⟨e, .inr ⟨⟨s, rfl⟩, finish⟩⟩
  · rintro ⟨e, start | ⟨-, finish⟩⟩
    · exact .inl ⟨e, start⟩
    · exact .inr ⟨e, finish⟩

theorem ne_empty_of_resolve (h : r.resolve now = .ok (s, f)) : r.start ≠ "" ∧ r.finish ≠ "" := by
  obtain ⟨start, finish⟩ := resolve_eq_ok_iff.mp h
  constructor <;> intro empty
  · rw [empty] at start
    cases start
  · rw [empty] at finish
    cases finish

theorem interval_of_resolve (h : r.resolve now = .ok (s, f)) :
    r.interval now = (.forSeconds (f.seconds - s.seconds), []) := by
  simp [interval, ne_empty_of_resolve h, h]

/-- Either an end is empty, or one does not resolve and is told of, or the interval is that of the ladder. -/
theorem interval_cases (r : TimeRange) (now : Instant) :
    ((r.start = "" ∨ r.finish = "") ∧ r.interval now = (.calendarMinute, [])) ∨
    (∃ e, r.resolve now = .error e ∧ (r.start ≠ "" ∧ r.finish ≠ "") ∧
      r.interval now = (.calendarMinute, [.unresolved r.start r.finish e])) ∨
    ∃ s f, r.resolve now = .ok (s, f) ∧ r.interval now = (.forSeconds (f.seconds - s.seconds), []) := by
  by_cases empty : r.start = "" ∨ r.finish = ""
  · refine .inl ⟨empty, ?_⟩
    rcases empty with empty | empty <;> simp [interval, empty]
  · have nonempty := not_or.mp empty
    cases h : r.resolve now with
    | error e => exact .inr (.inl ⟨e, rfl, nonempty, by simp [interval, nonempty, h]⟩)
    | ok ends => exact .inr (.inr ⟨ends.1, ends.2, rfl, interval_of_resolve h⟩)

theorem interval_eq_calendarMinute_iff : (r.interval now).1 = .calendarMinute ↔
    r.start = "" ∨ r.finish = "" ∨ Unresolved r.start now ∨ Unresolved r.finish now := by
  rw [unresolved_iff]
  rcases interval_cases r now with ⟨empty | empty, same⟩ | ⟨e, failed, -, same⟩ | ⟨s, f, resolved, same⟩
  · simp [same, empty]
  · simp [same, empty]
  · simp [same, failed]
  · simp [same, resolved, ne_empty_of_resolve resolved, Interval.forSeconds_ne_calendarMinute]

/-- What is told of the ends if anything is. -/
theorem notices_cases (r : TimeRange) (now : Instant) :
    ((r.start ≠ "" ∧ r.finish ≠ "" ∧ (Unresolved r.start now ∨ Unresolved r.finish now)) ∧
      ∃ e, r.resolve now = .error e ∧ (r.interval now).2 = [.unresolved r.start r.finish e]) ∨
    ¬(r.start ≠ "" ∧ r.finish ≠ "" ∧ (Unresolved r.start now ∨ Unresolved r.finish now)) ∧
      (r.interval now).2 = [] := by
  rw [unresolved_iff]
  rcases interval_cases r now with ⟨empty | empty, same⟩ | ⟨e, failed, nonempty, same⟩ | ⟨s, f, resolved, same⟩
  · exact .inr ⟨fun told => told.1 empty, by rw [same]⟩
  · exact .inr ⟨fun told => told.2.1 empty, by rw [same]⟩
  · exact .inl ⟨⟨nonempty.1, nonempty.2, e, failed⟩, e, failed, by rw [same]⟩
  · exact .inr ⟨by simp [resolved], by rw [same]⟩

section Resolved
variable (start : Instant.resolve r.start now = .ok s) (finish : Instant.resolve r.finish now = .ok f)
include start finish

/-- The whole seconds of the ends tell their span but for less than a second on either side. -/
theorem millis_interval_bounds (ordinary : s.Ordinary) (ordinary' : f.Ordinary) :
    ((r.interval now).1 = .millisecond ∨ 10 ^ 6 * (r.interval now).1.millis ≤ f.stamp - s.stamp) ∧
      ((r.interval now).1 = .year ∨ f.stamp - s.stamp < 2000 * (10 ^ 6 * (r.interval now).1.millis)) := by
  rw [interval_of_resolve (resolve_eq_ok_iff.mpr ⟨start, finish⟩)]
  have least := Interval.millis_forSeconds_le (f.seconds - s.seconds)
  have most := Interval.lt_millis_forSeconds (f.seconds - s.seconds)
  simp only [Ordinary, stamp] at *
  exact ⟨least.imp_right fun bound => by omega, most.imp_right fun bound => by omega⟩

theorem millis_interval_mono {wider : TimeRange} {now' s' f' : Instant}
    (start' : Instant.resolve wider.start now' = .ok s') (finish' : Instant.resolve wider.finish now' = .ok f')
    (before : s' ≤ s) (after : f ≤ f') : (r.interval now).1.millis ≤ (wider.interval now').1.millis := by
  rw [interval_of_resolve (resolve_eq_ok_iff.mpr ⟨start, finish⟩),
    interval_of_resolve (resolve_eq_ok_iff.mpr ⟨start', finish'⟩)]
  rw [le_iff] at before after
  exact Interval.millis_forSeconds_mono (by omega)

end Resolved

/-- The interval is the minute of the calendar if an end is empty or does not resolve, and only then. The latter gives
one warning, and nothing else does. If the ends resolve to instants outside of leap seconds, the interval is no longer
than the span between them unless it is a millisecond, and longer than a two thousandth of it unless it is a year.
Ends that resolve further apart, whatever their expressions, have no shorter interval. -/
theorem interval_suits (r : TimeRange) (now : Instant) :
    ((r.interval now).1 = .calendarMinute ↔
      r.start = "" ∨ r.finish = "" ∨ Unresolved r.start now ∨ Unresolved r.finish now) ∧
    ((∃ n e, (r.interval now).2 = [n] ∧ n.severity = .warning ∧
        n = .unresolved r.start r.finish e ∧ r.resolve now = .error e) ↔
      r.start ≠ "" ∧ r.finish ≠ "" ∧ (Unresolved r.start now ∨ Unresolved r.finish now)) ∧
    ((r.interval now).2 = [] ↔
      ¬(r.start ≠ "" ∧ r.finish ≠ "" ∧ (Unresolved r.start now ∨ Unresolved r.finish now))) ∧
    ∀ s f, Instant.resolve r.start now = .ok s → Instant.resolve r.finish now = .ok f →
      (s.Ordinary → f.Ordinary →
        ((r.interval now).1 = .millisecond ∨ 10 ^ 6 * (r.interval now).1.millis ≤ f.stamp - s.stamp) ∧
        ((r.interval now).1 = .year ∨ f.stamp - s.stamp < 2000 * (10 ^ 6 * (r.interval now).1.millis))) ∧
      ∀ (wider : TimeRange) (now' s' f' : Instant), Instant.resolve wider.start now' = .ok s' →
        Instant.resolve wider.finish now' = .ok f' → s' ≤ s → f ≤ f' →
        (r.interval now).1.millis ≤ (wider.interval now').1.millis := by
  refine ⟨interval_eq_calendarMinute_iff, ?_, ?_, fun s f start finish =>
    ⟨millis_interval_bounds start finish, fun wider now' s' f' => millis_interval_mono start finish⟩⟩
  · rcases notices_cases r now with ⟨told, e, failed, same⟩ | ⟨untold, same⟩
    · exact iff_of_true ⟨_, e, same, rfl, rfl, failed⟩ told
    · exact iff_of_false (by simp [same]) untold
  · rcases notices_cases r now with ⟨told, e, -, same⟩ | ⟨untold, same⟩
    · exact iff_of_false (by simp [same]) fun untold => untold told
    · exact iff_of_true same untold

/-- Less than a second short of an hour the interval is a minute, and less than two seconds more make it an hour. -/
theorem interval_suits_about_an_hour : ∃ (r wider : TimeRange) (s f : Instant),
    r = ⟨"2020-10-15T07:30:00.900Z", "2020-10-15 08:30:00.100"⟩ ∧
    wider = ⟨"2020-10-15T09:30:00+02:00", "Oct 15, 2020 @ 08:30:01"⟩ ∧
    Instant.resolve r.start epoch = .ok s ∧ Instant.resolve r.finish epoch = .ok f ∧ s.Ordinary ∧ f.Ordinary ∧
    (r.interval epoch).1 = .minute ∧ 10 ^ 6 * (r.interval epoch).1.millis ≤ f.stamp - s.stamp ∧
    (wider.interval epoch).1 = .hour ∧ (r.interval epoch).1.millis ≤ (wider.interval epoch).1.millis := by
  let s : Instant := ⟨1602747000, 900000000, by decide, by decide, by decide, by decide⟩
  let f : Instant := ⟨1602750600, 100000000, by decide, by decide, by decide, by decide⟩
  let f' : Instant := ⟨1602750601, 0, by decide, by decide, by decide, by decide⟩
  let s' : Instant := ⟨1602747000, 0, by decide, by decide, by decide, by decide⟩
  let r : TimeRange := ⟨"2020-10-15T07:30:00.900Z", "2020-10-15 08:30:00.100"⟩
  let wider : TimeRange := ⟨"2020-10-15T09:30:00+02:00", "Oct 15, 2020 @ 08:30:01"⟩
  have start : Instant.resolve r.start epoch = .ok s := by decide
  have finish : Instant.resolve r.finish epoch = .ok f := by decide
  have start' : Instant.resolve wider.start epoch = .ok s' := by decide
  have finish' : Instant.resolve wider.finish epoch = .ok f' := by decide
  have ordinary : s.Ordinary ∧ f.Ordinary := ⟨show 900000000 < 10 ^ 9 by decide, show 100000000 < 10 ^ 9 by decide⟩
  have minute : (r.interval epoch).1 = .minute := by decide
  obtain ⟨-, -, -, spans⟩ := interval_suits r epoch
  obtain ⟨bounds, mono⟩ := spans s f start finish
  refine ⟨r, wider, s, f, rfl, rfl, start, finish, ordinary.1, ordinary.2, minute, ?_, by decide, ?_⟩
  · exact (bounds ordinary.1 ordinary.2).1.resolve_left (by rw [minute]; decide)
  · exact mono wider epoch s' f' start' finish' (.inr ⟨rfl, by decide⟩) (.inl (by decide))

end TimeRange
end SpanSearch
