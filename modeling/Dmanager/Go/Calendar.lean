import Dmanager.Go.Strings
import Dmanager.Go.Time

/-!
# Dates

The date and the time of day of an instant in UTC, and the texts they are written as: `time.Time.Format` for the
layouts the program uses.

The texts of fixed width compare as the instants do, to the second, while the year has four digits:
`dateTime_lt_iff`.  A comparison of two such columns in the database is one of their texts.
-/

namespace Dmanager
namespace Go

/-! ## The calendar -/

/-- Twenty-four hours. -/
def day : Int := 24 * hour

/-- A year of 366 days. -/
def leap (year : Int) : Bool := year % 4 = 0 && (year % 100 ≠ 0 || year % 400 = 0)

/-- Days from January 1 of year 1 to January 1 of a year. -/
def daysBeforeYear (year : Int) : Int := 365 * (year - 1) + (year - 1) / 4 - (year - 1) / 100 + (year - 1) / 400

/-- The year of a day.  The quotient is the year or the one before or after it. -/
def yearOf (days : Int) : Int :=
  let year := days * 400 / 146097 + 1
  if days < daysBeforeYear year then year - 1 else if daysBeforeYear (year + 1) ≤ days then year + 1 else year

/-- Days of a year before each of its months. -/
def daysBeforeMonth (isLeap : Bool) : List Nat :=
  if isLeap then [0, 31, 60, 91, 121, 152, 182, 213, 244, 274, 305, 335]
  else [0, 31, 59, 90, 120, 151, 181, 212, 243, 273, 304, 334]

/-- A day of the calendar. -/
structure Date where
  year : Int
  month : Nat
  day : Nat
  deriving DecidableEq, Repr

/-- The month and the day of a day of the year. -/
def monthDay (isLeap : Bool) (yearDay : Nat) : Nat × Nat :=
  let before := (daysBeforeMonth isLeap).filter fun days => days ≤ yearDay
  (before.length, yearDay - before.getLastD 0 + 1)

/-- The date of a day. -/
def dateOf (days : Int) : Date :=
  let year := yearOf days
  let yearDay := (days - daysBeforeYear year).toNat
  ⟨year, (monthDay (leap year) yearDay).1, (monthDay (leap year) yearDay).2⟩

/-- `t.Date()` in UTC. -/
def date (t : Int) : Date := dateOf (t / day)

/-- Seconds since midnight. -/
def secondOfDay (t : Int) : Nat := (t % day / second).toNat

/-- `t.AddDate(0, 0, days)` in UTC, where every day has twenty-four hours. -/
def addDays (t days : Int) : Int := t + days * day

theorem yearOf_spec (days : Int) :
    daysBeforeYear (yearOf days) ≤ days ∧ days < daysBeforeYear (yearOf days + 1) := by
  unfold yearOf daysBeforeYear
  simp only
  split
  · omega
  · split <;> omega

theorem daysBeforeYear_strictMono : StrictMono daysBeforeYear := by
  intro year year' hlt
  unfold daysBeforeYear
  omega

theorem yearOf_mono {days days' : Int} (hle : days ≤ days') : yearOf days ≤ yearOf days' := by
  by_contra hlt
  have hbefore := daysBeforeYear_strictMono.monotone (show yearOf days' + 1 ≤ yearOf days by omega)
  have hspec := yearOf_spec days
  have hspec' := yearOf_spec days'
  omega

/-- The days of a year. -/
def daysOfYear (isLeap : Bool) : Nat := if isLeap then 366 else 365

/-- A year has 365 days, or 366 when it is a leap year. -/
theorem daysBeforeYear_succ (year : Int) :
    daysBeforeYear (year + 1) = daysBeforeYear year + daysOfYear (leap year) := by
  unfold daysBeforeYear daysOfYear leap
  split
  · rename_i h
    simp only [ne_eq, decide_not, Bool.and_eq_true, decide_eq_true_eq, Bool.or_eq_true, Bool.not_eq_eq_eq_not,
      Bool.not_true, decide_eq_false_iff_not] at h
    omega
  · rename_i h
    simp only [ne_eq, decide_not, Bool.and_eq_true, decide_eq_true_eq, Bool.or_eq_true, Bool.not_eq_eq_eq_not,
      Bool.not_true, decide_eq_false_iff_not] at h
    omega

theorem monthDay_le : ∀ isLeap, ∀ yearDay < daysOfYear isLeap,
    (monthDay isLeap yearDay).1 ≤ 12 ∧ (monthDay isLeap yearDay).2 ≤ 31 := by
  decide +kernel

/-- The last of the numbers up to a bound. -/
theorem last_le_of_filter (numbers : List Nat) (bound : Nat) :
    (numbers.filter fun n => n ≤ bound).getLastD 0 ≤ bound := by
  have hlast : (numbers.filter fun n => n ≤ bound).getLastD 0 ∈ 0 :: numbers.filter fun n => n ≤ bound :=
    List.getLastD_mem_cons
  rcases List.mem_cons.mp hlast with hzero | hmem
  · rw [hzero]
    exact Nat.zero_le bound
  · exact of_decide_eq_true (List.mem_filter.mp hmem).2

/-- A later day of the year has a later month, or a later day in the same month. -/
theorem monthDay_lt {isLeap : Bool} {yearDay yearDay' : Nat} (hlt : yearDay < yearDay') :
    (monthDay isLeap yearDay).1 < (monthDay isLeap yearDay').1 ∨
      (monthDay isLeap yearDay).1 = (monthDay isLeap yearDay').1 ∧
        (monthDay isLeap yearDay).2 < (monthDay isLeap yearDay').2 := by
  -- the months that have begun by the earlier day have begun by the later one
  have hbegun : ((daysBeforeMonth isLeap).filter fun days => decide (days ≤ yearDay)).Sublist
      ((daysBeforeMonth isLeap).filter fun days => decide (days ≤ yearDay')) := by
    refine List.monotone_filter_right _ fun days hdays => ?_
    rw [decide_eq_true_eq] at hdays ⊢
    omega
  rcases lt_or_eq_of_le hbegun.length_le with hmonth | hmonth
  · exact Or.inl hmonth
  · refine Or.inr ⟨hmonth, ?_⟩
    have hsame := hbegun.eq_of_length hmonth
    have hlast := last_le_of_filter (daysBeforeMonth isLeap) yearDay
    unfold monthDay
    dsimp only
    rw [← hsame]
    omega

/-- The day of the year of a day. -/
theorem yearDay_lt (days : Int) : (days - daysBeforeYear (yearOf days)).toNat < daysOfYear (leap (yearOf days)) := by
  have hspec := yearOf_spec days
  rw [daysBeforeYear_succ] at hspec
  omega

/-- A later day has a later year, or a later month of the same year, or a later day of the same month. -/
theorem dateOf_lt {days days' : Int} (hlt : days < days') :
    (dateOf days).year < (dateOf days').year ∨
      (dateOf days).year = (dateOf days').year ∧
        ((dateOf days).month < (dateOf days').month ∨
          (dateOf days).month = (dateOf days').month ∧ (dateOf days).day < (dateOf days').day) := by
  rcases lt_or_eq_of_le (yearOf_mono hlt.le) with hyear | hyear
  · exact Or.inl hyear
  · refine Or.inr ⟨hyear, ?_⟩
    have hspec := yearOf_spec days
    have hlater := yearDay_lt days'
    unfold dateOf
    rw [hyear] at hspec ⊢
    exact monthDay_lt (by omega)

/-! ## Texts -/

/-- A decimal digit. -/
def digit (n : Nat) : UInt8 := UInt8.ofNat (0x30 + n % 10)

/-- The last decimal digits of a number. -/
def digits : Nat → Nat → GoString
  | 0, _ => []
  | width + 1, n => digits width (n / 10) ++ [digit n]

/-- A number with zeros in front of it up to a width. -/
def padded (width n : Nat) : GoString := if n < 10 ^ width then digits width n else natString n

/-- The year in a layout. -/
def yearText (year : Int) : GoString :=
  if year < 0 then 0x2D :: padded 4 year.natAbs else padded 4 year.toNat

/-- `t.Format` in UTC for the layouts `2006-01-02` and `15:04:05` with something between them. -/
def dateTime (between : GoString) (t : Int) : GoString :=
  yearText (date t).year ++ 0x2D :: (padded 2 (date t).month ++ 0x2D :: (padded 2 (date t).day ++ between ++
    (padded 2 (secondOfDay t / 3600) ++ 0x3A :: (padded 2 (secondOfDay t / 60 % 60) ++ 0x3A ::
      padded 2 (secondOfDay t % 60)))))

/-- `t.UTC().Format(time.RFC3339)`. -/
def rfc3339 (t : Int) : GoString := dateTime (str "T") t ++ str "Z"

/-- The year has four digits. -/
def FourDigitYear (t : Int) : Prop := 0 ≤ (date t).year ∧ (date t).year ≤ 9999

example : rfc3339 (63918867600 * second) = str "2026-07-05T17:00:00Z" := by decide +kernel

/-! ## The order of texts -/

theorem length_digits (width n : Nat) : (digits width n).length = width := by
  induction width generalizing n with
  | zero => rfl
  | succ width ih => rw [digits, List.length_append, ih, List.length_singleton]

theorem digit_lt {n m : Nat} (hlt : n % 10 < m % 10) : digit n < digit m := by
  unfold digit
  rw [UInt8.lt_iff_toNat_lt, UInt8.toNat_ofNat', UInt8.toNat_ofNat']
  omega

/-- What follows texts of one length decides when they are equal. -/
theorem append_lt_append {s s' : GoString} (hlength : s.length = s'.length) (hlt : s < s') (rest rest' : GoString) :
    s ++ rest < s' ++ rest' := by
  induction s generalizing s' with
  | nil =>
      rw [List.eq_nil_of_length_eq_zero hlength.symm] at hlt
      exact absurd hlt (List.lt_irrefl _)
  | cons b s ih =>
      obtain ⟨b', s', rfl⟩ := List.exists_cons_of_length_eq_add_one hlength.symm
      rw [List.length_cons, List.length_cons] at hlength
      rw [List.cons_append, List.cons_append, List.cons_lt_cons_iff]
      rcases List.cons_lt_cons_iff.mp hlt with hbyte | ⟨hbyte, hrest⟩
      · exact Or.inl hbyte
      · exact Or.inr ⟨hbyte, ih (by omega) hrest⟩

/-- Digits of one width compare as the numbers do. -/
theorem digits_lt {width n m : Nat} (hlt : n < m) (hm : m < 10 ^ width) : digits width n < digits width m := by
  induction width generalizing n m with
  | zero => omega
  | succ width ih =>
      rw [digits, digits]
      rcases Nat.lt_or_ge (n / 10) (m / 10) with hhigh | hhigh
      · have hbound : m / 10 < 10 ^ width := by
          rw [Nat.pow_succ] at hm
          omega
        exact append_lt_append (by rw [length_digits, length_digits]) (ih hhigh hbound) _ _
      · have heq : n / 10 = m / 10 := by omega
        rw [heq]
        apply List.append_left_lt
        rw [List.cons_lt_cons_iff]
        exact Or.inl (digit_lt (by omega))

/-- A number of fixed width, and what follows it when two numbers are equal, decide the order. -/
theorem padded_append_lt {width n m : Nat} (hn : n < 10 ^ width) (hm : m < 10 ^ width) {rest rest' : GoString}
    (hlt : n < m ∨ n = m ∧ rest < rest') : padded width n ++ rest < padded width m ++ rest' := by
  unfold padded
  rw [if_pos hn, if_pos hm]
  rcases hlt with hlt | ⟨rfl, hrest⟩
  · exact append_lt_append (by rw [length_digits, length_digits]) (digits_lt hlt hm) _ _
  · exact List.append_left_lt hrest

/-- The same for what a separator follows. -/
theorem padded_cons_lt {width n m : Nat} (hn : n < 10 ^ width) (hm : m < 10 ^ width) (sep : UInt8)
    {rest rest' : GoString} (hlt : n < m ∨ n = m ∧ rest < rest') :
    padded width n ++ sep :: rest < padded width m ++ sep :: rest' := by
  refine padded_append_lt hn hm ?_
  rcases hlt with hlt | ⟨heq, hrest⟩
  · exact Or.inl hlt
  · exact Or.inr ⟨heq, List.cons_lt_cons_iff.mpr (Or.inr ⟨rfl, hrest⟩)⟩

theorem secondOfDay_lt (t : Int) : secondOfDay t < 86400 := by
  unfold secondOfDay day hour minute second
  omega

theorem dateOf_le (days : Int) : (dateOf days).month ≤ 12 ∧ (dateOf days).day ≤ 31 :=
  monthDay_le _ _ (yearDay_lt days)

/-- A later second has a later date, or a later time on the same one. -/
theorem date_lt {t u : Int} (hlt : t / second < u / second) :
    (date t).year < (date u).year ∨ (date t).year = (date u).year ∧
      ((date t).month < (date u).month ∨ (date t).month = (date u).month ∧
        ((date t).day < (date u).day ∨ (date t).day = (date u).day ∧ secondOfDay t < secondOfDay u)) := by
  have hdays : t / day < u / day ∨ t / day = u / day ∧ secondOfDay t < secondOfDay u := by
    unfold secondOfDay day hour minute second at *
    omega
  unfold date
  rcases hdays with hdays | ⟨hdays, htime⟩
  · have hdate := dateOf_lt hdays
    omega
  · rw [hdays]
    exact Or.inr ⟨rfl, Or.inr ⟨rfl, Or.inr ⟨rfl, htime⟩⟩⟩

/-- What follows the year and the separator in a layout. -/
def afterYear (between : GoString) (t : Int) : GoString :=
  padded 2 (date t).month ++ 0x2D :: (padded 2 (date t).day ++ between ++
    (padded 2 (secondOfDay t / 3600) ++ 0x3A :: (padded 2 (secondOfDay t / 60 % 60) ++ 0x3A ::
      padded 2 (secondOfDay t % 60))))

/-- A later second of the same year has a greater text. -/
theorem afterYear_lt {between : GoString} {t u : Int} (hyear : (date t).year = (date u).year)
    (hlt : t / second < u / second) : afterYear between t < afterYear between u := by
  have hlater := (date_lt hlt).resolve_left (by omega)
  have htime := secondOfDay_lt t
  have htime' := secondOfDay_lt u
  obtain ⟨hmonth, hday⟩ : (date t).month ≤ 12 ∧ (date t).day ≤ 31 := dateOf_le (t / day)
  obtain ⟨hmonth', hday'⟩ : (date u).month ≤ 12 ∧ (date u).day ≤ 31 := dateOf_le (u / day)
  unfold afterYear
  rw [List.append_assoc, List.append_assoc]
  -- what follows decides when the numbers so far are equal
  refine padded_cons_lt (by omega) (by omega) _ (hlater.2.imp_right (And.imp_right fun hlater => ?_))
  refine padded_append_lt (by omega) (by omega) (hlater.imp_right (And.imp_right fun hlater => ?_))
  apply List.append_left_lt
  have hparts : secondOfDay t / 3600 < secondOfDay u / 3600 ∨ secondOfDay t / 3600 = secondOfDay u / 3600 ∧
      (secondOfDay t / 60 % 60 < secondOfDay u / 60 % 60 ∨ secondOfDay t / 60 % 60 = secondOfDay u / 60 % 60 ∧
        secondOfDay t % 60 < secondOfDay u % 60) := by
    omega
  refine padded_cons_lt (by omega) (by omega) _ (hparts.imp_right (And.imp_right fun hparts => ?_))
  refine padded_cons_lt (by omega) (by omega) _ (hparts.imp_right (And.imp_right fun hseconds => ?_))
  unfold padded
  rw [if_pos (by omega), if_pos (by omega)]
  exact digits_lt hseconds (by omega)

/-- A later second has a greater text. -/
theorem dateTime_lt {between : GoString} {t u : Int} (ht : FourDigitYear t) (hu : FourDigitYear u)
    (hlt : t / second < u / second) : dateTime between t < dateTime between u := by
  obtain ⟨ht, ht'⟩ := ht
  obtain ⟨hu, hu'⟩ := hu
  show yearText (date t).year ++ 0x2D :: afterYear between t < yearText (date u).year ++ 0x2D :: afterYear between u
  unfold yearText
  rw [if_neg (by omega), if_neg (by omega)]
  refine padded_cons_lt (by omega) (by omega) _ ((date_lt hlt).imp (by omega) fun hlater => ⟨by omega, ?_⟩)
  exact afterYear_lt hlater.1 hlt

/-- A text depends on the whole second. -/
theorem dateTime_congr {between : GoString} {t u : Int} (heq : t / second = u / second) :
    dateTime between t = dateTime between u := by
  have hday : t / day = u / day := by
    unfold day hour minute second at *
    omega
  have htime : secondOfDay t = secondOfDay u := by
    unfold secondOfDay day hour minute second at *
    omega
  unfold dateTime date
  rw [hday, htime]

/-- Texts compare as the instants do, to the second. -/
theorem dateTime_lt_iff {between : GoString} {t u : Int} (ht : FourDigitYear t) (hu : FourDigitYear u) :
    dateTime between t < dateTime between u ↔ t / second < u / second := by
  constructor
  · intro hlt
    rcases lt_trichotomy (t / second) (u / second) with hsecond | hsecond | hsecond
    · exact hsecond
    · rw [dateTime_congr hsecond] at hlt
      exact absurd hlt (List.lt_irrefl _)
    · exact absurd hlt (List.lt_asymm (dateTime_lt hu ht hsecond))
  · exact dateTime_lt ht hu

end Go
end Dmanager
