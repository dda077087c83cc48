import Mathlib.Tactic

/-!
# Instants and durations

`time.Time` is modelled by the instant it denotes: the number of nanoseconds since Go's zero `Time`
(January 1, year 1, UTC).  `time.Duration` is a number of nanoseconds.  Both are plain integers, so that
linear arithmetic applies to them directly; the program never leaves the range of an `int64` duration
except where a module says so.  Go's `/` on durations truncates towards zero, which is `Int.tdiv`.
-/

namespace Dmanager
namespace Go

/-- `time.Time{}`. -/
def zeroTime : Int := 0

/-- `time.Second`. -/
def second : Int := 1000000000

/-- `time.Minute`. -/
def minute : Int := 60 * second

/-- `time.Hour`. -/
def hour : Int := 60 * minute

/-- `t.After(u)`. -/
def after (t u : Int) : Bool := decide (u < t)

/-- `t.Before(u)`. -/
def before (t u : Int) : Bool := decide (t < u)

@[simp] theorem after_eq_true_iff (t u : Int) : after t u = true ↔ u < t := by simp [after]

@[simp] theorem after_eq_false_iff (t u : Int) : after t u = false ↔ t ≤ u := by simp [after]

@[simp] theorem before_eq_true_iff (t u : Int) : before t u = true ↔ t < u := by simp [before]

@[simp] theorem before_eq_false_iff (t u : Int) : before t u = false ↔ u ≤ t := by simp [before]

/-- Half of a duration that is not negative, rounded down. -/
theorem tdiv_two_eq_ediv {d : Int} (hd : 0 ≤ d) : Int.tdiv d 2 = d / 2 :=
  Int.tdiv_eq_ediv_of_nonneg hd

/-- `int(d.Seconds())`: the `float64` number of seconds, truncated.  The whole seconds of an `int64`
duration are exact in `float64`, and the rounding of the fraction can at most carry into the next whole
second, so a conversion is any function within these bounds. -/
structure SecondsConversion where
  seconds : Int → Int
  floor_le : ∀ d, 0 ≤ d → Int.tdiv d second ≤ seconds d
  le_floor_add_one : ∀ d, 0 ≤ d → seconds d ≤ Int.tdiv d second + 1

/-- The conversion that rounds the fraction down, as `float64` does unless the duration is both long and
within a microsecond of a whole second. -/
def SecondsConversion.truncating : SecondsConversion where
  seconds d := Int.tdiv d second
  floor_le _ _ := le_rfl
  le_floor_add_one _ _ := by omega

/-- The whole seconds of a duration miss less than one second of it. -/
theorem SecondsConversion.lt_seconds_add_one (conversion : SecondsConversion) {d : Int}
    (hd : 0 ≤ d) : d < conversion.seconds d * second + second := by
  have hfloor := conversion.floor_le d hd
  rw [Int.tdiv_eq_ediv_of_nonneg hd] at hfloor
  simp only [second] at hfloor ⊢
  omega

end Go
end Dmanager
