import Dmanager.Go.Calendar

/-!
# The layout `time.RFC3339Nano`

`parsesRFC3339Nano` says which texts `time.Parse` accepts for this layout, field by field: the hour may have one
digit, a fraction of any length may follow the seconds, and the zone is `Z` or an offset.  The instant that a text
denotes is not computed; the program only asks whether there is one.
-/

namespace Dmanager
namespace Go

/-! ## Fields -/

/-- A decimal digit. -/
def isDigit (b : UInt8) : Bool := 0x30 ≤ b && b ≤ 0x39

/-- The value of a digit. -/
def digitValue (b : UInt8) : Nat := b.toNat - 0x30

/-- `getnum`: a number of two digits, or, if the width is not fixed, of one. -/
def getnum (fixed : Bool) : GoString → Option (Nat × GoString)
  | [] => none
  | [a] => if isDigit a && !fixed then some (digitValue a, []) else none
  | a :: b :: rest =>
      if isDigit a then
        if isDigit b then some (10 * digitValue a + digitValue b, rest)
        else if fixed then none
        else some (digitValue a, b :: rest)
      else none

/-- A year of four digits. -/
def getYear : GoString → Option (Nat × GoString)
  | a :: b :: c :: d :: rest =>
      if isDigit a && isDigit b && isDigit c && isDigit d then
        some (1000 * digitValue a + 100 * digitValue b + 10 * digitValue c + digitValue d, rest)
      else none
  | _ => none

/-- A byte of the layout itself. -/
def skip (c : UInt8) : GoString → Option GoString
  | [] => none
  | b :: rest => if b = c then some rest else none

/-- A fraction of a second, if there is one: a period or a comma, and digits. -/
def skipFraction : GoString → GoString
  | sep :: d :: rest => if (sep = 0x2E ∨ sep = 0x2C) ∧ isDigit d then rest.dropWhile isDigit else sep :: d :: rest
  | s => s

/-- The zone: `Z`, or a sign, hours and minutes.  Offsets of 24 hours and of 60 minutes are accepted. -/
def skipZone : GoString → Option GoString
  | 0x5A :: rest => some rest
  | sign :: h₁ :: h₂ :: colon :: m₁ :: m₂ :: rest => do
      guard (colon = 0x3A)
      let (hr, _) ← getnum true [h₁, h₂]
      let (mm, _) ← getnum true [m₁, m₂]
      guard (hr ≤ 24 ∧ mm ≤ 60 ∧ (sign = 0x2B ∨ sign = 0x2D))
      return rest
  | _ => none

/-- `daysIn(month, year)`. -/
def daysIn (month year : Nat) : Nat :=
  if month = 2 then if leap year then 29 else 28
  else if month = 4 ∨ month = 6 ∨ month = 9 ∨ month = 11 then 30
  else 31

/-! ## Texts -/

/-- What follows the time in a text that `time.Parse(time.RFC3339Nano, value)` accepts up to there. -/
def parseRFC3339Nano (value : GoString) : Option GoString := do
  let (year, value) ← getYear value
  let value ← skip 0x2D value
  let (month, value) ← getnum true value
  guard (1 ≤ month ∧ month ≤ 12)
  let value ← skip 0x2D value
  let (day, value) ← getnum true value
  guard (1 ≤ day ∧ day ≤ daysIn month year)
  let value ← skip 0x54 value
  let (hour, value) ← getnum false value
  guard (hour < 24)
  let value ← skip 0x3A value
  let (min, value) ← getnum true value
  guard (min < 60)
  let value ← skip 0x3A value
  let (sec, value) ← getnum true value
  guard (sec < 60)
  skipZone (skipFraction value)

/-- `time.Parse(time.RFC3339Nano, value)` returns no error. -/
def parsesRFC3339Nano (value : GoString) : Bool := parseRFC3339Nano value = some []

/-- The empty text is no time. -/
theorem not_parsesRFC3339Nano_nil : parsesRFC3339Nano [] = false := by decide

example : parsesRFC3339Nano (str "2026-07-04T12:00:00.000000000Z") = true := by decide +kernel

example : parsesRFC3339Nano (str "2026-02-29T12:00:00Z") = false := by decide +kernel

end Go
end Dmanager
