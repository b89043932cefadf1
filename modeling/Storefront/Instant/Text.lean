import Storefront.Instant.Basic
import Storefront.Text.Digits

/-!
The written form of instants: RFC 3339 in UTC. The fraction of a second is left out when it is
zero, and has three, six or nine digits otherwise. A leap second is written as second 60.
-/

namespace Storefront.Instant

/-- Days from 1970-01-01 to a date of the proleptic Gregorian calendar. Years are counted from
March, so that the leap day ends one, in cycles of 400. -/
def daysOfDate (year month day : Int) : Int :=
  let y := if month ≤ 2 then year - 1 else year
  let cycle := y / 400
  let yearOfCycle := y % 400
  let dayOfYear := (153 * ((month + 9) % 12) + 2) / 5 + day - 1
  cycle * 146097 + yearOfCycle * 365 + yearOfCycle / 4 - yearOfCycle / 100 + dayOfYear - 719468

/-- The date that lies a number of days after 1970-01-01, as year, month and day. -/
def dateOfDays (days : Int) : Int × Int × Int :=
  let d := days + 719468
  let cycle := d / 146097
  let dayOfCycle := d % 146097
  let yearOfCycle :=
    (dayOfCycle - dayOfCycle / 1460 + dayOfCycle / 36524 - dayOfCycle / 146096) / 365
  let dayOfYear := dayOfCycle - (365 * yearOfCycle + yearOfCycle / 4 - yearOfCycle / 100)
  let m := (5 * dayOfYear + 2) / 153
  let month := if m < 10 then m + 3 else m - 9
  (cycle * 400 + yearOfCycle + (if month ≤ 2 then 1 else 0), month,
    dayOfYear - (153 * m + 2) / 5 + 1)

/-- Reads exactly `width` digits. -/
def takeNumber? (width : Nat) (cs : List Char) : Option (Int × List Char) := do
  let digits := cs.take width
  if digits.length < width then none
  else
    let n ← Text.natural? digits
    some (n, cs.drop width)

/-- Reads one character out of `allowed`. -/
def takeMark? (allowed : List Char) : List Char → Option (List Char)
  | [] => none
  | c :: rest => if c ∈ allowed then some rest else none

/-- Reads an optional point and up to nine digits, as nanoseconds. -/
def takeFraction? : List Char → Option (Nat × List Char)
  | '.' :: rest => do
    let digits := rest.takeWhile Char.isDigit
    let n ← Text.natural? digits
    if digits.length ≤ 9 then some (n * tenTo (9 - digits.length), rest.dropWhile Char.isDigit)
    else none
  | rest => some (0, rest)

def ofText? (text : String) : Option Instant := do
  let (year, cs) ← takeNumber? 4 text.toList
  let (month, cs) ← takeNumber? 2 (← takeMark? ['-'] cs)
  let (day, cs) ← takeNumber? 2 (← takeMark? ['-'] cs)
  let (hour, cs) ← takeNumber? 2 (← takeMark? ['T', 't', ' '] cs)
  let (minute, cs) ← takeNumber? 2 (← takeMark? [':'] cs)
  let (second, cs) ← takeNumber? 2 (← takeMark? [':'] cs)
  let (fraction, cs) ← takeFraction? cs
  let rest ← takeMark? ['Z', 'z'] cs
  if rest.isEmpty then
    let start := daysOfDate year month day * 86400 + hour * 3600 + minute * 60
    if second = 60 then some ⟨start + 59, perSecond + fraction⟩
    else some ⟨start + second, fraction⟩
  else none

/-- The fraction of a second, in the fewest groups of three digits. -/
def fractionText (nanoseconds : Nat) : String :=
  if nanoseconds = 0 then ""
  else if nanoseconds % 1_000_000 = 0 then
    "." ++ String.ofList (Text.fixedDigits 10 3 (nanoseconds / 1_000_000))
  else if nanoseconds % 1_000 = 0 then
    "." ++ String.ofList (Text.fixedDigits 10 6 (nanoseconds / 1_000))
  else "." ++ String.ofList (Text.fixedDigits 10 9 nanoseconds)

def render (t : Instant) : String :=
  let (year, month, day) := dateOfDays (t.second / 86400)
  let clock := (t.second % 86400).toNat
  let two (n : Nat) : String := String.ofList (Text.fixedDigits 10 2 n)
  String.ofList (Text.fixedDigits 10 4 year.toNat) ++ "-" ++ two month.toNat ++ "-" ++
    two day.toNat ++ "T" ++ two (clock / 3600) ++ ":" ++ two (clock / 60 % 60) ++ ":" ++
    two (clock % 60 + t.nanosecond / perSecond) ++ fractionText (t.nanosecond % perSecond) ++ "Z"

example : (ofText? "2024-02-29T23:59:59.5Z").map render = some "2024-02-29T23:59:59.500Z" := by
  decide +kernel

example : (ofText? "2016-12-31T23:59:60.25Z").map render = some "2016-12-31T23:59:60.250Z" := by
  decide +kernel

end Storefront.Instant
