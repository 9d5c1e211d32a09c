import DeviceSecurity.Der.Element

/-!
# Times

Two forms of a time: with two digits of the year, meaning 1950 to 2049, or with four. Both name a
day of the calendar, a time of that day and a zone. `Time.seconds` counts from the start of 1970.
-/

namespace DeviceSecurity.Der

/-- A second of the calendar. -/
structure Time where
  year : Nat
  month : Nat
  day : Nat
  hour : Nat
  minute : Nat := 0
  second : Nat := 0
  /-- The minutes that its zone is ahead. -/
  zone : Int := 0
deriving DecidableEq, Repr

namespace Time

/-- Whether a year has a 29th of February. -/
def isLeap (year : Nat) : Bool := year % 4 == 0 && (year % 100 != 0 || year % 400 == 0)

/-- The number of days of a month. -/
def daysIn (year month : Nat) : Nat :=
  match month with
  | 2 => if isLeap year then 29 else 28
  | 4 | 6 | 9 | 11 => 30
  | _ => 31

/-- Whether the parts name a second of the calendar. -/
def isValid (t : Time) : Bool :=
  1 ≤ t.month && t.month ≤ 12 && 1 ≤ t.day && t.day ≤ daysIn t.year t.month && t.hour ≤ 23 &&
    t.minute ≤ 59 && t.second ≤ 59

/-- The number of days from the start of year 0 to the start of a year. -/
def daysBefore (year : Nat) : Nat :=
  365 * year + (year + 3) / 4 - (year + 99) / 100 + (year + 399) / 400

/-- The days since the start of 1970, negative before it. -/
def days (t : Time) : Int :=
  let months : Nat :=
    (List.range (t.month - 1)).foldl (fun total m => total + daysIn t.year (m + 1)) 0
  (daysBefore t.year + months + t.day : Int) - (daysBefore 1970 + 1)

/-- The seconds since the start of 1970, negative before it. -/
def seconds (t : Time) : Int :=
  t.days * 86400 + (t.hour * 3600 + t.minute * 60 + t.second : Nat) - t.zone * 60

/-! ## Reading -/

/-- The number that two digits spell. -/
def twoDigits? (a b : UInt8) : Option Nat :=
  let digit? (x : UInt8) : Option Nat :=
    if 0x30 ≤ x && x ≤ 0x39 then some (x.toNat - 0x30) else none
  do return (← digit? a) * 10 + (← digit? b)

/-- The month, day and hour of a year, and what follows. -/
def inDay? (year : Nat) : Bytes → Option (Time × Bytes)
  | m1 :: m2 :: d1 :: d2 :: h1 :: h2 :: rest => do
    return ({
      year, month := ← twoDigits? m1 m2, day := ← twoDigits? d1 d2, hour := ← twoDigits? h1 h2
    }, rest)
  | _ => none

/-- The two digits of the minutes. -/
def inHour? : Time × Bytes → Option (Time × Bytes)
  | (t, m1 :: m2 :: rest) => do return ({ t with minute := ← twoDigits? m1 m2 }, rest)
  | _ => none

/-- The two digits of the seconds; less than two bytes leave them out. -/
def seconds? (t : Time) : Bytes → Option (Time × Bytes)
  | s1 :: s2 :: rest => do return ({ t with second := ← twoDigits? s1 s2 }, rest)
  | rest => some (t, rest)

/-- The zone at the end of a time: `Z`, or the hours and minutes, at most 25 and 59, that it is
ahead or behind. -/
def zone? : Bytes → Option Int
  | [0x5a] => some 0
  | [sign, h1, h2, m1, m2] => do
    let hours ← twoDigits? h1 h2
    let minutes ← twoDigits? m1 m2
    if 25 < hours ∨ 59 < minutes then none
    else if sign = 0x2b then some (hours * 60 + minutes : Nat)
    else if sign = 0x2d then some (-(hours * 60 + minutes : Nat))
    else none
  | _ => none

/-- The seconds and the zone of a time, which must exist. -/
def finish? (t : Time) (rest : Bytes) : Option Time := do
  let zone ← zone? rest
  let t := { t with zone }
  if t.isValid then some t else none

/-- The time that the content of a `UTCTime` spells. -/
def ofUtc? : Bytes → Option Time
  | y1 :: y2 :: rest => do
    let y ← twoDigits? y1 y2
    let (t, rest) ← inHour? (← inDay? (if 50 ≤ y then 1900 + y else 2000 + y) rest)
    let (t, rest) ← seconds? t rest
    finish? t rest
  | _ => none

/-- The rest behind a fraction of a second, a point and at most three digits, if there is one. -/
def skipFraction? : Bytes → Option Bytes
  | 0x2e :: rest =>
    let digits := rest.takeWhile fun b => 0x30 ≤ b && b ≤ 0x39
    if 3 < digits.length then none else some (rest.drop digits.length)
  | rest => some rest

/-- The time that the content of a `GeneralizedTime` spells, which ends in `Z`. Its minutes and
seconds may be left out. -/
def ofGeneralized? (content : Bytes) : Option Time :=
  match content with
  | y1 :: y2 :: y3 :: y4 :: rest => do
    if content.getLast? ≠ some 0x5a then none
    let (t, rest) ← inDay? ((← twoDigits? y1 y2) * 100 + (← twoDigits? y3 y4)) rest
    let (t, rest) ← if rest.length < 2 then some (t, rest) else inHour? (t, rest)
    let (t, rest) ← seconds? t rest
    finish? t (← skipFraction? rest)
  | _ => none

/-- The time at the start of a byte string, in either form. -/
def read? (b : Bytes) : Option (Time × Bytes) := do
  let (e, rest) ← Element.read? b
  if e.hasTag tagUtcTime then return (← ofUtc? e.content, rest)
  if e.hasTag tagGeneralizedTime then return (← ofGeneralized? e.content, rest)
  none

end Time

end DeviceSecurity.Der
