namespace BuildWatch

def firstYear : Int := -262143

def lastYear : Int := 262142

def isLeapYear (year : Int) : Bool :=
  year % 4 == 0 && (year % 100 != 0 || year % 400 == 0)

def daysInMonth (year : Int) (month : Nat) : Nat :=
  if month = 2 then if isLeapYear year then 29 else 28
  else if month = 4 ∨ month = 6 ∨ month = 9 ∨ month = 11 then 30
  else if 1 ≤ month ∧ month ≤ 12 then 31
  else 0

structure Date where
  year : Int
  month : Nat
  day : Nat
  year_mem : firstYear ≤ year ∧ year ≤ lastYear
  month_mem : 1 ≤ month ∧ month ≤ 12
  day_mem : 1 ≤ day ∧ day ≤ daysInMonth year month
  deriving DecidableEq, Repr

namespace Date

def of? (year : Int) (month day : Nat) : Option Date :=
  if hy : firstYear ≤ year ∧ year ≤ lastYear then
    if hm : 1 ≤ month ∧ month ≤ 12 then
      if hd : 1 ≤ day ∧ day ≤ daysInMonth year month then some ⟨year, month, day, hy, hm, hd⟩
      else none
    else none
  else none

def next? (date : Date) : Option Date :=
  match of? date.year date.month (date.day + 1) with
  | some next => some next
  | none =>
    match of? date.year (date.month + 1) 1 with
    | some next => some next
    | none => of? (date.year + 1) 1 1

def previous? (date : Date) : Option Date :=
  match of? date.year date.month (date.day - 1) with
  | some previous => some previous
  | none =>
    match of? date.year (date.month - 1) (daysInMonth date.year (date.month - 1)) with
    | some previous => some previous
    | none => of? (date.year - 1) 12 31

theorem of?_eq_some (date : Date) : of? date.year date.month date.day = some date := by
  simp [of?, date.year_mem, date.month_mem, date.day_mem]

end Date

structure Instant where
  date : Date
  hour : Nat
  minute : Nat
  second : Nat
  nanosecond : Nat
  hour_lt : hour < 24
  minute_lt : minute < 60
  second_le : second ≤ 60
  nanosecond_lt : nanosecond < 1000000000
  deriving DecidableEq, Repr

namespace Instant

def of? (date : Date) (hour minute second nanosecond : Nat) : Option Instant :=
  if h : hour < 24 ∧ minute < 60 ∧ second ≤ 60 ∧ nanosecond < 1000000000 then
    some ⟨date, hour, minute, second, nanosecond, h.1, h.2.1, h.2.2.1, h.2.2.2⟩
  else none

theorem of?_eq_some (instant : Instant) :
    of? instant.date instant.hour instant.minute instant.second instant.nanosecond =
      some instant := by
  rw [of?, dif_pos ⟨instant.hour_lt, instant.minute_lt, instant.second_le, instant.nanosecond_lt⟩]

/-- Moves an instant by some minutes, less than a day in either direction. Seconds stay as they
are, so a leap second stays one. -/
def shift? (instant : Instant) (minutes : Int) : Option Instant :=
  let total : Int := (instant.hour * 60 + instant.minute : Nat) + minutes
  let place (date : Date) (minutes : Int) : Option Instant :=
    of? date (minutes / 60).toNat (minutes % 60).toNat instant.second instant.nanosecond
  if total < 0 then instant.date.previous?.bind fun date => place date (total + 1440)
  else if total < 1440 then place instant.date total
  else instant.date.next?.bind fun date => place date (total - 1440)

theorem shift?_zero (instant : Instant) : instant.shift? 0 = some instant := by
  have hour := instant.hour_lt
  have minute := instant.minute_lt
  have whole : ((instant.hour * 60 + instant.minute : Nat) + (0 : Int)) / 60 = instant.hour := by
    omega
  have rest : ((instant.hour * 60 + instant.minute : Nat) + (0 : Int)) % 60 = instant.minute := by
    omega
  simp only [shift?, whole, rest, Int.toNat_natCast]
  rw [if_neg (by omega), if_pos (by omega)]
  exact instant.of?_eq_some

end Instant

end BuildWatch
