import BuildWatch.Instant.Basic

namespace BuildWatch.Instant

def padded (width n : Nat) : List Char :=
  let digits := Nat.toDigits 10 n
  List.replicate (width - digits.length) '0' ++ digits

def yearText (year : Int) : List Char :=
  if 0 ≤ year ∧ year ≤ 9999 then padded 4 year.toNat
  else (if year < 0 then '-' else '+') :: padded 4 year.natAbs

def dateText (date : Date) : List Char :=
  yearText date.year ++ '-' :: padded 2 date.month ++ '-' :: padded 2 date.day

def timeText (instant : Instant) : List Char :=
  padded 2 instant.hour ++ ':' :: padded 2 instant.minute ++ ':' :: padded 2 instant.second

def fractionText (nanosecond : Nat) : List Char :=
  if nanosecond = 0 then []
  else if nanosecond % 1000000 = 0 then '.' :: padded 3 (nanosecond / 1000000)
  else if nanosecond % 1000 = 0 then '.' :: padded 6 (nanosecond / 1000)
  else '.' :: padded 9 nanosecond

def timestamp (instant : Instant) : String :=
  String.ofList (dateText instant.date ++ 'T' :: timeText instant ++
    fractionText instant.nanosecond ++ ['Z'])

def brief (instant : Instant) : String :=
  String.ofList (dateText instant.date ++ ' ' :: timeText instant)

end BuildWatch.Instant
