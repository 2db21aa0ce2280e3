import CallNotice.Text.Padded
import CallNotice.Time.Timestamp

namespace CallNotice.Timestamp

open Text (zeroPadded)

def yearChars (year : Int) : List Char :=
  if 0 ≤ year ∧ year ≤ 9999 then zeroPadded 4 year.toNat
  else (if year < 0 then '-' else '+') :: zeroPadded 4 year.natAbs

def dateChars (d : Date) : List Char :=
  yearChars d.year ++ '-' :: zeroPadded 2 d.month ++ '-' :: zeroPadded 2 d.day

def fractionChars (nanos : Nat) : List Char :=
  if nanos = 0 then []
  else if nanos % 1000000 = 0 then '.' :: zeroPadded 3 (nanos / 1000000)
  else if nanos % 1000 = 0 then '.' :: zeroPadded 6 (nanos / 1000)
  else '.' :: zeroPadded 9 nanos

def clockChars (t : Timestamp) : List Char :=
  zeroPadded 2 t.hour ++ ':' :: zeroPadded 2 t.minute ++ ':' :: zeroPadded 2 t.second ++
    fractionChars t.nanos

def momentChars (t : Timestamp) : List Char := dateChars t.date ++ 'T' :: t.clockChars

def toText (t : Timestamp) : String := String.ofList (t.momentChars ++ ['Z'])

def toOffsetText (t : Timestamp) : String :=
  String.ofList (t.momentChars ++ ['+', '0', '0', ':', '0', '0'])

def toMinuteText (t : Timestamp) : String :=
  String.ofList (dateChars t.date ++ ' ' :: zeroPadded 2 t.hour ++ ':' :: zeroPadded 2 t.minute)

end CallNotice.Timestamp
