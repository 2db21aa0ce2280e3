/-!
Days of the Gregorian calendar, carried back before its beginning, with a year zero. The years are
bounded, so the day before the first and the day after the last do not exist.
-/

namespace CallNotice

namespace Calendar

def minYear : Int := -262143

def maxYear : Int := 262142

def isLeap (year : Int) : Bool := year % 4 = 0 && (year % 100 ≠ 0 || year % 400 = 0)

def daysIn (year : Int) (month : Nat) : Nat :=
  match month with
  | 2 => if isLeap year then 29 else 28
  | 4 | 6 | 9 | 11 => 30
  | _ => 31

def Valid (year : Int) (month day : Nat) : Prop :=
  minYear ≤ year ∧ year ≤ maxYear ∧ 1 ≤ month ∧ month ≤ 12 ∧ 1 ≤ day ∧ day ≤ daysIn year month

instance (year : Int) (month day : Nat) : Decidable (Valid year month day) := by
  unfold Valid; infer_instance

end Calendar

structure Date where
  year : Int
  month : Nat
  day : Nat
  valid : Calendar.Valid year month day
  deriving DecidableEq

namespace Date

open Calendar

def of? (year : Int) (month day : Nat) : Option Date :=
  if h : Valid year month day then some ⟨year, month, day, h⟩ else none

def next? (d : Date) : Option Date :=
  if d.day < daysIn d.year d.month then of? d.year d.month (d.day + 1)
  else if d.month < 12 then of? d.year (d.month + 1) 1
  else of? (d.year + 1) 1 1

def previous? (d : Date) : Option Date :=
  if 1 < d.day then of? d.year d.month (d.day - 1)
  else if 1 < d.month then of? d.year (d.month - 1) (daysIn d.year (d.month - 1))
  else of? (d.year - 1) 12 31

def shifted? (d : Date) (shift : Int) : Option Date :=
  if shift < 0 then d.previous? else if 0 < shift then d.next? else some d

theorem of?_self (d : Date) : of? d.year d.month d.day = some d := dif_pos d.valid

end Date

end CallNotice
