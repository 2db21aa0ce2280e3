import CallNotice.Time.Date

namespace CallNotice

structure Timestamp where
  date : Date
  hour : Nat
  minute : Nat
  second : Nat
  nanos : Nat
  valid : hour < 24 ∧ minute < 60 ∧ second ≤ 60 ∧ nanos < 1000000000
  deriving DecidableEq

namespace Timestamp

def of? (date : Date) (hour minute second nanos : Nat) : Option Timestamp :=
  if h : hour < 24 ∧ minute < 60 ∧ second ≤ 60 ∧ nanos < 1000000000 then
    some ⟨date, hour, minute, second, nanos, h⟩
  else none

def key (t : Timestamp) : Int :=
  (((((t.date.year * 13 + t.date.month) * 32 + t.date.day) * 24 + t.hour) * 60 + t.minute) * 61 +
    t.second) * 1000000000 + t.nanos

def notAfter (t u : Timestamp) : Bool := decide (t.key ≤ u.key)

def earlierBy? (t : Timestamp) (minutes : Int) : Option Timestamp :=
  let shown : Int := t.hour * 60 + t.minute - minutes
  let inDay := (shown % 1440).toNat
  (t.date.shifted? (shown / 1440)).bind fun date =>
    of? date (inDay / 60) (inDay % 60) t.second t.nanos

theorem of?_self (t : Timestamp) : of? t.date t.hour t.minute t.second t.nanos = some t :=
  dif_pos t.valid

theorem earlierBy?_zero (t : Timestamp) : t.earlierBy? 0 = some t := by
  obtain ⟨h, m, -, -⟩ := t.valid
  have hs : ((t.hour : Int) * 60 + t.minute - 0) / 1440 = 0 := by omega
  have hm : ((t.hour : Int) * 60 + t.minute - 0) % 1440 = t.hour * 60 + t.minute := by omega
  have hd : ((t.hour : Int) * 60 + t.minute).toNat / 60 = t.hour := by omega
  have hr : ((t.hour : Int) * 60 + t.minute).toNat % 60 = t.minute := by omega
  simp only [earlierBy?, hs, hm, hd, hr, Date.shifted?]
  exact t.of?_self

end Timestamp

end CallNotice
