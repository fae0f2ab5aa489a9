import UtilityCss.Fault

namespace UtilityCss

namespace Moment

def isLeap (year : Nat) : Bool :=
  year % 4 = 0 && (year % 100 ≠ 0 || year % 400 = 0)

def daysIn (year month : Nat) : Nat :=
  if month = 2 then if isLeap year then 29 else 28
  else if [4, 6, 9, 11].contains month then 30
  else 31

def badDay? (y m d : Nat) : Option CalendarPart :=
  if y = 0 || 9999 < y then some (.year y)
  else if m = 0 || 12 < m then some .month
  else if d = 0 || daysIn y m < d then some .day
  else none

def badClock? (h m s : Nat) : Option CalendarPart :=
  if 23 < h then some .hour
  else if 59 < m then some .minute
  else if 59 < s then some .second
  else none

def bad? : Moment → Option CalendarPart
  | day y m d => badDay? y m d
  | instant y m d h n s _ _ => (badDay? y m d).orElse fun _ => badClock? h n s
  | clock h m s _ => badClock? h m s

def check (m : Moment) : Except Fault Moment :=
  match m.bad? with
  | some part => .error (.outOfRange part)
  | none => .ok m

end Moment

end UtilityCss
