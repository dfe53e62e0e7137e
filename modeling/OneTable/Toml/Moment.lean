import OneTable.Number.Integer

/-!
# Dates and times

A moment is a date, a time of day, or both, and both can carry an offset from universal time. Dates
are those of the Gregorian calendar, and the second of a minute may be the sixtieth. Of the
fraction of a second nine digits count.

A moment is written with `T` between date and time and without the zeros at the end of the
fraction.
-/

namespace OneTable

structure Date where
  year : Nat
  month : Nat
  day : Nat
deriving DecidableEq, Repr

structure TimeOfDay where
  hour : Nat
  minute : Nat
  second : Nat
  nanosecond : Nat
deriving DecidableEq, Repr

inductive TimeOffset
  | utc
  | minutes (n : Int)
deriving DecidableEq, Repr

inductive Moment
  | date (d : Date)
  | time (t : TimeOfDay)
  | dateTime (d : Date) (t : TimeOfDay) (offset : Option TimeOffset)
deriving DecidableEq, Repr

def Date.isLeap (year : Nat) : Bool := year % 4 == 0 && (year % 100 != 0 || year % 400 == 0)

def Date.daysIn (year month : Nat) : Nat :=
  if month == 2 then (if isLeap year then 29 else 28)
  else if month == 4 || month == 6 || month == 9 || month == 11 then 30
  else 31

def Date.isValid (d : Date) : Bool :=
  1 ≤ d.month && d.month ≤ 12 && 1 ≤ d.day && d.day ≤ daysIn d.year d.month

def TimeOfDay.isValid (t : TimeOfDay) : Bool := t.hour ≤ 23 && t.minute ≤ 59 && t.second ≤ 60

/-! ### Writing -/

def Date.text (d : Date) : String :=
  Number.padded 4 d.year ++ "-" ++ Number.padded 2 d.month ++ "-" ++ Number.padded 2 d.day

/-- A fraction of a second with its point, or nothing. -/
def TimeOfDay.fractionText (t : TimeOfDay) : String :=
  if t.nanosecond = 0 then ""
  else
    let ds := (Number.padded 9 t.nanosecond).toList
    "." ++ String.ofList (ds.reverse.dropWhile (· == '0')).reverse

def TimeOfDay.text (t : TimeOfDay) : String :=
  Number.padded 2 t.hour ++ ":" ++ Number.padded 2 t.minute ++ ":" ++ Number.padded 2 t.second ++
    t.fractionText

def TimeOffset.text : TimeOffset → String
  | .utc => "Z"
  | .minutes n =>
    (if n < 0 then "-" else "+") ++ Number.padded 2 (n.natAbs / 60) ++ ":" ++
      Number.padded 2 (n.natAbs % 60)

def Moment.text : Moment → String
  | .date d => d.text
  | .time t => t.text
  | .dateTime d t offset => d.text ++ "T" ++ t.text ++ (offset.map TimeOffset.text).getD ""

/-! ### Reading -/

/-- The number of a run of digits of fixed length. -/
def digits? (ds : List Char) : Option Nat :=
  if ds.all Char.isDigit then some (Number.natOfDigits ds) else none

/-- A date, and what follows it. -/
def Date.read? : List Char → Option (Date × List Char)
  | a :: b :: c :: d :: '-' :: e :: f :: '-' :: g :: h :: rest => do
    let date : Date := ⟨← digits? [a, b, c, d], ← digits? [e, f], ← digits? [g, h]⟩
    if date.isValid then some (date, rest) else none
  | _ => none

/-- A fraction behind its point, in billionths, and what follows it. -/
def fraction? (cs : List Char) : Option (Nat × List Char) :=
  let ds := cs.takeWhile Char.isDigit
  let kept := ds.take 9
  if ds.isEmpty then none
  else
    some (Number.natOfDigits (kept ++ List.replicate (9 - kept.length) '0'),
      cs.dropWhile Char.isDigit)

/-- A time of day, and what follows it. The seconds may be left out. -/
def TimeOfDay.read? : List Char → Option (TimeOfDay × List Char)
  | a :: b :: ':' :: c :: d :: rest => do
    let hour ← digits? [a, b]
    let minute ← digits? [c, d]
    let (second, nanosecond, rest) ← match rest with
      | ':' :: e :: f :: '.' :: rest => do
        let (nanosecond, rest) ← fraction? rest
        some (← digits? [e, f], nanosecond, rest)
      | ':' :: e :: f :: rest => do some (← digits? [e, f], 0, rest)
      | rest => some (0, 0, rest)
    let time : TimeOfDay := ⟨hour, minute, second, nanosecond⟩
    if time.isValid then some (time, rest) else none
  | _ => none

/-- An offset with nothing behind it. -/
def TimeOffset.read? : List Char → Option TimeOffset
  | ['Z'] | ['z'] => some .utc
  | [sign, a, b, ':', c, d] => do
    let hour ← digits? [a, b]
    let minute ← digits? [c, d]
    let n := Int.ofNat (hour * 60 + minute)
    if 23 < hour || 59 < minute then none
    else if sign == '+' then some (.minutes n)
    else if sign == '-' then some (.minutes (-n))
    else none
  | _ => none

/-- Between a date and a time stands a `T` in either case or a space. -/
def isDateEnd (c : Char) : Bool := c == 'T' || c == 't' || c == ' '

/-- A moment with nothing behind it. -/
def Moment.read? (cs : List Char) : Option Moment :=
  match Date.read? cs with
  | some (d, []) => some (.date d)
  | some (d, c :: rest) =>
    if isDateEnd c then
      match TimeOfDay.read? rest with
      | some (t, []) => some (.dateTime d t none)
      | some (t, rest) => (TimeOffset.read? rest).map fun o => .dateTime d t (some o)
      | none => none
    else none
  | none =>
    match TimeOfDay.read? cs with
    | some (t, []) => some (.time t)
    | _ => none

end OneTable
