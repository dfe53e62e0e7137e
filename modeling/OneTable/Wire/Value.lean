import OneTable.Text.Bytes
import OneTable.Value

/-!
# Values as the server sends them

Texts come as bytes, dates and durations in their parts. A date without a time of day is written
without one, and a fraction of a second is written only if it is not zero. The days of a duration
are written as hours.
-/

namespace OneTable.Wire

structure Timestamp where
  year : UInt16
  month : UInt8
  day : UInt8
  hour : UInt8
  minute : UInt8
  second : UInt8
  microsecond : UInt32
deriving DecidableEq, Repr

structure Duration where
  negative : Bool
  days : UInt32
  hours : UInt8
  minutes : UInt8
  seconds : UInt8
  microseconds : UInt32
deriving DecidableEq, Repr

inductive Value
  | null
  | bytes (bs : List UInt8)
  | int (n : Int64)
  | uint (n : UInt64)
  | float (x : Float32)
  | double (x : Float)
  | timestamp (t : Timestamp)
  | duration (d : Duration)

/-- Hours, minutes and seconds, with a fraction of the second unless it is zero. -/
def clockText (hours minutes seconds microseconds : Nat) : String :=
  let whole := Number.padded 2 hours ++ ":" ++ Number.padded 2 minutes ++ ":" ++
    Number.padded 2 seconds
  if microseconds = 0 then whole else whole ++ "." ++ Number.padded 6 microseconds

def Timestamp.dateText (t : Timestamp) : String :=
  Number.padded 4 t.year.toNat ++ "-" ++ Number.padded 2 t.month.toNat ++ "-" ++
    Number.padded 2 t.day.toNat

/-- The timestamp is the beginning of its day. -/
def Timestamp.isMidnight (t : Timestamp) : Bool :=
  t.hour == 0 && t.minute == 0 && t.second == 0 && t.microsecond == 0

def Timestamp.text (t : Timestamp) : String :=
  if t.isMidnight then t.dateText
  else
    t.dateText ++ " " ++
      clockText t.hour.toNat t.minute.toNat t.second.toNat t.microsecond.toNat

/-- All hours of the duration, in a word of 32 bits. -/
def Duration.totalHours (d : Duration) : UInt32 := d.hours.toUInt32 + d.days * 24

def Duration.text (d : Duration) : String :=
  (if d.negative then "-" else "") ++
    clockText d.totalHours.toNat d.minutes.toNat d.seconds.toNat d.microseconds.toNat

def Value.decoded : Value → OneTable.Value
  | .null => .null
  | .bytes bs => .text (Text.ofBytesLossy bs)
  | .int n => .int n
  | .uint n => .uint n
  | .float x => .float x.toFloat
  | .double x => .float x
  | .timestamp t => .text t.text
  | .duration d => .text d.text

end OneTable.Wire
