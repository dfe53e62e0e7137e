import OneTable.Proofs.Sql.Reader
import OneTable.Wire.Value

/-!
# Dates and durations read back

A date has three written forms, without a time of day, with one, and with a fraction of the second;
a duration has two, with a sign in front if it is negative. Their readers take each part for a run
of digits, so a part that is wider than its place comes back too, and a part that is not written is
zero. Every date reads back whole, and every duration whose hours fit 32 bits comes back as its sign
and its parts, the days counted as hours (`moments_read_back`). So no two dates have one text, and
no two such durations that differ in one of these.
-/

namespace OneTable.Wire

open Sql

/-! ### Readers -/

structure Date where
  year : Nat
  month : Nat
  day : Nat
deriving DecidableEq, Repr

structure Clock where
  hours : Nat
  minutes : Nat
  seconds : Nat
  microseconds : Nat
deriving DecidableEq, Repr

/-- `h:m:s` or `h:m:s.us` up to the end. -/
def readClock (cs : List Char) : Option Clock := do
  let (h, cs) ← readDigits cs
  let cs ← skip [':'] cs
  let (m, cs) ← readDigits cs
  let cs ← skip [':'] cs
  let (s, cs) ← readDigits cs
  match cs with
  | [] => some ⟨h, m, s, 0⟩
  | '.' :: cs =>
    let (us, cs) ← readDigits cs
    if cs.isEmpty then some ⟨h, m, s, us⟩ else none
  | _ => none

/-- `Y-M-D`, or the same and a clock behind a blank. -/
def readTimestamp (cs : List Char) : Option (Date × Clock) := do
  let (y, cs) ← readDigits cs
  let cs ← skip ['-'] cs
  let (m, cs) ← readDigits cs
  let cs ← skip ['-'] cs
  let (d, cs) ← readDigits cs
  match cs with
  | [] => some (⟨y, m, d⟩, ⟨0, 0, 0, 0⟩)
  | ' ' :: cs => (readClock cs).map fun c => (⟨y, m, d⟩, c)
  | _ => none

/-- A clock, and whether a sign stands before it. -/
def readDuration : List Char → Option (Bool × Clock)
  | '-' :: cs => (readClock cs).map fun c => (true, c)
  | cs => (readClock cs).map fun c => (false, c)

/-! ### What they read -/

theorem readDigits_padded (width n : Nat) {rest : List Char} (h : EndsNumber rest) :
    readDigits ((Number.padded width n).toList ++ rest) = some (n, rest) := by
  rw [readDigits_append (Number.toList_padded_ne_nil width n) (Number.isDigit_padded width n) h,
    Number.natOfDigits_padded]

/-- A number and a mark behind it, where the mark is no digit. -/
theorem readDigits_padded_cons (width n : Nat) {c : Char} (hc : c.isDigit = false)
    (rest : List Char) :
    readDigits ((Number.padded width n).toList ++ c :: rest) = some (n, c :: rest) :=
  readDigits_padded width n (endsNumber_cons hc rest)

theorem readDigits_padded_nil (width n : Nat) :
    readDigits (Number.padded width n).toList = some (n, []) := by
  simpa using readDigits_padded width n endsNumber_nil

theorem readClock_clockText (h m s us : Nat) :
    readClock (clockText h m s us).toList = some ⟨h, m, s, us⟩ := by
  have hcolon := fun width n => readDigits_padded_cons width n (c := ':') rfl
  have hpoint := fun width n => readDigits_padded_cons width n (c := '.') rfl
  rw [clockText]
  split
  · rename_i hus
    subst hus
    simp [readClock, hcolon, readDigits_padded_nil]
  · simp [readClock, hcolon, hpoint, readDigits_padded_nil]

/-! ### Dates -/

namespace Timestamp

variable {t t' : Timestamp}

def date (t : Timestamp) : Date := ⟨t.year.toNat, t.month.toNat, t.day.toNat⟩

def clock (t : Timestamp) : Clock :=
  ⟨t.hour.toNat, t.minute.toNat, t.second.toNat, t.microsecond.toNat⟩

/-- A date and a clock are one timestamp. -/
theorem eq_of_parts (hdate : t.date = t'.date) (hclock : t.clock = t'.clock) : t = t' := by
  cases t
  cases t'
  simp only [date, clock, Date.mk.injEq, Clock.mk.injEq, UInt8.toNat_inj, UInt16.toNat_inj,
    UInt32.toNat_inj] at hdate hclock
  simp only [hdate, hclock]

theorem clock_of_isMidnight (h : t.isMidnight = true) : t.clock = ⟨0, 0, 0, 0⟩ := by
  simp only [isMidnight, Bool.and_eq_true, beq_iff_eq] at h
  obtain ⟨⟨⟨hh, hm⟩, hs⟩, hus⟩ := h
  rw [clock, hh, hm, hs, hus]
  rfl

theorem readTimestamp_text (t : Timestamp) :
    readTimestamp t.text.toList = some (t.date, t.clock) := by
  have hhyphen := fun width n => readDigits_padded_cons width n (c := '-') rfl
  have hblank := fun width n => readDigits_padded_cons width n (c := ' ') rfl
  rw [text]
  split
  · rename_i hmidnight
    rw [clock_of_isMidnight hmidnight]
    simp [readTimestamp, dateText, date, hhyphen, readDigits_padded_nil]
  · simp [readTimestamp, dateText, date, clock, hhyphen, hblank, readClock_clockText]

theorem text_injective : Function.Injective text := by
  intro t t' h
  have hread := readTimestamp_text t
  rw [h, readTimestamp_text, Option.some_inj, Prod.mk.injEq] at hread
  exact eq_of_parts hread.1.symm hread.2.symm

end Timestamp

/-! ### Durations -/

namespace Duration

variable {d d' : Duration}

/-- The hours of a duration, its days counted as hours. -/
def hoursInAll (d : Duration) : Nat := d.days.toNat * 24 + d.hours.toNat

def clock (d : Duration) : Clock :=
  ⟨d.hoursInAll, d.minutes.toNat, d.seconds.toNat, d.microseconds.toNat⟩

theorem toNat_totalHours (h : d.hoursInAll < UInt32.size) : d.totalHours.toNat = d.hoursInAll := by
  have h24 : (24 : UInt32).toNat = 24 := rfl
  have hsize : UInt32.size = 4294967296 := rfl
  rw [hoursInAll] at h ⊢
  simp only [totalHours, UInt32.toNat_add, UInt32.toNat_mul, UInt8.toNat_toUInt32, h24]
  omega

/-- The text of a duration shows its sign and its clock. -/
theorem text_eq (h : d.hoursInAll < UInt32.size) :
    d.text = (if d.negative then "-" else "") ++
      clockText d.clock.hours d.clock.minutes d.clock.seconds d.clock.microseconds := by
  rw [text, toNat_totalHours h]
  rfl

theorem readDuration_clockText (h m s us : Nat) :
    readDuration (clockText h m s us).toList = some (false, ⟨h, m, s, us⟩) := by
  have hread := readClock_clockText h m s us
  rw [readDuration, hread]
  · rfl
  · -- a clock begins with a digit
    intro cs hcs
    simp [hcs, readClock, readDigits] at hread

theorem readDuration_text (h : d.hoursInAll < UInt32.size) :
    readDuration d.text.toList = some (d.negative, d.clock) := by
  rw [text_eq h]
  cases d.negative with
  | true => simp [readDuration, readClock_clockText]
  | false => simp [readDuration_clockText]

/-- Durations of one text are alike in sign and clock, and the other way round. -/
theorem text_eq_iff (h : d.hoursInAll < UInt32.size) (h' : d'.hoursInAll < UInt32.size) :
    d.text = d'.text ↔ d.negative = d'.negative ∧ d.clock = d'.clock := by
  constructor
  · intro htext
    have hread := readDuration_text h
    rw [htext, readDuration_text h', Option.some_inj, Prod.mk.injEq] at hread
    exact ⟨hread.1.symm, hread.2.symm⟩
  · rintro ⟨hsign, hclock⟩
    rw [text_eq h, text_eq h', hsign, hclock]

end Duration

/-- A date of the server reads back from its text with all its parts, and so does a duration whose
hours in all fit 32 bits, as its sign and its clock. So a text stands for one date, and for
durations alike in sign and clock only. -/
theorem moments_read_back :
    (∀ t : Timestamp, ∃ s, (Value.timestamp t).decoded = .text s ∧
      readTimestamp s.toList = some (t.date, t.clock)) ∧
    (∀ d : Duration, d.hoursInAll < UInt32.size → ∃ s, (Value.duration d).decoded = .text s ∧
      readDuration s.toList = some (d.negative, d.clock)) ∧
    (∀ t t' : Timestamp, (Value.timestamp t).decoded = (Value.timestamp t').decoded → t = t') ∧
    ∀ d d' : Duration, d.hoursInAll < UInt32.size → d'.hoursInAll < UInt32.size →
      ((Value.duration d).decoded = (Value.duration d').decoded ↔
        d.negative = d'.negative ∧ d.clock = d'.clock) := by
  refine ⟨fun t => ⟨t.text, rfl, t.readTimestamp_text⟩,
    fun d hd => ⟨d.text, rfl, Duration.readDuration_text hd⟩, fun t t' h => ?_,
    fun d d' hd hd' => ?_⟩
  · exact Timestamp.text_injective (Value.text.inj h)
  · rw [← Duration.text_eq_iff hd hd']
    exact ⟨Value.text.inj, congrArg _⟩

/-- The last duration whose hours fit 32 bits, with parts wider than their places, and a date whose
parts are; one microsecond tells two dates apart. -/
theorem moments_read_back_wide :
    let t : Timestamp := ⟨10000, 255, 0, 0, 0, 0, 4294967295⟩
    let d : Duration := ⟨true, 178956970, 15, 255, 0, 7⟩
    readTimestamp "10000-255-00 00:00:00.4294967295".toList =
      some (⟨10000, 255, 0⟩, ⟨0, 0, 0, 4294967295⟩) ∧
    d.hoursInAll < UInt32.size ∧
    readDuration "-4294967295:255:00.000007".toList = some (true, ⟨4294967295, 255, 0, 7⟩) ∧
    (Value.timestamp t).decoded ≠ (Value.timestamp { t with microsecond := 4294967294 }).decoded := by
  intro t d
  have hhours : d.hoursInAll < UInt32.size := by decide
  have hclock : d.clock = ⟨4294967295, 255, 0, 7⟩ := by decide
  obtain ⟨hdates, hdurations, hinj, -⟩ := moments_read_back
  obtain ⟨s, hs, hread⟩ := hdates t
  obtain ⟨s', hs', hread'⟩ := hdurations d hhours
  obtain rfl : "10000-255-00 00:00:00.4294967295" = s := by
    rw [← Value.text.inj hs]
    decide
  obtain rfl : "-4294967295:255:00.000007" = s' := by
    rw [← Value.text.inj hs']
    decide
  refine ⟨hread, hhours, hclock ▸ hread', fun h => ?_⟩
  exact absurd (congrArg Timestamp.microsecond (hinj t _ h)) (by decide)

end OneTable.Wire
