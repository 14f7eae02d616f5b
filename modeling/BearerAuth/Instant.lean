import BearerAuth.Binary64.Basic

/-!
# Instants

Points of time are counted in seconds from the start of 1970 and nanoseconds within the second, over
the range of a calendar with years of six digits.  The last second of a minute may be followed by a
leap second, which has no number of its own and is counted as a second thousand million of
nanoseconds.  Away from leap seconds `Instant.toNanos` is the view that comparisons and sums go
through: exact, unbounded whole numbers.
-/

namespace BearerAuth

/-- The first second of the calendar. -/
def Instant.firstSecond : Int := -8334601228800

/-- The last second of the calendar. -/
def Instant.lastSecond : Int := 8210266876799

/-- How many nanoseconds a second has. -/
def Instant.perSecond : Nat := 1000000000

/-- Whether a number of nanoseconds may be counted within a second: it is less than a second, or
less than two in the last second of a minute. -/
def Instant.Within (seconds : Int) (nanos : Nat) : Prop :=
  nanos < perSecond ∨ (nanos < 2 * perSecond ∧ seconds % 60 = 59)

instance (seconds : Int) (nanos : Nat) : Decidable (Instant.Within seconds nanos) :=
  inferInstanceAs (Decidable (_ ∨ _))

/-- A point of time. -/
@[ext]
structure Instant where
  /-- Whole seconds since the start of 1970, rounded towards the past. -/
  seconds : Int
  /-- Nanoseconds since that second. -/
  nanos : Nat
  /-- The nanoseconds stay within the second, or within the leap second behind it. -/
  within : Instant.Within seconds nanos
  /-- The calendar has begun. -/
  first_le : Instant.firstSecond ≤ seconds
  /-- The calendar is not over. -/
  le_last : seconds ≤ Instant.lastSecond
  deriving DecidableEq, Repr

namespace Instant

/-- The instant of some seconds and nanoseconds, if it is in the calendar. -/
def of? (seconds : Int) (nanos : Nat) : Option Instant :=
  if h : Within seconds nanos ∧ firstSecond ≤ seconds ∧ seconds ≤ lastSecond then
    some ⟨seconds, nanos, h.1, h.2.1, h.2.2⟩
  else none

/-- An instant has the seconds that it is made of. -/
theorem seconds_of_of? {seconds : Int} {nanos : Nat} {t : Instant}
    (h : of? seconds nanos = some t) : t.seconds = seconds := by
  rw [of?] at h
  split at h
  · cases h
    rfl
  · cases h

/-- The start of 1970. -/
def epoch : Instant := ⟨0, 0, by decide, by decide, by decide⟩

instance : Inhabited Instant := ⟨epoch⟩

/-- Whether the instant lies in a leap second. -/
def isLeap (t : Instant) : Bool := perSecond ≤ t.nanos

/-- Nanoseconds since the start of 1970, leap seconds not counted. -/
def toNanos (t : Instant) : Int := t.seconds * perSecond + (t.nanos % perSecond : Nat)

/-- The instant some nanoseconds from the start of 1970, if it is in the calendar. -/
def ofNanos? (n : Int) : Option Instant := of? (n / perSecond) (n % perSecond).toNat

/-- The instant some nanoseconds later, if it is in the calendar.  A leap second is left only by
more than what remains of it. -/
def later? (t : Instant) (nanos : Nat) : Option Instant :=
  if t.isLeap ∧ t.nanos + nanos < 2 * perSecond then of? t.seconds (t.nanos + nanos)
  else ofNanos? (t.toNanos + nanos)

/-- Whether the first instant comes before the second. -/
def before (t u : Instant) : Bool :=
  t.seconds < u.seconds || (t.seconds = u.seconds && t.nanos < u.nanos)

/-- The instant that a number of seconds stands for: whole seconds, and the rest times a thousand
million, rounded as a number and then cut to a whole one.  Negative numbers stand for none. -/
def ofNumericDate? (x : Binary64) : Option Instant :=
  match x.magnitude with
  | none => none
  | some (num, den) =>
    if x.isBelowZero then none else
      match (Binary64.round false (num % den * perSecond) den).magnitude with
      | some (n, d) => of? (num / den : Nat) (n / d)
      | none => none

/-- A number stands for no instant before 1970. -/
theorem seconds_nonneg {x : Binary64} {t : Instant} (h : ofNumericDate? x = some t) :
    0 ≤ t.seconds := by
  rw [ofNumericDate?] at h
  split at h
  · cases h
  · split at h
    · cases h
    · split at h
      · rw [seconds_of_of? h]
        exact Int.natCast_nonneg _
      · cases h

end Instant

end BearerAuth
