import BearerAuth.Claims.Basic

/-!
# When claims hold

Claims hold from the time before which they do not, up to but not including their expiration time.
Clocks differ, so both ends are moved outwards by a leeway.  An end that is moved out of the
calendar lies beyond any instant and does not count.
-/

namespace BearerAuth

/-- How far clocks may differ. -/
structure Window where
  /-- The leeway in nanoseconds. -/
  leeway : Nat
  /-- The leeway is a number of milliseconds with 63 bits. -/
  leeway_le : leeway ≤ 9223372036854775807000000
  deriving DecidableEq, Repr

namespace Window

/-- The window without leeway. -/
def exact : Window := ⟨0, Nat.zero_le _⟩

/-- The window with a leeway, if it is not too large. -/
def ofLeeway (leeway : Nat) : Except AuthError Window :=
  if h : leeway ≤ 9223372036854775807000000 then .ok ⟨leeway, h⟩
  else .error (.invalidConfiguration "leeway out of range")

/-- Whether claims that expire at `stop` still hold. -/
def beforeEnd (w : Window) (now stop : Instant) : Bool :=
  match stop.later? w.leeway with
  | some late => now.before late
  | none => true

/-- Whether claims that begin to hold at `start` hold already. -/
def afterStart (w : Window) (now start : Instant) : Bool :=
  match now.later? w.leeway with
  | some late => !late.before start
  | none => true

/-- Whether claims hold. -/
def admits (w : Window) (now : Instant) (c : Claims) : Bool :=
  c.expirationTime.all (w.beforeEnd now) && c.notBefore.all (w.afterStart now)

/-- The claims, if they hold. -/
def check (w : Window) (now : Instant) (c : Claims) : Except AuthError Claims :=
  if w.admits now c then .ok c else .error .tokenExpired

end Window

end BearerAuth
