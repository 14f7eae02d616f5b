import BearerAuth.Proofs.Claims.Setting
import BearerAuth.Proofs.Claims.Wire
import BearerAuth.Proofs.Instant

/-!
# Dates of claims

Dates are given as whole seconds or as instants, kept as numbers, and read as instants.  The numbers
are far from exact at either end of what callers may give, but between the start of 1970 and the end
of the calendar each second has one of its own (`Binary64.toInt?_ofInt`), and nothing outside is
rounded into this range (`Instant.isDate_ofInt_iff`).  So a date that is accepted is the one that
was given (`run_set_whole_eq_ok_iff`), and it stays so in a payload and behind it
(`WellFormed.dated`).
-/

namespace BearerAuth.Claims

variable {c d : Claims} {claim : RegisteredClaim} {read : Claims → Option Instant} {n : Int}

/-- Which reader finds the date of a claim. -/
inductive DateReader : RegisteredClaim → (Claims → Option Instant) → Prop
  /-- When the claims cease to hold. -/
  | expirationTime : DateReader .expirationTime Claims.expirationTime
  /-- When the claims begin to hold. -/
  | notBefore : DateReader .notBefore Claims.notBefore
  /-- When the claims were issued. -/
  | issuedAt : DateReader .issuedAt Claims.issuedAt

/-- Claims with a reader of their own for dates are dates. -/
theorem DateReader.mem_dates (h : DateReader claim read) : claim ∈ RegisteredClaim.dates := by
  cases h <;> decide

/-- A reader finds the date that stands under the name of its claim. -/
theorem DateReader.apply_eq (h : DateReader claim read) (c : Claims) :
    read c = found (c.getDate claim.name) := by
  cases h <;> rfl

/-- How claims show a date. -/
structure Dated (claim : RegisteredClaim) (read : Claims → Option Instant) (n : Int) (c : Claims) :
    Prop where
  /-- The reader finds the start of the second. -/
  found : ∃ t, read c = some t ∧ t.seconds = n ∧ t.nanos = 0
  /-- The payload has the second as a whole number. -/
  written : c.toPayload.get? claim.name = some (.ofInt n)
  /-- Whoever reads the payload finds the same instant. -/
  reread : ∃ d, Claims.ofPayload c.toPayload = .ok d ∧ read d = read c

/-- Which whole numbers are accepted as a date. -/
theorem accepts_whole_iff (hclaim : claim ∈ RegisteredClaim.dates) :
    accepts claim.name (.number (.ofInt n)) = true ↔ 0 ≤ n ∧ n ≤ Instant.lastSecond := by
  rw [accepts_name, RegisteredClaim.accepts_date_iff hclaim, ← Instant.isDate_ofInt_iff,
    ← Instant.exists_ofNumericDate?_iff]
  simp

/-- A whole number is set as a date if it is accepted. -/
theorem run_set_whole_eq_ok_iff (hclaim : claim ∈ RegisteredClaim.dates) :
    (set claim.name (.number (.ofInt n))).run c = .ok () d ↔
      (0 ≤ n ∧ n ≤ Instant.lastSecond) ∧ d = c.place claim.name (.number (.ofInt n)) := by
  rw [run_set_eq_ok_iff, accepts_whole_iff hclaim]

/-- An instant is set as a date unless it is before 1970. -/
theorem attempt_setDate (hclaim : claim ∈ RegisteredClaim.dates) (c : Claims) (t : Instant) :
    c.attempt (setDate claim t) =
      if 0 ≤ t.seconds then .ok (c.place claim.name (.number (.ofInt t.seconds)))
      else .error claim.shapeError := by
  have hacc : accepts claim.name (.number (.ofInt t.seconds)) = true ↔ 0 ≤ t.seconds := by
    rw [accepts_whole_iff hclaim, and_iff_left t.le_last]
  rw [attempt, setDate, run_set, shapeError_name]
  by_cases hstart : 0 ≤ t.seconds
  · rw [if_pos (hacc.mpr hstart), if_pos hstart]
  · rw [if_neg (mt hacc.mp hstart), if_neg hstart]

/-- A date of well-formed claims that is a whole number shows as that number. -/
theorem WellFormed.dated (hwell : c.WellFormed) (hread : DateReader claim read)
    (hn : 0 ≤ n ∧ n ≤ Instant.lastSecond)
    (hvalue : c.get? claim.name = some (.number (.ofInt n))) : Dated claim read n c := by
  have hsmall : n.natAbs < 2 ^ 53 := Instant.natAbs_lt hn.1 hn.2
  obtain ⟨t, ht⟩ := Instant.exists_ofNumericDate?_iff.mpr (Instant.isDate_ofInt_iff.mpr hn)
  have hexact := Instant.eq_of_ofNumericDate?_ofInt ht
  refine ⟨⟨t, ?_, hexact⟩, ?_, c.reread, ofPayload_toPayload hwell, ?_⟩
  · rw [hread.apply_eq, getDate, hvalue]
    simp only [ClaimValue.instant?, ht, Claims.found]
  · have hscope : claim.name ≠ RegisteredClaim.scope.name := (hwell _ _ hvalue).1
    rw [get?_toPayload, if_neg fun hand ↦ hscope hand.1, hvalue, Option.map_some,
      ClaimValue.toJson_number (Binary64.toInt?_ofInt hsmall) hsmall]
  · rw [hread.apply_eq, hread.apply_eq, getDate_reread]

/-- Claims in which a whole number was accepted as a date show that date. -/
theorem WellFormed.dated_of_set (hwell : c.WellFormed) (hread : DateReader claim read)
    (hset : (Claims.set claim.name (.number (.ofInt n))).run c = .ok () d) :
    Dated claim read n d := by
  obtain ⟨hn, rfl⟩ := (run_set_whole_eq_ok_iff hread.mem_dates).mp hset
  refine (hwell.set hset).dated hread hn ?_
  rw [get?_place, if_pos]
  exact ⟨rfl, by cases hread <;> decide⟩

/-- Dates are exact over the whole calendar.  A number of seconds is accepted just if it lies
between the start of 1970 and the end of the calendar, and an instant just if it is not before 1970.
After that the second is found as it was given, without a fraction, and so it is in the payload and
behind it. -/
theorem Reachable.date_exact (h : c.Reachable) (hread : DateReader claim read) :
    (∀ n : Int, ((∃ d, (set claim.name (.number (.ofInt n))).run c = .ok () d) ↔
        0 ≤ n ∧ n ≤ Instant.lastSecond) ∧
      ∀ d, (set claim.name (.number (.ofInt n))).run c = .ok () d → Dated claim read n d) ∧
    ∀ t : Instant, ((∃ d, (setDate claim t).run c = .ok () d) ↔ 0 ≤ t.seconds) ∧
      ∀ d, (setDate claim t).run c = .ok () d → Dated claim read t.seconds d := by
  have haccepted (n : Int) : (∃ d, (set claim.name (.number (.ofInt n))).run c = .ok () d) ↔
      0 ≤ n ∧ n ≤ Instant.lastSecond := by
    simp only [run_set_whole_eq_ok_iff hread.mem_dates, exists_and_left, exists_eq, and_true]
  refine ⟨fun n ↦ ⟨haccepted n, fun d hd ↦ h.wellFormed.dated_of_set hread hd⟩, fun t ↦ ⟨?_, ?_⟩⟩
  · exact (haccepted t.seconds).trans (and_iff_left t.le_last)
  · exact fun d hd ↦ h.wellFormed.dated_of_set hread hd

/-- The last second of the calendar is accepted as an expiration time, and comes back; the one
behind it is not accepted. -/
theorem Reachable.date_exact_last :
    Claims.empty.Reachable ∧ DateReader .expirationTime Claims.expirationTime ∧
      (∃ d, (set "exp" (.number (.ofInt 8210266876799))).run Claims.empty = .ok () d ∧
        Dated .expirationTime Claims.expirationTime 8210266876799 d) ∧
      ¬∃ d, (set "exp" (.number (.ofInt 8210266876800))).run Claims.empty = .ok () d := by
  have hexact := Reachable.date_exact .empty .expirationTime
  obtain ⟨d, hd⟩ := (hexact.1 8210266876799).1.mpr (by decide)
  refine ⟨.empty, .expirationTime, ⟨d, hd, (hexact.1 _).2 d hd⟩, fun hover ↦ ?_⟩
  exact absurd ((hexact.1 8210266876800).1.mp hover) (by decide)

end BearerAuth.Claims
