import BearerAuth.Proofs.Claims.Shape
import BearerAuth.Proofs.Instant
import BearerAuth.Token.Window

/-!
# Validity in exact arithmetic

The law of a window subtracts the leeway from the time before which claims do not hold; the window
itself adds it to the present instead, and takes a sum outside the calendar for no bound at all.
Here both are compared with the law in whole numbers without bounds, `Claims.HoldsAt`: they agree at
every instant that is no leap second, for every leeway (`Window.check_exact`).
-/

namespace BearerAuth

/-! ## The law -/

/-- Whether claims hold at a number of nanoseconds: they have not expired, and hold already.  What
stands under one of the two names is an instant. -/
structure Claims.HoldsAt (c : Claims) (leeway : Nat) (now : Int) : Prop where
  /-- The time is before the expiration time and the leeway, if there is an expiration time. -/
  unexpired : ∀ v, c.get? RegisteredClaim.expirationTime.name = some v →
    ∃ t, v.instant? = some t ∧ now < t.toNanos + leeway
  /-- The time is not before the one before which the claims do not hold, less the leeway. -/
  begun : ∀ v, c.get? RegisteredClaim.notBefore.name = some v →
    ∃ t, v.instant? = some t ∧ t.toNanos - leeway ≤ now

namespace Claims

variable {c : Claims} {leeway more : Nat} {early now late : Int}

/-- A larger leeway takes nothing away. -/
theorem HoldsAt.mono (h : c.HoldsAt leeway now) (hle : leeway ≤ more) : c.HoldsAt more now where
  unexpired v hv := by
    obtain ⟨t, ht, hlt⟩ := h.unexpired v hv
    exact ⟨t, ht, by omega⟩
  begun v hv := by
    obtain ⟨t, ht, hstart⟩ := h.begun v hv
    exact ⟨t, ht, by omega⟩

/-- Claims that hold at two times hold in between. -/
theorem HoldsAt.between (hearly : c.HoldsAt leeway early) (hlate : c.HoldsAt leeway late)
    (h₁ : early ≤ now) (h₂ : now ≤ late) : c.HoldsAt leeway now where
  unexpired v hv := by
    obtain ⟨t, ht, hlt⟩ := hlate.unexpired v hv
    exact ⟨t, ht, h₂.trans_lt hlt⟩
  begun v hv := by
    obtain ⟨t, ht, hstart⟩ := hearly.begun v hv
    exact ⟨t, ht, hstart.trans h₁⟩

end Claims

/-- A test of the date that a reader finds is a condition on the value that stands there, and has to
fit the condition outside leap seconds only. -/
theorem Claims.Shaped.all_getDate_iff {c : Claims} (h : c.Shaped) {claim : RegisteredClaim}
    (hclaim : claim ∈ RegisteredClaim.dates) {p : Instant → Bool} {q : Instant → Prop}
    (hpq : ∀ t, t.isLeap = false → (p t = true ↔ q t)) :
    (found (c.getDate claim.name)).all p = true ↔
      ∀ v, c.get? claim.name = some v → ∃ t, v.instant? = some t ∧ q t := by
  rw [getDate]
  cases hv : c.get? claim.name with
  | none => simp [found]
  | some v =>
    obtain ⟨x, t, rfl, ht, -⟩ := h.date claim hclaim v hv
    simp [ClaimValue.instant?, ht, found, hpq t (Instant.isLeap_of_ofNumericDate? ht)]

/-! ## The window -/

namespace Window

variable {w : Window} {now start stop : Instant} {c : Claims}

/-- The end of a window, moved out of the calendar or not, is the exact sum. -/
theorem beforeEnd_iff (hnow : now.isLeap = false) (hstop : stop.isLeap = false) :
    w.beforeEnd now stop = true ↔ now.toNanos < stop.toNanos + w.leeway := by
  rw [beforeEnd]
  split
  · next late hlate =>
    obtain ⟨hleap, hsum⟩ := Instant.toNanos_of_later? hstop hlate
    rw [Instant.before_iff hnow hleap, hsum]
  · next hnone =>
    have hlt : now.toNanos < stop.toNanos + w.leeway := Instant.lt_of_later?_eq_none hstop hnone now
    exact iff_of_true rfl hlt

/-- Moving the present forwards is moving the start of a window backwards. -/
theorem afterStart_iff (hnow : now.isLeap = false) (hstart : start.isLeap = false) :
    w.afterStart now start = true ↔ start.toNanos - w.leeway ≤ now.toNanos := by
  rw [afterStart]
  split
  · next late hlate =>
    obtain ⟨hleap, hsum⟩ := Instant.toNanos_of_later? hnow hlate
    rw [Bool.not_eq_true', ← Bool.not_eq_true, Instant.before_iff hleap hstart, hsum]
    omega
  · next hnone =>
    have hlt : start.toNanos < now.toNanos + w.leeway :=
      Instant.lt_of_later?_eq_none hnow hnone start
    exact iff_of_true rfl (by omega)

/-- A window admits the claims that hold. -/
theorem admits_iff (hc : c.WellFormed) (hnow : now.isLeap = false) :
    w.admits now c = true ↔ c.HoldsAt w.leeway now.toNanos := by
  rw [admits, Bool.and_eq_true, Claims.expirationTime, Claims.notBefore,
    hc.shaped.all_getDate_iff (by decide) fun _ hstop ↦ beforeEnd_iff hnow hstop,
    hc.shaped.all_getDate_iff (by decide) fun _ hstart ↦ afterStart_iff hnow hstart]
  exact ⟨fun h ↦ ⟨h.1, h.2⟩, fun h ↦ ⟨h.unexpired, h.begun⟩⟩

/-- A check passes the claims that hold, as they are. -/
theorem check_eq_ok_iff (hc : c.WellFormed) (hnow : now.isLeap = false) :
    w.check now c = .ok c ↔ c.HoldsAt w.leeway now.toNanos := by
  rw [← admits_iff hc hnow, check]
  split <;> simp [*]

/-- A check reports all other claims as expired. -/
theorem check_eq_error_iff (hc : c.WellFormed) (hnow : now.isLeap = false) :
    w.check now c = .error .tokenExpired ↔ ¬c.HoldsAt w.leeway now.toNanos := by
  rw [← admits_iff hc hnow, check]
  split <;> simp [*]

/-- A window has the leeway that it was made with. -/
theorem leeway_of_ofLeeway {leeway : Nat} (h : ofLeeway leeway = .ok w) : w.leeway = leeway := by
  rw [ofLeeway] at h
  split at h
  · cases h
    rfl
  · cases h

/-- At every instant that is no leap second, a check decides as the law does in whole numbers
without bounds, wherever the sums come to lie.  So a larger leeway takes nothing away, and claims
that pass at two instants pass at all instants in between. -/
theorem check_exact {leeway : Nat} (hw : ofLeeway leeway = .ok w) (hc : c.WellFormed)
    (hnow : now.isLeap = false) :
    (w.check now c = .ok c ↔ c.HoldsAt leeway now.toNanos) ∧
      (w.check now c = .error .tokenExpired ↔ ¬c.HoldsAt leeway now.toNanos) ∧
      (∀ more wider, leeway ≤ more → ofLeeway more = .ok wider →
        w.check now c = .ok c → wider.check now c = .ok c) ∧
      ∀ early late : Instant, early.isLeap = false → late.isLeap = false →
        early.toNanos ≤ now.toNanos → now.toNanos ≤ late.toNanos →
        w.check early c = .ok c → w.check late c = .ok c → w.check now c = .ok c := by
  obtain rfl := leeway_of_ofLeeway hw
  refine ⟨check_eq_ok_iff hc hnow, check_eq_error_iff hc hnow, ?_, ?_⟩
  · intro more wider hle hwider hpass
    obtain rfl := leeway_of_ofLeeway hwider
    rw [check_eq_ok_iff hc hnow] at hpass ⊢
    exact hpass.mono hle
  · intro early late hearly hlate h₁ h₂ hpassEarly hpassLate
    rw [check_eq_ok_iff hc hearly] at hpassEarly
    rw [check_eq_ok_iff hc hlate] at hpassLate
    rw [check_eq_ok_iff hc hnow]
    exact hpassEarly.between hpassLate h₁ h₂

/-- Claims that expire with the last second of the calendar. -/
def lasting : Claims := Claims.empty.put .expirationTime (.number (.ofInt Instant.lastSecond))

/-- The last nanosecond of the calendar. -/
def closing : Instant :=
  ⟨Instant.lastSecond, 999999999, by decide, by decide, by decide⟩

/-- With half a minute of leeway these claims hold until the end of the calendar, though their last
second has begun. -/
theorem check_exact_lasting :
    ∃ w, ofLeeway 30000000000 = .ok w ∧ lasting.WellFormed ∧ closing.isLeap = false ∧
      lasting.HoldsAt 30000000000 closing.toNanos ∧ w.check closing lasting = .ok lasting := by
  have hw : ofLeeway 30000000000 = .ok ⟨30000000000, by decide⟩ := by decide
  have hc : lasting.WellFormed :=
    Claims.wellFormed_empty.set (Claims.run_set_eq_ok_iff.mpr
      (⟨by decide +kernel, rfl⟩ : Claims.accepts RegisteredClaim.expirationTime.name
        (.number (.ofInt Instant.lastSecond)) = true ∧ _))
  have hholds : lasting.HoldsAt 30000000000 closing.toNanos := by
    constructor
    · intro v hv
      obtain rfl : .number (.ofInt Instant.lastSecond) = v := Option.some.inj hv
      refine ⟨⟨Instant.lastSecond, 0, by decide, by decide, by decide⟩, ?_, by decide⟩
      decide +kernel
    · intro v hv
      cases hv
  exact ⟨_, hw, hc, by decide, hholds, (check_exact hw hc (by decide)).1.mpr hholds⟩

end Window

end BearerAuth
