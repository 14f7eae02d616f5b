import BearerAuth.Proofs.Claims.Wire

/-!
# What claims look like

Claims that callers can make are well formed (`Reachable.wellFormed`).  Here this is spelled out,
name by name: what stands under a registered name has the shape of that name, nothing stands under
the name of the scopes, and all numbers are finite (`Shaped`).  Everybody who reads claims relies on
it: a registered claim that is there is found by its reader (`Readable`), and the payload of the
claims has no `null` in it and can always be read again.
-/

namespace BearerAuth

namespace Claims

variable {c : Claims}

/-! ## Shapes -/

/-- What stands in claims, name by name. -/
structure Shaped (c : Claims) : Prop where
  /-- Scopes are kept apart from the values. -/
  scope : c.get? RegisteredClaim.scope.name = none
  /-- The subject, the issuer and the identifier of the token are texts. -/
  text : ∀ claim ∈ RegisteredClaim.texts, ∀ v, c.get? claim.name = some v → ∃ s, v = .text s
  /-- The audience is a text or a list of texts. -/
  audience : ∀ v, c.get? RegisteredClaim.audience.name = some v →
    (∃ s, v = .text s) ∨ ∃ l, v = .texts l
  /-- Dates are numbers that stand for an instant, and for none before 1970. -/
  date : ∀ claim ∈ RegisteredClaim.dates, ∀ v, c.get? claim.name = some v →
    ∃ x t, v = .number x ∧ Instant.ofNumericDate? x = some t ∧ 0 ≤ t.seconds
  /-- Numbers are finite, whatever they stand under. -/
  finite : ∀ name x, c.get? name = some (.number x) → x.isFinite = true

/-- Well-formed claims have their shapes. -/
theorem WellFormed.shaped (h : c.WellFormed) : c.Shaped where
  scope := h.get?_scope
  text claim hclaim v hv :=
    (RegisteredClaim.accepts_text_iff hclaim).mp <| (accepts_name claim v).symm.trans (h _ _ hv).2
  audience v hv :=
    RegisteredClaim.accepts_audience_iff.mp <| (accepts_name _ v).symm.trans (h _ _ hv).2
  date claim hclaim v hv := by
    have hacc : claim.accepts v = true := (accepts_name claim v).symm.trans (h _ _ hv).2
    obtain ⟨x, t, hx, ht⟩ := (RegisteredClaim.accepts_date_iff hclaim).mp hacc
    exact ⟨x, t, hx, ht, Instant.seconds_nonneg ht⟩
  finite name x hx := isFinite_of_accepts (h _ _ hx).2

/-! ## Readers -/

/-- Whether the readers of registered claims find what is there. -/
structure Readable (c : Claims) : Prop where
  /-- The subject is found. -/
  subject : c.subject.isSome = (c.get? RegisteredClaim.subject.name).isSome
  /-- The issuer is found. -/
  issuer : c.issuer.isSome = (c.get? RegisteredClaim.issuer.name).isSome
  /-- The identifier of the token is found. -/
  tokenId : c.tokenId.isSome = (c.get? RegisteredClaim.tokenId.name).isSome
  /-- The expiration time is found. -/
  expirationTime : c.expirationTime.isSome = (c.get? RegisteredClaim.expirationTime.name).isSome
  /-- The time before which the claims do not hold is found. -/
  notBefore : c.notBefore.isSome = (c.get? RegisteredClaim.notBefore.name).isSome
  /-- The time of issue is found. -/
  issuedAt : c.issuedAt.isSome = (c.get? RegisteredClaim.issuedAt.name).isSome
  /-- The audience is read without an error. -/
  audience : ∃ l, c.getTexts RegisteredClaim.audience.name = .ok l

/-- Texts are found by their readers. -/
theorem Shaped.isSome_getText (h : c.Shaped) {claim : RegisteredClaim}
    (hclaim : claim ∈ RegisteredClaim.texts) :
    (found (c.getText claim.name)).isSome = (c.get? claim.name).isSome := by
  rw [getText]
  cases hv : c.get? claim.name with
  | none => rfl
  | some v =>
    obtain ⟨s, rfl⟩ := h.text claim hclaim v hv
    rfl

/-- Dates are found by their readers. -/
theorem Shaped.isSome_getDate (h : c.Shaped) {claim : RegisteredClaim}
    (hclaim : claim ∈ RegisteredClaim.dates) :
    (found (c.getDate claim.name)).isSome = (c.get? claim.name).isSome := by
  rw [getDate]
  cases hv : c.get? claim.name with
  | none => rfl
  | some v =>
    obtain ⟨x, t, rfl, ht, -⟩ := h.date claim hclaim v hv
    simp [ClaimValue.instant?, ht, found]

/-- Claims of the right shapes can be read. -/
theorem Shaped.readable (h : c.Shaped) : c.Readable where
  subject := h.isSome_getText (by decide)
  issuer := h.isSome_getText (by decide)
  tokenId := h.isSome_getText (by decide)
  expirationTime := h.isSome_getDate (by decide)
  notBefore := h.isSome_getDate (by decide)
  issuedAt := h.isSome_getDate (by decide)
  audience := by
    rw [getTexts]
    cases hv : c.get? RegisteredClaim.audience.name with
    | none => exact ⟨_, rfl⟩
    | some v => rcases h.audience v hv with ⟨s, rfl⟩ | ⟨l, rfl⟩ <;> exact ⟨_, rfl⟩

end Claims

/-! ## Payloads without gaps -/

/-- Whether a value is a part of another one, at whatever depth; each value is a part of itself. -/
inductive Json.Part : Json → Json → Prop
  /-- The whole is a part. -/
  | self (v : Json) : Part v v
  /-- The parts of an item are parts of the list. -/
  | item {v w : Json} {items : List Json} : w ∈ items → Part v w → Part v (.array items)
  /-- The parts of a member are parts of the object. -/
  | member {v w : Json} {name : String} {members : List (String × Json)} :
    (name, w) ∈ members → Part v w → Part v (.object members)

/-- A finite number is written as a number, and texts and lists of texts as such, so that nothing in
them is `null`. -/
theorem ClaimValue.not_part_null {v : ClaimValue} (h : v.IsFinite) : ¬Json.Part .null v.toJson := by
  cases v with
  | text s => exact nofun
  | texts l =>
    rw [toJson, Json.ofStrings]
    rintro (_ | ⟨hitem, hpart⟩)
    obtain ⟨s, -, rfl⟩ := List.mem_map.mp hitem
    cases hpart
  | number x =>
    have hnumber : ∃ n, numberToJson x = .number n := by
      rw [numberToJson]
      split
      · split <;> exact ⟨_, rfl⟩
      · exact ⟨_, if_pos h⟩
    obtain ⟨n, hn⟩ := hnumber
    rw [toJson, hn]
    rintro ⟨⟩

namespace Claims

variable {c : Claims}

/-- Nothing in the payload of claims of the right shapes is `null`. -/
theorem Shaped.not_part_null (h : c.Shaped) : ¬Json.Part .null (.ofDict c.toPayload) := by
  rintro (_ | _ | ⟨hmem, hpart⟩)
  have hget := Dict.mem_entries_iff.mp hmem
  rw [get?_toPayload] at hget
  split at hget
  · cases hget
    cases hpart
  · obtain ⟨v, hv, rfl⟩ := Option.map_eq_some_iff.mp hget
    refine ClaimValue.not_part_null ?_ hpart
    cases v with
    | text s => trivial
    | texts l => trivial
    | number x => exact h.finite _ x hv

/-- However claims have come about, each value has the shape of its name, the readers find what is
there, and the payload has no `null` in it and is read again. -/
theorem Reachable.shaped_and_readable (h : c.Reachable) :
    c.Shaped ∧ c.Readable ∧ ¬Json.Part .null (.ofDict c.toPayload) ∧
      ∃ d, Claims.ofPayload c.toPayload = .ok d := by
  have hshaped := h.wellFormed.shaped
  exact ⟨hshaped, hshaped.readable, hshaped.not_part_null, _, ofPayload_toPayload h.wellFormed⟩

/-- Claims with an audience, an expiration time that was refused as a text and then set as a date,
and an odd scope. -/
def amended : Claims :=
  let named := Operation.after .empty (.withAudience ["api", "web"])
  let refused := Operation.after named (.set "exp" (.text "soon"))
  let dated := Operation.after refused (.set "exp" (.number (.ofInt 5)))
  Operation.after dated (.insertScope "a b")

/-- The expiration time that was set is found, whatever was refused before. -/
theorem Reachable.shaped_and_readable_amended :
    amended.Reachable ∧ amended.Shaped ∧ amended.Readable ∧
      amended.expirationTime.isSome = true ∧
      ¬Json.Part .null (.ofDict amended.toPayload) ∧
      ∃ d, Claims.ofPayload amended.toPayload = .ok d := by
  have hreachable : amended.Reachable := by
    unfold amended
    refine .after (.insertScope "a b") (.after (.set "exp" (.number (.ofInt 5))) ?_)
    exact .after (.set "exp" (.text "soon")) (.after (.withAudience ["api", "web"]) .empty)
  obtain ⟨hshaped, hreadable, hnull, hread⟩ := Reachable.shaped_and_readable hreachable
  refine ⟨hreachable, hshaped, hreadable, ?_, hnull, hread⟩
  rw [hreadable.expirationTime]
  decide +kernel

end Claims

end BearerAuth
