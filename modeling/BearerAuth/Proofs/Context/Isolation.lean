import BearerAuth.Proofs.Context.Hop

/-!
# What a hop can tell

A context has four places for headers and one for claims.  Sending a token writes to one of them at
most, and to the credentials there only (`Context.Injected`); if it fails, to none.  A hop takes two
of the places along, those of what goes out, and leaves the others behind: contexts that agree in
these two cannot be told apart on the other side, whatever came in and whoever the caller is, and
they still cannot after the same tokens were sent from both
(`Context.SendsAlike.forward_foldl_after`).
-/

namespace BearerAuth

namespace Headers

/-- How headers in which a credential was set differ from what they were. -/
structure Credited (v : HeaderValue) (before after : Headers) : Prop where
  /-- It is the only credential. -/
  sole : after.values authorizationHeader = [v]
  /-- Each other name has the values that it had. -/
  others : ∀ name, lowerCase name ≠ authorizationHeader → after.values name = before.values name

/-- A credential that is set replaces all others, and nothing else. -/
theorem credited_set (h : Headers) (v : HeaderValue) :
    Credited v h (h.set authorizationHeader v) where
  sole := values_set_self _ _ _
  others name hname := by
    have hlower : lowerCase authorizationHeader = authorizationHeader := by decide
    rw [values_set, hlower, if_neg hname]

end Headers

namespace Context

variable {c d : Context} {scheme token : String} {carrier : Carrier} {v : HeaderValue}

/-! ## Sending a token -/

/-- How a context from which a credential goes out differs from what it was. -/
inductive Injected (v : HeaderValue) : Carrier → Context → Context → Prop
  /-- The credential is among the headers that go out. -/
  | outgoing {c : Context} {h : Headers} :
    c.outgoing.Credited v h → Injected v .grpc c { c with outgoing := h }
  /-- The credential is among the headers of the transport to go by. -/
  | request {c : Context} {t : Transport} {h : Headers} :
    c.client = some t → t.request.Credited v h →
    Injected v .transport c { c with client := some { t with request := h } }
  /-- There is no transport to go by. -/
  | dropped {c : Context} : c.client = none → Injected v .transport c c

/-- A credential is put among the headers of its carrier, if there are any. -/
theorem injected_withCredential (c : Context) (carrier : Carrier) (v : HeaderValue) :
    Injected v carrier c (c.withCredential carrier v) := by
  cases carrier with
  | grpc => exact .outgoing (c.outgoing.credited_set v)
  | transport =>
    cases hclient : c.client with
    | none =>
      have hkept : c.withCredential .transport v = c := by
        rw [withCredential, hclient, Option.map_none, ← hclient]
      rw [hkept]
      exact .dropped hclient
    | some t =>
      rw [withCredential, hclient, Option.map_some]
      exact .request hclient (t.request.credited_set v)

/-- The inbound side and the claims are none of the places that a credential is put in. -/
theorem Injected.kept (h : Injected v carrier c d) :
    d.incoming = c.incoming ∧ d.server = c.server ∧ d.claims = c.claims := by
  cases h <;> exact ⟨rfl, rfl, rfl⟩

/-- Where headers go out, the credential is the only one among them. -/
theorem Injected.exists_outbound? {before : Headers} (h : Injected v carrier c d)
    (hout : c.outbound? carrier = some before) :
    ∃ after, d.outbound? carrier = some after ∧ before.Credited v after := by
  cases h with
  | outgoing hcredited =>
    cases hout
    exact ⟨_, rfl, hcredited⟩
  | request hclient hcredited =>
    rw [outbound?, hclient] at hout
    cases hout
    exact ⟨_, rfl, hcredited⟩
  | dropped hclient =>
    rw [outbound?, hclient] at hout
    cases hout

/-- Sending a token from the context at hand does what sending it from a copy does, and leaves the
context as it is where the latter fails. -/
theorem run_inject (c : Context) (scheme token : String) (carrier : Carrier) :
    (inject scheme token carrier).run c =
      match c.withToken scheme token carrier with
      | .ok d => .ok () d
      | .error e => .error e c := by
  rw [inject, withToken]
  cases HeaderValue.of? (scheme ++ " " ++ token) <;> rfl

/-- A token that cannot be sent changes nothing. -/
theorem run_inject_eq_error_iff {e : AuthError} :
    (inject scheme token carrier).run c = .error e d ↔
      c.withToken scheme token carrier = .error e ∧ d = c := by
  rw [run_inject]
  cases c.withToken scheme token carrier <;> simp [eq_comm]

/-- A token that can be sent is sent as a credential of its scheme. -/
theorem run_inject_eq_ok_iff :
    (inject scheme token carrier).run c = .ok () d ↔
      ∃ v : HeaderValue, v.bytes = Text.toBytes (scheme ++ " " ++ token) ∧
        c.withCredential carrier v = d := by
  rw [← withToken_eq_ok_iff, run_inject]
  cases c.withToken scheme token carrier <;> simp

/-! ## Contexts that send alike -/

/-- Whether two contexts agree in what goes out. -/
structure SendsAlike (c d : Context) : Prop where
  /-- The same headers go out. -/
  outgoing : c.outgoing = d.outgoing
  /-- There is the same transport to go by, or none. -/
  client : c.client = d.client

/-- Contexts that send alike are received alike. -/
theorem SendsAlike.forward_eq (h : SendsAlike c d) : c.forward = d.forward := by
  rw [forward, forward, h.outgoing, h.client]

/-- A credential goes out alike from contexts that send alike. -/
theorem SendsAlike.withCredential (h : SendsAlike c d) (carrier : Carrier) (v : HeaderValue) :
    SendsAlike (c.withCredential carrier v) (d.withCredential carrier v) := by
  cases carrier with
  | grpc => exact ⟨congrArg (·.set authorizationHeader v) h.outgoing, h.client⟩
  | transport => exact ⟨h.outgoing, congrArg (Option.map _) h.client⟩

/-- A token to be sent. -/
structure Sending where
  /-- The scheme that it goes under. -/
  scheme : String
  /-- The token. -/
  token : String
  /-- By what it goes. -/
  carrier : Carrier

/-- The context after a token was sent, or failed to be. -/
def after (c : Context) (s : Sending) : Context :=
  match (inject s.scheme s.token s.carrier).run c with
  | .ok () d => d
  | .error _ d => d

/-- After a token was sent there is its credential, or nothing has changed; which of the two does
not depend on the context. -/
theorem after_cases (s : Sending) :
    (∃ v, ∀ c, after c s = c.withCredential s.carrier v) ∨ ∀ c, after c s = c := by
  simp only [after, run_inject, withToken]
  cases HeaderValue.of? (s.scheme ++ " " ++ s.token) with
  | none => exact .inr fun c ↦ rfl
  | some v => exact .inl ⟨v, fun c ↦ rfl⟩

/-- The inbound side and the claims stay, however many tokens are sent. -/
theorem kept_foldl_after (c : Context) (sendings : List Sending) :
    (sendings.foldl after c).incoming = c.incoming ∧ (sendings.foldl after c).server = c.server ∧
      (sendings.foldl after c).claims = c.claims := by
  induction sendings generalizing c with
  | nil => exact ⟨rfl, rfl, rfl⟩
  | cons s rest ih =>
    have hstep : (after c s).incoming = c.incoming ∧ (after c s).server = c.server ∧
        (after c s).claims = c.claims := by
      obtain ⟨v, hv⟩ | hnone := after_cases s
      · rw [hv]
        exact (injected_withCredential c s.carrier v).kept
      · rw [hnone]
        exact ⟨rfl, rfl, rfl⟩
    obtain ⟨hincoming, hserver, hclaims⟩ := ih (after c s)
    exact ⟨hincoming.trans hstep.1, hserver.trans hstep.2.1, hclaims.trans hstep.2.2⟩

/-- Contexts that send alike are received alike, also after the same tokens were sent from both. -/
theorem SendsAlike.forward_foldl_after (h : SendsAlike c d) (sendings : List Sending) :
    (sendings.foldl after c).forward = (sendings.foldl after d).forward := by
  induction sendings generalizing c d with
  | nil => exact h.forward_eq
  | cons s rest ih =>
    refine ih ?_
    obtain ⟨v, hv⟩ | hnone := after_cases s
    · rw [hv, hv]
      exact h.withCredential s.carrier v
    · rw [hnone, hnone]
      exact h

/-! ## The two operations together -/

/-- Sending a token touches the credentials of its carrier, if it succeeds, and nothing else; if it
fails, it touches nothing.  What is received depends on what goes out only, and has no claims, no
headers of a reply and nothing to go out in its turn. -/
theorem inject_isolated (c : Context) (scheme token : String) (carrier : Carrier) :
    (∀ e d, (inject scheme token carrier).run c = .error e d → d = c) ∧
    (∀ d, (inject scheme token carrier).run c = .ok () d →
      ∃ v : HeaderValue, v.bytes = Text.toBytes (scheme ++ " " ++ token) ∧
        Injected v carrier c d) ∧
    (∀ d : Context, c.outgoing = d.outgoing → c.client = d.client → c.forward = d.forward) ∧
    c.forward.claims = none ∧ c.forward.outgoing = .empty ∧ c.forward.client = none ∧
    ∀ t, c.forward.server = some t → t.reply = .empty := by
  refine ⟨fun e d hfailed ↦ (run_inject_eq_error_iff.mp hfailed).2, fun d hsent ↦ ?_,
    fun d houtgoing hclient ↦ SendsAlike.forward_eq ⟨houtgoing, hclient⟩, rfl, rfl, rfl, ?_⟩
  · obtain ⟨v, hbytes, rfl⟩ := run_inject_eq_ok_iff.mp hsent
    exact ⟨v, hbytes, injected_withCredential c carrier v⟩
  · intro t ht
    obtain ⟨-, -, rfl⟩ := Option.map_eq_some_iff.mp ht
    rfl

/-- A token with a line break in it leaves a context with an older credential as it is.  A good one
takes the place of the older credential, and who the caller is does not show behind the hop. -/
theorem inject_isolated_renewing :
    (inject "Bearer" "a\nb" .transport).run renewing = .error .invalidToken renewing ∧
      (∃ d after, (inject "Bearer" "new" .transport).run renewing = .ok () d ∧
        d.outbound? .transport = some after ∧
        (after.values "authorization").map HeaderValue.text? = [some "Bearer new"]) ∧
      { renewing with claims := some (Claims.empty.withSubject "ann") }.forward =
        renewing.forward := by
  have hbroken : renewing.withToken "Bearer" "a\nb" .transport = .error .invalidToken :=
    withToken_eq_error_iff.mpr ⟨rfl, '\n', by decide, by decide⟩
  have hsent : (inject "Bearer" "new" .transport).run renewing =
      .ok () (renewing.withCredential .transport ⟨Text.toBytes "Bearer new", by decide⟩) :=
    run_inject_eq_ok_iff.mpr ⟨_, by decide, rfl⟩
  obtain ⟨-, hok, hforward, -⟩ := inject_isolated renewing "Bearer" "new" .transport
  refine ⟨run_inject_eq_error_iff.mpr ⟨hbroken, rfl⟩, ?_, (hforward _ rfl rfl).symm⟩
  obtain ⟨v, hbytes, hinjected⟩ := hok _ hsent
  obtain ⟨after, hafter, hcredited⟩ := hinjected.exists_outbound? rfl
  refine ⟨_, after, hsent, hafter, ?_⟩
  have hsole : after.values "authorization" = [v] := hcredited.sole
  rw [hsole, List.map_singleton, HeaderValue.text?, hbytes, Text.ofBytes?_toBytes]
  rfl

end Context

end BearerAuth
