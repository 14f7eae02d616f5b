import BearerAuth.Proofs.Context.Credential

/-!
# What a hop delivers

More can be written into a header than can be read out of it: characters outside ASCII are sent, but
a value with one of them is not text, a token may be empty, and a scheme may hold spaces, so that it
ends too early on the other side.  A hop delivers the token exactly if none of this is the case and
there is something to carry it; all other tokens are lost, and none is changed
(`Context.hop_exact`).
-/

namespace BearerAuth

/-! ## Reading what was written -/

section

variable {scheme token : String}

/-- The characters of a credential are those of its two parts and the space between them. -/
theorem mem_toList_written {x : Char} :
    x ∈ (scheme ++ " " ++ token).toList ↔ x = ' ' ∨ x ∈ scheme.toList ++ token.toList := by
  simp only [String.toList_append, List.mem_append, String.reduceToList, List.mem_singleton]
  rw [or_assoc, or_left_comm]

/-- A credential holds a control character if one of its parts does. -/
theorem exists_isControl_written :
    (∃ x ∈ (scheme ++ " " ++ token).toList, HeaderValue.IsControl x) ↔
      ∃ x ∈ scheme.toList ++ token.toList, HeaderValue.IsControl x := by
  have hspace : ¬HeaderValue.IsControl ' ' := by decide
  simp only [mem_toList_written, or_and_right, exists_or, exists_eq_left, hspace, false_or]

/-- A credential is visible if its parts are. -/
theorem forall_isVisible_written :
    (∀ x ∈ (scheme ++ " " ++ token).toList, HeaderValue.IsVisible x) ↔
      ∀ x ∈ scheme.toList ++ token.toList, HeaderValue.IsVisible x := by
  have hspace : HeaderValue.IsVisible ' ' := by decide
  simp only [mem_toList_written, or_imp, forall_and, forall_eq, hspace, true_and]

/-- A written credential is read as the token that was written, or not at all. -/
theorem parseAuthorization_written_iff {other : String} :
    parseAuthorization (scheme ++ " " ++ token) scheme = .ok other ↔
      other = token ∧ token ≠ "" ∧ ' ' ∉ scheme.toList := by
  rw [parseAuthorization_eq_ok_iff]
  constructor
  · rintro ⟨name, hvalue, hspace, hname, hne⟩
    -- what is taken for the scheme is as long as the scheme
    have hlength : name.toList.length = scheme.toList.length := by
      simpa [lowerCase] using congrArg (List.length ∘ String.toList) hname
    have hlist : scheme.toList ++ ' ' :: token.toList = name.toList ++ ' ' :: other.toList := by
      simpa using congrArg String.toList hvalue
    obtain ⟨hscheme, htoken⟩ := List.append_inj hlist hlength.symm
    rw [← hscheme] at hspace
    obtain rfl : token = other := String.toList_inj.mp (List.cons.inj htoken).2
    exact ⟨rfl, hne, hspace⟩
  · rintro ⟨rfl, hne, hspace⟩
    exact ⟨scheme, rfl, hspace, rfl, hne⟩

end

/-- What is no credential of the scheme is reported as missing. -/
theorem parseAuthorization_ok_or_error (value scheme : String) :
    (∃ token, parseAuthorization value scheme = .ok token) ∨
      parseAuthorization value scheme = .error .missingBearerToken := by
  rw [parseAuthorization]
  split
  · exact .inr rfl
  · split
    · exact .inl ⟨_, rfl⟩
    · exact .inr rfl

namespace Context

variable {c d : Context} {scheme token : String} {carrier : Carrier}

/-- A token comes in as part of a credential. -/
theorem token_eq_ok_iff :
    c.token scheme carrier = .ok token ↔ ∃ value, c.credential? carrier = some value ∧
      parseAuthorization value scheme = .ok token := by
  rw [Context.token]
  cases c.credential? carrier <;> simp

/-- A token that does not come in is reported as missing. -/
theorem token_ok_or_error (c : Context) (scheme : String) (carrier : Carrier) :
    (∃ token, c.token scheme carrier = .ok token) ∨
      c.token scheme carrier = .error .missingBearerToken := by
  rw [Context.token]
  split
  · exact .inr rfl
  · exact parseAuthorization_ok_or_error _ _

/-! ## Sending -/

/-- There is something to carry a credential, unless a transport is needed and missing. -/
theorem isSome_outbound?_iff :
    (c.outbound? carrier).isSome = true ↔ carrier = .grpc ∨ c.client.isSome = true := by
  cases carrier <;> simp [outbound?]

/-- A token goes out as a credential of its scheme, if the two can be sent. -/
theorem withToken_eq_ok_iff :
    c.withToken scheme token carrier = .ok d ↔
      ∃ v : HeaderValue, v.bytes = Text.toBytes (scheme ++ " " ++ token) ∧
        c.withCredential carrier v = d := by
  simp only [← HeaderValue.of?_eq_some_iff, withToken]
  cases HeaderValue.of? (scheme ++ " " ++ token) <;> simp

/-- Sending fails for control characters only, and in one way. -/
theorem withToken_eq_error_iff {e : AuthError} :
    c.withToken scheme token carrier = .error e ↔
      e = .invalidToken ∧ ∃ x ∈ scheme.toList ++ token.toList, HeaderValue.IsControl x := by
  rw [← exists_isControl_written, ← HeaderValue.of?_eq_none_iff, withToken]
  cases HeaderValue.of? (scheme ++ " " ++ token) <;> simp [eq_comm]

/-- A credential that goes out comes in on the other side if it can be read and carried. -/
theorem credential?_forward_iff {v : HeaderValue} {value : String} :
    (c.withCredential carrier v).forward.credential? carrier = some value ↔
      v.bytes = Text.toBytes value ∧ (∀ x ∈ value.toList, HeaderValue.IsVisible x) ∧
        (c.outbound? carrier).isSome = true := by
  rw [credential?, inbound?_forward, outbound?_withCredential]
  cases c.outbound? carrier with
  | none => simp
  | some h =>
    rw [Option.map_some, Option.bind_some, Headers.get?, Headers.values_set_self, List.head?_cons,
      Option.bind_some, HeaderValue.read?_eq_some_iff]
    simp

/-! ## A hop -/

/-- Whether a token that was sent under a scheme is found on the other side. -/
structure Delivers (c : Context) (scheme token : String) (carrier : Carrier) : Prop where
  /-- There is a token. -/
  nonempty : token ≠ ""
  /-- The scheme ends where the token begins. -/
  whole : ' ' ∉ scheme.toList
  /-- All that was sent can be read. -/
  visible : ∀ x ∈ scheme.toList ++ token.toList, HeaderValue.IsVisible x
  /-- Headers go out by this convention. -/
  carried : carrier = .grpc ∨ c.client.isSome = true

/-- What is found on the other side is the token that was sent. -/
theorem token_forward_iff (hsent : c.withToken scheme token carrier = .ok d) {other : String} :
    d.forward.token scheme carrier = .ok other ↔
      other = token ∧ c.Delivers scheme token carrier := by
  obtain ⟨v, hbytes, rfl⟩ := withToken_eq_ok_iff.mp hsent
  rw [token_eq_ok_iff]
  constructor
  · rintro ⟨value, hvalue, hparse⟩
    obtain ⟨hv, hvisible, hcarried⟩ := credential?_forward_iff.mp hvalue
    obtain rfl := Text.toBytes_injective (hbytes.symm.trans hv)
    obtain ⟨rfl, hne, hspace⟩ := parseAuthorization_written_iff.mp hparse
    exact ⟨rfl, hne, hspace, forall_isVisible_written.mp hvisible,
      isSome_outbound?_iff.mp hcarried⟩
  · rintro ⟨rfl, h⟩
    refine ⟨_, credential?_forward_iff.mpr ⟨hbytes, ?_, isSome_outbound?_iff.mpr h.carried⟩, ?_⟩
    · exact forall_isVisible_written.mpr h.visible
    · exact parseAuthorization_written_iff.mpr ⟨rfl, h.nonempty, h.whole⟩

/-- A token cannot be sent under a scheme if the two hold a control character, and then only.  When
it is sent, it is found on the other side under the conditions of `Delivers`, and reported as
missing otherwise; no other token is ever found there. -/
theorem hop_exact (c : Context) (scheme token : String) (carrier : Carrier) :
    (∀ e, c.withToken scheme token carrier = .error e ↔
      e = .invalidToken ∧ ∃ x ∈ scheme.toList ++ token.toList, HeaderValue.IsControl x) ∧
    ∀ d, c.withToken scheme token carrier = .ok d →
      (d.forward.token scheme carrier = .ok token ↔ c.Delivers scheme token carrier) ∧
      (d.forward.token scheme carrier = .error .missingBearerToken ↔
        ¬c.Delivers scheme token carrier) ∧
      ∀ other, d.forward.token scheme carrier = .ok other → other = token := by
  refine ⟨fun _ ↦ withToken_eq_error_iff, fun d hsent ↦ ?_⟩
  have hfound : d.forward.token scheme carrier = .ok token ↔ c.Delivers scheme token carrier := by
    rw [token_forward_iff hsent, and_iff_right rfl]
  refine ⟨hfound, ?_, fun other hother ↦ ((token_forward_iff hsent).mp hother).1⟩
  rw [← hfound]
  constructor
  · intro herror hok
    cases herror.symm.trans hok
  · intro hnot
    obtain ⟨other, hother⟩ | herror := token_ok_or_error d.forward scheme carrier
    · obtain rfl := ((token_forward_iff hsent).mp hother).1
      exact absurd hother hnot
    · exact herror

/-- A context with a transport to go by, and with an older credential in the headers of the
transport. -/
def renewing : Context where
  client := some
    { request := Headers.empty.set authorizationHeader ⟨Text.toBytes "Basic old", by decide⟩ }

/-- The transport delivers a token with a space in it, and not the older credential. -/
theorem hop_exact_renewing :
    ∃ d, renewing.withToken "Bearer" "a b" .transport = .ok d ∧
      d.forward.token "Bearer" .transport = .ok "a b" := by
  have hsent : renewing.withToken "Bearer" "a b" .transport =
      .ok (renewing.withCredential .transport ⟨Text.toBytes "Bearer a b", by decide⟩) :=
    withToken_eq_ok_iff.mpr ⟨_, by decide, rfl⟩
  have hdelivers : renewing.Delivers "Bearer" "a b" .transport :=
    ⟨by decide, by decide, by simp [HeaderValue.IsVisible], .inr rfl⟩
  exact ⟨_, hsent, ((hop_exact renewing "Bearer" "a b" .transport).2 _ hsent).1.mpr hdelivers⟩

end Context

end BearerAuth
