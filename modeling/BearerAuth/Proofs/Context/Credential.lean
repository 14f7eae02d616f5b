import BearerAuth.Context.Credential

/-!
# Credentials under way

What goes out of one context comes into the next, so a credential is sent in one and received in the
other.  It arrives whole if it can be read, its scheme ends at the first space, and there is
something to carry it (`Context.exists_withToken`); whatever credentials the carrier held before are
gone then.
-/

namespace BearerAuth

/-! ## Values of headers -/

namespace HeaderValue

variable {x : Char} {text : String} {v : HeaderValue}

/-- Whether a character is a control character of ASCII other than the tabulator. -/
def IsControl (x : Char) : Prop := (x < ' ' ∧ x ≠ '\t') ∨ x = '\x7f'

instance (x : Char) : Decidable (IsControl x) := inferInstanceAs (Decidable (_ ∨ _))

/-- Whether a character is visible ASCII, the space or the tabulator. -/
def IsVisible (x : Char) : Prop := x = '\t' ∨ (' ' ≤ x ∧ x ≤ '~')

instance (x : Char) : Decidable (IsVisible x) := inferInstanceAs (Decidable (_ ∨ _))

theorem isControl_iff : IsControl x ↔ (x.toNat < 32 ∧ x.toNat ≠ 9) ∨ x.toNat = 127 := by
  rw [IsControl, ne_eq, ← Char.toNat_inj, ← Char.toNat_inj]
  exact Iff.rfl

theorem isVisible_iff : IsVisible x ↔ x.toNat = 9 ∨ (32 ≤ x.toNat ∧ x.toNat ≤ 126) := by
  rw [IsVisible, ← Char.toNat_inj]
  exact Iff.rfl

/-- What is visible is no control character. -/
theorem IsVisible.not_isControl (h : IsVisible x) : ¬IsControl x := by
  rw [isVisible_iff] at h
  rw [isControl_iff]
  omega

theorem isSendable_iff {b : UInt8} :
    isSendable b = true ↔ ¬((b.toNat < 32 ∧ b.toNat ≠ 9) ∨ b.toNat = 127) := by
  simp only [isSendable, Bool.or_eq_true, Bool.and_eq_true, decide_eq_true_eq, ne_eq,
    ← UInt8.toNat_inj, UInt8.le_iff_toNat_le, UInt8.reduceToNat]
  omega

theorem isReadable_iff {b : UInt8} :
    isReadable b = true ↔ b.toNat = 9 ∨ (32 ≤ b.toNat ∧ b.toNat ≤ 126) := by
  simp only [isReadable, Bool.or_eq_true, Bool.and_eq_true, decide_eq_true_eq,
    ← UInt8.toNat_inj, UInt8.le_iff_toNat_le, UInt8.lt_iff_toNat_lt, UInt8.reduceToNat]
  omega

/-- The bytes of a character can be sent unless it is a control character. -/
theorem all_isSendable_utf8EncodeChar_iff :
    (String.utf8EncodeChar x).all isSendable = true ↔ ¬IsControl x := by
  rw [isControl_iff]
  by_cases hx : x.toNat < 128
  · have hbyte : (UInt8.ofNat x.toNat).toNat = x.toNat := Nat.mod_eq_of_lt (by omega)
    rw [Text.utf8EncodeChar_of_lt hx, List.all_cons, List.all_nil, Bool.and_true, isSendable_iff,
      hbyte]
  · refine iff_of_true (List.all_eq_true.mpr fun b hb ↦ isSendable_iff.mpr ?_) (by omega)
    have hbyte := Text.le_of_mem_utf8EncodeChar (Nat.not_lt.mp hx) hb
    omega

/-- The bytes of a character can be read if it is visible. -/
theorem all_isReadable_utf8EncodeChar_iff :
    (String.utf8EncodeChar x).all isReadable = true ↔ IsVisible x := by
  rw [isVisible_iff]
  by_cases hx : x.toNat < 128
  · have hbyte : (UInt8.ofNat x.toNat).toNat = x.toNat := Nat.mod_eq_of_lt (by omega)
    rw [Text.utf8EncodeChar_of_lt hx, List.all_cons, List.all_nil, Bool.and_true, isReadable_iff,
      hbyte]
  · refine iff_of_false (fun hall ↦ ?_) (by omega)
    obtain ⟨b, hb⟩ := List.exists_mem_of_ne_nil _ (String.utf8EncodeChar_ne_nil (c := x))
    have hbyte := Text.le_of_mem_utf8EncodeChar (Nat.not_lt.mp hx) hb
    have hread := isReadable_iff.mp (List.all_eq_true.mp hall b hb)
    omega

/-- A text can be sent unless it holds a control character. -/
theorem all_isSendable_toBytes_iff :
    (Text.toBytes text).all isSendable = true ↔ ∀ x ∈ text.toList, ¬IsControl x := by
  rw [Text.toBytes_eq_flatMap, List.all_flatMap, List.all_eq_true]
  simp only [all_isSendable_utf8EncodeChar_iff]

/-- A text can be read if it is visible. -/
theorem all_isReadable_toBytes_iff :
    (Text.toBytes text).all isReadable = true ↔ ∀ x ∈ text.toList, IsVisible x := by
  rw [Text.toBytes_eq_flatMap, List.all_flatMap, List.all_eq_true]
  simp only [all_isReadable_utf8EncodeChar_iff]

/-- A value consists of the bytes of the text that it was made of. -/
theorem of?_eq_some_iff : of? text = some v ↔ v.bytes = Text.toBytes text := by
  rw [of?, ofBytes?]
  constructor
  · intro h
    split at h
    · cases h
      rfl
    · cases h
  · intro h
    have hsendable := v.sendable
    rw [h] at hsendable
    rw [dif_pos hsendable]
    congr
    exact h.symm

/-- No value is made of a text with a control character. -/
theorem of?_eq_none_iff : of? text = none ↔ ∃ x ∈ text.toList, IsControl x := by
  rw [of?, ofBytes?, dite_eq_right_iff]
  simp only [all_isSendable_toBytes_iff, reduceCtorEq, imp_false, Classical.not_forall,
    Classical.not_not, exists_prop]

/-- A value is read if it is visible, and as the text that it was made of. -/
theorem read?_eq_some_iff :
    v.read? = some text ↔ v.bytes = Text.toBytes text ∧ ∀ x ∈ text.toList, IsVisible x := by
  rw [read?, Option.ite_none_right_eq_some, text?]
  constructor
  · rintro ⟨hread, htext⟩
    have hbytes := Text.toBytes_of_ofBytes? htext
    rw [← hbytes] at hread
    exact ⟨hbytes.symm, all_isReadable_toBytes_iff.mp hread⟩
  · rintro ⟨hbytes, hvisible⟩
    rw [hbytes]
    exact ⟨all_isReadable_toBytes_iff.mpr hvisible, Text.ofBytes?_toBytes text⟩

/-- A visible text can be sent, and is read as it is. -/
theorem exists_of?_of_isVisible (h : ∀ x ∈ text.toList, IsVisible x) :
    ∃ v, of? text = some v ∧ v.bytes = Text.toBytes text ∧ v.read? = some text := by
  have hsendable : (Text.toBytes text).all isSendable = true :=
    all_isSendable_toBytes_iff.mpr fun x hx ↦ (h x hx).not_isControl
  exact ⟨⟨_, hsendable⟩, dif_pos hsendable, rfl, read?_eq_some_iff.mpr ⟨rfl, h⟩⟩

end HeaderValue

/-! ## Schemes and tokens -/

/-- A text is cut where it was put together, if its first part holds no space. -/
theorem splitOnce?_space_iff {value name rest : String} :
    Text.splitOnce? ' ' value.toList = some (name.toList, rest.toList) ↔
      value = name ++ " " ++ rest ∧ ' ' ∉ name.toList := by
  rw [Text.splitOnce?_eq_some_iff, ← String.toList_inj]
  simp

/-- A token is found behind the first space, if what stands before it is the scheme but for the case
of ASCII letters. -/
theorem parseAuthorization_eq_ok_iff {value scheme token : String} :
    parseAuthorization value scheme = .ok token ↔
      ∃ name : String, value = name ++ " " ++ token ∧ ' ' ∉ name.toList ∧
        lowerCase name = lowerCase scheme ∧ token ≠ "" := by
  simp only [parseAuthorization, lowerCase, String.ofList_inj]
  constructor
  · intro h
    split at h
    · cases h
    · next before rest hcut =>
      split at h
      · next hcond =>
        cases h
        rw [← String.toList_ofList (l := before), ← String.toList_ofList (l := rest)] at hcut
        obtain ⟨hvalue, hspace⟩ := splitOnce?_space_iff.mp hcut
        refine ⟨.ofList before, hvalue, hspace, ?_, fun hempty ↦ hcond.2 ?_⟩
        · rw [String.toList_ofList]
          exact hcond.1
        · simpa using congrArg String.toList hempty
      · cases h
  · rintro ⟨name, hvalue, hspace, hscheme, hne⟩
    rw [splitOnce?_space_iff.mpr ⟨hvalue, hspace⟩]
    simp only [hscheme, true_and, String.ofList_toList]
    exact if_pos fun hnil ↦ hne (String.toList_inj.mp hnil)

/-! ## From context to context -/

namespace Context

/-- The headers that go out by a convention. -/
def outbound? (c : Context) : Carrier → Option Headers
  | .grpc => some c.outgoing
  | .transport => c.client.map Transport.request

variable (c : Context) (carrier : Carrier)

/-- What goes out on one side comes in on the other. -/
theorem inbound?_forward : c.forward.inbound? carrier = c.outbound? carrier := by
  cases carrier with
  | grpc => rfl
  | transport =>
    simp only [inbound?, outbound?, forward, Option.map_map]
    rfl

/-- A credential is set among the headers that go out, if there are any to set it among. -/
theorem outbound?_withCredential (v : HeaderValue) :
    (c.withCredential carrier v).outbound? carrier =
      (c.outbound? carrier).map (·.set authorizationHeader v) := by
  cases carrier with
  | grpc => rfl
  | transport =>
    simp only [outbound?, withCredential, Option.map_map]
    rfl

/-- The token is looked for among the headers that come in, and nowhere else. -/
theorem token_congr {c d : Context} {carrier carrier' : Carrier}
    (h : c.inbound? carrier = d.inbound? carrier') (scheme : String) :
    c.token scheme carrier = d.token scheme carrier' := by
  rw [token, token, credential?, credential?, h]

/-- The token of a credential is found where the credential is the only one. -/
theorem token_of_values {c : Context} {carrier : Carrier} {h : Headers} {v : HeaderValue}
    {scheme token : String} (hin : c.inbound? carrier = some h)
    (hvalues : h.values authorizationHeader = [v]) (hread : v.read? = some (scheme ++ " " ++ token))
    (hscheme : ' ' ∉ scheme.toList) (htoken : token ≠ "") :
    c.token scheme carrier = .ok token := by
  have hcredential : c.credential? carrier = some (scheme ++ " " ++ token) := by
    rw [credential?, hin, Option.bind_some, Headers.get?, hvalues, List.head?_cons,
      Option.bind_some, hread]
  rw [Context.token, hcredential]
  exact parseAuthorization_eq_ok_iff.mpr ⟨scheme, rfl, hscheme, rfl, htoken⟩

/-- A token that can be read is sent under a scheme without spaces, in place of all other
credentials of its carrier, and received on the other side. -/
theorem exists_withToken {c : Context} {carrier : Carrier} {h : Headers} {scheme token : String}
    (hout : c.outbound? carrier = some h)
    (hread : ∀ x ∈ (scheme ++ " " ++ token).toList, HeaderValue.IsVisible x)
    (hscheme : ' ' ∉ scheme.toList) (htoken : token ≠ "") :
    ∃ d v, c.withToken scheme token carrier = .ok d ∧
      v.bytes = Text.toBytes (scheme ++ " " ++ token) ∧
      d.outbound? carrier = some (h.set authorizationHeader v) ∧
      d.forward.token scheme carrier = .ok token := by
  obtain ⟨v, hv, hbytes, hvread⟩ := HeaderValue.exists_of?_of_isVisible hread
  have hset : (c.withCredential carrier v).outbound? carrier =
      some (h.set authorizationHeader v) := by
    rw [outbound?_withCredential, hout, Option.map_some]
  refine ⟨c.withCredential carrier v, v, by rw [withToken, hv], hbytes, hset, ?_⟩
  refine token_of_values ((inbound?_forward _ _).trans hset) ?_ hvread hscheme htoken
  exact Headers.values_set_self _ _ _

end Context

end BearerAuth
