import BearerAuth.Proofs.Context.Hop
import Mathlib.Data.List.Forall2

/-!
# What is a credential

A value is a credential of a scheme if it consists of a name, a space and a token: the name has no
space and is the scheme but for the case of ASCII letters (`EqButCase`), and the token is any text
but the empty one.  The token of a credential is found and nothing else is
(`parseAuthorization_exact`).

Schemes are compared by their lower case, which is known for ASCII letters only
(`lowerCase_eq_lowerCase_iff`).  So a scheme may be written in any case, but a letter outside ASCII
stands for itself alone: in the other case it makes another scheme, also where that case is an ASCII
letter or more than one letter.
-/

namespace BearerAuth

/-! ## Letters in both cases -/

section

variable {x y : Char}

/-- Whether two characters are the capital and the small letter of one place in the alphabet. -/
def IsCapitalOf (x y : Char) : Prop :=
  ∃ n < 26, x.toNat = 'A'.toNat + n ∧ y.toNat = 'a'.toNat + n

/-- Whether two characters are the same, or one ASCII letter in both cases. -/
def SameLetter (x y : Char) : Prop := x = y ∨ IsCapitalOf x y ∨ IsCapitalOf y x

instance (x y : Char) : Decidable (IsCapitalOf x y) :=
  inferInstanceAs (Decidable (∃ n < 26, _))

instance (x y : Char) : Decidable (SameLetter x y) := inferInstanceAs (Decidable (_ ∨ _))

theorem isCapitalOf_iff :
    IsCapitalOf x y ↔ (65 ≤ x.toNat ∧ x.toNat ≤ 90) ∧ y.toNat = x.toNat + 32 := by
  have hA : 'A'.toNat = 65 := rfl
  have ha : 'a'.toNat = 97 := rfl
  constructor
  · rintro ⟨n, hn, hx, hy⟩
    omega
  · rintro ⟨⟨hlow, hhigh⟩, hy⟩
    exact ⟨x.toNat - 65, by omega, by omega, by omega⟩

/-- Capitals are 32 places before their small letters, and all else is its own lower case. -/
theorem toNat_toLower (x : Char) :
    x.toLower.toNat = if 65 ≤ x.toNat ∧ x.toNat ≤ 90 then x.toNat + 32 else x.toNat := by
  have hrange : (x.val ≥ 'A'.val ∧ x.val ≤ 'Z'.val) ↔ 65 ≤ x.toNat ∧ x.toNat ≤ 90 := by
    simp only [ge_iff_le, UInt32.le_iff_toNat_le]
    rfl
  by_cases hcapital : 65 ≤ x.toNat ∧ x.toNat ≤ 90
  · have hlower : x.toLower.toNat = (x.val + 32).toNat :=
      congrArg Char.toNat (dif_pos (hrange.mpr hcapital))
    rw [if_pos hcapital, hlower, UInt32.toNat_add, Char.toNat_val]
    exact Nat.mod_eq_of_lt (by simp; omega)
  · have hlower : x.toLower = x := dif_neg fun h ↦ hcapital (hrange.mp h)
    rw [if_neg hcapital, hlower]

/-- Characters have the same lower case if they are the same letter. -/
theorem toLower_eq_toLower_iff : x.toLower = y.toLower ↔ SameLetter x y := by
  rw [SameLetter, isCapitalOf_iff, isCapitalOf_iff, ← Char.toNat_inj, ← Char.toNat_inj,
    toNat_toLower, toNat_toLower]
  split_ifs <;> omega

/-- A character outside ASCII is no other letter. -/
theorem SameLetter.eq_of_ascii_lt (h : SameLetter x y) (hx : '\x7f' < x) : x = y := by
  have hx : 127 < x.toNat := hx
  simp only [SameLetter, isCapitalOf_iff] at h
  rcases h with h | h | h
  · exact h
  · omega
  · omega

end

/-! ## Schemes in any case -/

/-- Whether two texts are the same but for the case of ASCII letters. -/
def EqButCase (name scheme : String) : Prop := List.Forall₂ SameLetter name.toList scheme.toList

instance (name scheme : String) : Decidable (EqButCase name scheme) :=
  inferInstanceAs (Decidable (List.Forall₂ _ _ _))

/-- Texts have the same lower case if they are the same but for the case of ASCII letters. -/
theorem lowerCase_eq_lowerCase_iff {name scheme : String} :
    lowerCase name = lowerCase scheme ↔ EqButCase name scheme := by
  rw [lowerCase, lowerCase, String.ofList_inj, EqButCase, ← List.forall₂_eq_eq_eq,
    List.forall₂_map_left_iff, List.forall₂_map_right_iff]
  simp only [toLower_eq_toLower_iff]

/-- Whether a text is another one with something else in the place of a character outside ASCII,
such as the other case of a letter, be it one character or several. -/
inductive Respells : String → String → Prop
  /-- What stands around the character stays as it is. -/
  | intro {before after other : String} {x : Char} : '\x7f' < x → other ≠ String.singleton x →
    ' ' ∉ other.toList →
    Respells (before ++ String.singleton x ++ after) (before ++ other ++ after)

/-- A text that is spelled otherwise outside ASCII is another one in whatever case. -/
theorem Respells.lowerCase_ne {name name' : String} (h : Respells name name') :
    lowerCase name ≠ lowerCase name' := by
  cases h with
  | @intro before after other x hx hother _ =>
    intro hlower
    rw [lowerCase, lowerCase, String.ofList_inj] at hlower
    -- the surroundings cancel, so what came in is one character with the lower case of `x`
    have hrest : [x.toLower] ++ after.toList.map Char.toLower =
        other.toList.map Char.toLower ++ after.toList.map Char.toLower := by simpa using hlower
    obtain ⟨y, hy, hxy⟩ := List.map_eq_singleton_iff.mp (List.append_cancel_right hrest).symm
    obtain rfl : x = y := (toLower_eq_toLower_iff.mp hxy.symm).eq_of_ascii_lt hx
    exact hother (String.toList_inj.mp (by simpa using hy))

/-- No space comes in when a text is spelled otherwise. -/
theorem Respells.space_notMem {name name' : String} (h : Respells name name')
    (hspace : ' ' ∉ name.toList) : ' ' ∉ name'.toList := by
  cases h with
  | intro _ _ hother =>
    simp only [String.toList_append, List.mem_append, not_or] at hspace ⊢
    exact ⟨⟨hspace.1.1, hother⟩, hspace.2⟩

/-- A space is no letter, so it is in a text in every case or in none. -/
theorem space_mem_iff_of_lowerCase_eq {name scheme : String}
    (h : lowerCase name = lowerCase scheme) : ' ' ∈ name.toList ↔ ' ' ∈ scheme.toList := by
  have hspace (x : Char) : x.toLower = ' ' ↔ x = ' ' := by
    have h32 : ' '.toNat = 32 := rfl
    rw [← Char.toNat_inj, ← Char.toNat_inj, toNat_toLower]
    split <;> omega
  have hmap (l : List Char) : ' ' ∈ l.map Char.toLower ↔ ' ' ∈ l := by simp [hspace]
  rw [lowerCase, lowerCase, String.ofList_inj] at h
  rw [← hmap, h, hmap]

/-! ## Credentials -/

/-- The credentials of a scheme, each with its token. -/
inductive IsCredential (scheme : String) : (value token : String) → Prop
  /-- A name for the scheme, a space and a token. -/
  | intro {name token : String} : ' ' ∉ name.toList → EqButCase name scheme → token ≠ "" →
    IsCredential scheme (name ++ " " ++ token) token

section

variable {scheme value token : String}

/-- The token of a credential is found, and no other. -/
theorem parseAuthorization_eq_ok_iff_isCredential :
    parseAuthorization value scheme = .ok token ↔ IsCredential scheme value token := by
  rw [parseAuthorization_eq_ok_iff]
  constructor
  · rintro ⟨name, rfl, hspace, hname, hne⟩
    exact ⟨hspace, lowerCase_eq_lowerCase_iff.mp hname, hne⟩
  · rintro ⟨hspace, hname, hne⟩
    exact ⟨_, rfl, hspace, lowerCase_eq_lowerCase_iff.mpr hname, hne⟩

/-- What is no credential is reported as missing. -/
theorem parseAuthorization_eq_error_iff {e : AuthError} :
    parseAuthorization value scheme = .error e ↔
      e = .missingBearerToken ∧ ∀ token, ¬IsCredential scheme value token := by
  simp only [← parseAuthorization_eq_ok_iff_isCredential]
  obtain ⟨token, hok⟩ | herror := parseAuthorization_ok_or_error value scheme
  · simp [hok]
  · simp [herror, eq_comm]

/-- Behind a name without spaces stands the token, if the name is the scheme in some case. -/
theorem parseAuthorization_append {name : String} (hspace : ' ' ∉ name.toList) :
    parseAuthorization (name ++ " " ++ token) scheme =
      if lowerCase name = lowerCase scheme ∧ token ≠ "" then .ok token
      else .error .missingBearerToken := by
  rw [parseAuthorization, splitOnce?_space_iff.mpr ⟨rfl, hspace⟩]
  simp [lowerCase, String.ofList_inj]

/-- The name behind which a token is found holds no space and is the scheme in some case. -/
theorem named_of_parseAuthorization {name : String}
    (h : parseAuthorization (name ++ " " ++ token) scheme = .ok token) :
    ' ' ∉ name.toList ∧ lowerCase name = lowerCase scheme := by
  obtain ⟨other, hvalue, hspace, hname, -⟩ := parseAuthorization_eq_ok_iff.mp h
  obtain rfl : name = other := by simpa using hvalue
  exact ⟨hspace, hname⟩

end

/-- A value is read as a token under a scheme just if it is a credential of the scheme with this
token, and a value that is none is reported as missing.  The token is unique.  A space may stand in
it and begin it.

Neither the name in the value nor the scheme counts by more than its lower case in ASCII.  Where one
of them is found and is then spelled otherwise outside ASCII, nothing is found. -/
theorem parseAuthorization_exact (scheme : String) :
    (∀ value token, parseAuthorization value scheme = .ok token ↔
      IsCredential scheme value token) ∧
    (∀ value e, parseAuthorization value scheme = .error e ↔
      e = .missingBearerToken ∧ ∀ token, ¬IsCredential scheme value token) ∧
    (∀ value token token', IsCredential scheme value token → IsCredential scheme value token' →
      token = token') ∧
    (∀ name name' scheme' token, ' ' ∉ name.toList → EqButCase name name' →
      EqButCase scheme scheme' →
      parseAuthorization (name ++ " " ++ token) scheme =
        parseAuthorization (name' ++ " " ++ token) scheme') ∧
    (∀ name name' token, Respells name name' →
      parseAuthorization (name ++ " " ++ token) scheme = .ok token →
      parseAuthorization (name' ++ " " ++ token) scheme = .error .missingBearerToken) ∧
    ∀ scheme' value token, Respells scheme scheme' →
      parseAuthorization value scheme = .ok token →
      parseAuthorization value scheme' = .error .missingBearerToken := by
  refine ⟨fun _ _ ↦ parseAuthorization_eq_ok_iff_isCredential,
    fun _ _ ↦ parseAuthorization_eq_error_iff, ?unique, ?recased, ?respelled, ?respelledScheme⟩
  case unique =>
    intro value token token' h h'
    rw [← parseAuthorization_eq_ok_iff_isCredential] at h h'
    exact Except.ok.inj (h.symm.trans h')
  case recased =>
    intro name name' scheme' token hspace hname hscheme
    rw [← lowerCase_eq_lowerCase_iff] at hname hscheme
    have hspace' : ' ' ∉ name'.toList := by rwa [← space_mem_iff_of_lowerCase_eq hname]
    rw [parseAuthorization_append hspace, parseAuthorization_append hspace', hname, hscheme]
  case respelled =>
    intro name name' token hname hok
    obtain ⟨hspace, hlower⟩ := named_of_parseAuthorization hok
    rw [parseAuthorization_append (hname.space_notMem hspace), if_neg]
    rintro ⟨hlower', -⟩
    exact hname.lowerCase_ne (hlower.trans hlower'.symm)
  case respelledScheme =>
    intro scheme' value token hscheme hok
    obtain ⟨name, rfl, hspace, hlower, -⟩ := parseAuthorization_eq_ok_iff.mp hok
    rw [parseAuthorization_append hspace, if_neg]
    rintro ⟨hlower', -⟩
    exact hscheme.lowerCase_ne (hlower.symm.trans hlower')

/-- A scheme with a letter outside ASCII is found in ASCII capitals; of the two spaces behind it the
second begins the token.  With this letter in capitals too, in the value or in the scheme that is
expected, nothing is found. -/
theorem parseAuthorization_exact_green :
    parseAuthorization "GRüN  a b" "grün" = .ok " a b" ∧
      parseAuthorization "GRÜN  a b" "grün" = .error .missingBearerToken ∧
      parseAuthorization "GRüN  a b" "grÜn" = .error .missingBearerToken := by
  obtain ⟨hfound, -, -, hcase, hname, hscheme⟩ := parseAuthorization_exact "grün"
  have hplain : parseAuthorization "grün  a b" "grün" = .ok " a b" :=
    (hfound _ _).mpr (@IsCredential.intro "grün" "grün" " a b" (by decide) (by decide) (by decide))
  have hcapitals : parseAuthorization "GRüN  a b" "grün" = .ok " a b" :=
    (hcase "GRüN" "grün" "grün" " a b" (by decide) (by decide) (by decide)).trans hplain
  have hrespelled : Respells "GRüN" "GRÜN" :=
    @Respells.intro "GR" "N" "Ü" 'ü' (by decide) (by decide) (by decide)
  have hrespelledScheme : Respells "grün" "grÜn" :=
    @Respells.intro "gr" "n" "Ü" 'ü' (by decide) (by decide) (by decide)
  exact ⟨hcapitals, hname "GRüN" "GRÜN" " a b" hrespelled hcapitals,
    hscheme "grÜn" _ _ hrespelledScheme hcapitals⟩

end BearerAuth
