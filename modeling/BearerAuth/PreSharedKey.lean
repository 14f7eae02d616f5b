import BearerAuth.Claims.Basic

/-!
# Pre-shared keys

The plainest backend: a token is one of some keys, and it says nothing about its bearer.
-/

namespace BearerAuth

/-- Accepts some keys; a key that is listed twice counts once. -/
structure PreSharedKeys where
  /-- The keys. -/
  keys : List String
  /-- No key is listed twice. -/
  nodup : keys.Nodup
  deriving DecidableEq, Repr

namespace PreSharedKeys

/-- The keys of a list, each once. -/
def distinct : List String → List String
  | [] => []
  | key :: rest => if key ∈ rest then distinct rest else key :: distinct rest

/-- Leaving out repetitions leaves out no key. -/
theorem mem_distinct {l : List String} {key : String} : key ∈ distinct l ↔ key ∈ l := by
  induction l with
  | nil => simp [distinct]
  | cons k rest ih =>
    rw [distinct]
    split
    · next hk => rw [ih, List.mem_cons]; exact ⟨Or.inr, fun h ↦ h.elim (· ▸ hk) id⟩
    · rw [List.mem_cons, List.mem_cons, ih]

/-- Repetitions are left out. -/
theorem nodup_distinct (l : List String) : (distinct l).Nodup := by
  induction l with
  | nil => simp [distinct]
  | cons k rest ih =>
    rw [distinct]
    split
    · exact ih
    · next hk => exact List.nodup_cons.mpr ⟨fun h ↦ hk (mem_distinct.mp h), ih⟩

/-- The backend that accepts the keys of a list. -/
def ofList (l : List String) : PreSharedKeys := ⟨distinct l, nodup_distinct l⟩

/-- How many keys there are. -/
def size (p : PreSharedKeys) : Nat := p.keys.length

/-- What is reported when there is no key. -/
def noKeys : AuthError := .invalidConfiguration "please specify at least one key"

/-- Accepts a token that is one of the keys. -/
def authenticateToken (p : PreSharedKeys) (token : String) : Except AuthError Claims :=
  if p.keys = [] then .error noKeys
  else if token ∈ p.keys then .ok .empty
  else .error .unauthenticated

/-- One of the keys, chosen by a random number. -/
def createIdentity (p : PreSharedKeys) (random : Nat) : Except AuthError String :=
  match p.keys[random % p.keys.length]? with
  | some key => .ok key
  | none => .error noKeys

end PreSharedKeys

end BearerAuth
