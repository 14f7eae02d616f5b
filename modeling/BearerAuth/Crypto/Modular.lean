import BearerAuth.Power

/-!
# Arithmetic modulo a number

Powers by repeated squaring and inverses by the extended Euclidean algorithm.  A power is what it
says (`powMod_eq`).
-/

namespace BearerAuth.Modular

/-- The power of a base modulo `m`. -/
def powMod (base exponent m : Nat) : Nat :=
  if exponent = 0 then 1 % m else
    let half := powMod (base * base % m) (exponent / 2) m
    if exponent % 2 = 1 then half * base % m else half
termination_by exponent
decreasing_by omega

/-- Halving the exponent squares the base. -/
theorem pow_sq_mod (base exponent m : Nat) :
    (base * base % m) ^ (exponent / 2) % m = base ^ (2 * (exponent / 2)) % m := by
  rw [← Nat.pow_mod, Nat.pow_mul, Nat.pow_two]

/-- Repeated squaring computes the power. -/
theorem powMod_eq (base exponent m : Nat) : powMod base exponent m = base ^ exponent % m := by
  fun_induction powMod base exponent m with
  | case1 base => simp
  | case2 base exponent hne half hodd ih =>
    have hexp : 2 * (exponent / 2) + 1 = exponent := by omega
    change powMod (base * base % m) (exponent / 2) m * base % m = _
    rw [ih, pow_sq_mod, Nat.mul_mod, Nat.mod_mod, ← Nat.mul_mod, ← Nat.pow_succ,
      Nat.succ_eq_add_one, hexp]
  | case3 base exponent hne half heven ih =>
    have hexp : 2 * (exponent / 2) = exponent := by omega
    change powMod (base * base % m) (exponent / 2) m = _
    rw [ih, pow_sq_mod, hexp]

/-- The extended Euclidean algorithm on two remainders, with the factor that makes each of them
from one and the same number. -/
def euclid (r s : Nat) (t u : Int) : Int :=
  if _h : s = 0 then t else euclid s (r % s) u (t - (r / s : Nat) * u)
termination_by s
decreasing_by exact Nat.mod_lt _ (Nat.pos_of_ne_zero ‹_›)

/-- The inverse of a number modulo `m`, if there is one. -/
def inverse (a m : Nat) : Nat := (euclid m (a % m) 0 1 % m).toNat

/-- The difference of two numbers modulo `m`. -/
def sub (a b m : Nat) : Nat := (a + (m - b % m)) % m

/-- A number and its opposite have the same square. -/
theorem opposite_mul_self {m : Nat} (hm : 0 < m) (a : Nat) :
    sub 0 a m * sub 0 a m % m = a * a % m := by
  have hsum : m - a % m + a % m = m := Nat.sub_add_cancel (Nat.le_of_lt (Nat.mod_lt a hm))
  unfold sub
  rw [Nat.zero_add, ← Nat.mul_mod, Nat.mul_mod a]
  generalize m - a % m = b at hsum ⊢
  generalize a % m = a at hsum ⊢
  subst hsum
  calc b * b % (b + a) = (b * b + (b + a) * a) % (b + a) := (Nat.add_mul_mod_self_left ..).symm
    _ = (a * a + (b + a) * b) % (b + a) := by
      congr 1
      rw [Nat.add_mul, Nat.add_mul, Nat.mul_comm a b]
      omega
    _ = a * a % (b + a) := Nat.add_mul_mod_self_left ..

end BearerAuth.Modular
