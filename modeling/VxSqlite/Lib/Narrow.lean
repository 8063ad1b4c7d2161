import Mathlib.Algebra.Order.Ring.Int
import Mathlib.Tactic.Linarith
import Mathlib.Tactic.Positivity
import Mathlib.Tactic.Ring

/-!
# Narrowing an integer to a machine word

`narrow bits x` is the two's complement value of the low `bits` bits of `x`, which is what a
cast to a narrower signed type leaves. It is the identity exactly on the word's own range, and
a value outside the range is mapped a non-zero multiple of `2 ^ bits` away.
-/

namespace VxSqlite

/-- The signed value of the low `bits` bits. -/
def narrow (bits : Nat) (x : Int) : Int := x.bmod (2 ^ bits)

/-- The range of a signed word of `bits` bits. -/
def InWord (bits : Nat) (x : Int) : Prop := -(2 ^ bits) ≤ 2 * x ∧ 2 * x < 2 ^ bits

theorem narrow_inWord (bits : Nat) (hbits : 0 < bits) (x : Int) : InWord bits (narrow bits x) := by
  obtain ⟨n, rfl⟩ : ∃ n, bits = n + 1 := ⟨bits - 1, by omega⟩
  have hpos : 0 < 2 ^ (n + 1) := Nat.two_pow_pos _
  have hlo := Int.le_bmod (x := x) hpos
  have hhi := Int.bmod_lt (x := x) hpos
  have hpow : ((2 ^ (n + 1) : Nat) : Int) = 2 * 2 ^ n := by push_cast; ring
  rw [hpow] at hlo hhi
  unfold InWord narrow
  rw [show (2 : Int) ^ (n + 1) = 2 * 2 ^ n by ring]
  omega

/-- Narrowing keeps a value that fits the word. -/
theorem narrow_of_inWord {bits : Nat} {x : Int} (h : InWord bits x) : narrow bits x = x := by
  unfold narrow
  apply Int.bmod_eq_of_le_mul_two
  · push_cast
    have := h.1
    omega
  · push_cast
    have := h.2
    omega

/-- Narrowing moves a value by a multiple of the word's size. -/
theorem narrow_eq_add_mul (bits : Nat) (x : Int) : ∃ k : Int, x = narrow bits x + k * 2 ^ bits := by
  obtain ⟨k, hk⟩ := Int.dvd_self_sub_bmod (x := x) (m := 2 ^ bits)
  refine ⟨k, ?_⟩
  push_cast at hk
  unfold narrow
  linarith [mul_comm k ((2 : Int) ^ bits)]

/-- A non-negative value that narrowing changes lies at least a whole word above the result. -/
theorem add_le_of_narrow_ne {bits : Nat} {x : Int} (hx : 0 ≤ x) (hne : narrow bits x ≠ x)
    (hbits : 0 < bits) : narrow bits x + 2 ^ bits ≤ x := by
  obtain ⟨k, hk⟩ := narrow_eq_add_mul bits x
  have hword := narrow_inWord bits hbits x
  have hpos : (0 : Int) < 2 ^ bits := by positivity
  have hk1 : 1 ≤ k := by
    by_contra hlt
    have hk0 : k ≠ 0 := fun h0 => hne (by rw [h0] at hk; linarith)
    have hneg : k * 2 ^ bits ≤ -1 * 2 ^ bits :=
      mul_le_mul_of_nonneg_right (by omega) hpos.le
    have := hword.2
    linarith
  have : 1 * 2 ^ bits ≤ k * 2 ^ bits := mul_le_mul_of_nonneg_right hk1 hpos.le
  linarith

end VxSqlite
