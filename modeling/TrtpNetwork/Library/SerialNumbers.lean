import Mathlib.Data.Nat.ModEq
import Mathlib.Tactic.Common

/-!
# Serial numbers

A sequence number of a wire format is a position in an unbounded stream, reduced modulo `m`.  It
can be read back only relative to a position that is known to be close: `Unwraps m ref b a` says
that `a` is the position with number `b` that lies less than half a period from `ref`.  There is at
most one (`Unwraps.unique`), and a position within half a period is the one its number unwraps to.
-/

namespace TrtpNetwork

/-- Position `a` is what the number `b` stands for, seen from position `ref`. -/
def Unwraps (m ref b a : ℕ) : Prop :=
  a % m = b ∧ ref < a + m / 2 ∧ a < ref + m / 2

instance (m ref b a : ℕ) : Decidable (Unwraps m ref b a) := by
  unfold Unwraps
  infer_instance

/-- Two positions with one number, less than a period apart, are one position. -/
theorem eq_of_mod_eq {m a a' : ℕ} (h : a % m = a' % m) (hlt : a < a' + m) (hlt' : a' < a + m) :
    a = a' := by
  have hmod : a ≡ a' [MOD m] := h
  refine hmod.eq_of_abs_lt ?_
  rw [abs_lt]
  omega

/-- A number stands for at most one position. -/
theorem Unwraps.unique {m ref b a a' : ℕ} (h : Unwraps m ref b a) (h' : Unwraps m ref b a') :
    a = a' := by
  obtain ⟨h1, h2, h3⟩ := h
  obtain ⟨h1', h2', h3'⟩ := h'
  exact eq_of_mod_eq (h1.trans h1'.symm) (by omega) (by omega)

/-- A position close to the reference is what its own number stands for. -/
theorem unwraps_mod {m ref a : ℕ} (h : ref < a + m / 2) (h' : a < ref + m / 2) :
    Unwraps m ref (a % m) a :=
  ⟨rfl, h, h'⟩

/-- **A deadline modulo `m`**, `d` behind `a`, is before any time from `a` on once it has
wrapped. -/
theorem mod_lt_iff {m d a b : ℕ} (hd : d < m) (hab : a ≤ b) :
    (a + d) % m < b ↔ m ≤ a + d ∨ a + d < b := by
  by_cases hfits : a + d < m
  · rw [Nat.mod_eq_of_lt hfits]
    omega
  · refine iff_of_true ?_ (Or.inl (Nat.le_of_not_lt hfits))
    by_cases ha : a < m
    · have hwrapped : (a + d) % m = a + d - m := by
        rw [Nat.mod_eq_sub_mod (by omega), Nat.mod_eq_of_lt (by omega)]
      omega
    · have hlt : (a + d) % m < m := Nat.mod_lt _ (by omega)
      omega

end TrtpNetwork
