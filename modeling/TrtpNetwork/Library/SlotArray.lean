import Mathlib.Data.List.Basic
import Mathlib.Data.Nat.Find
import Mathlib.Logic.Function.Basic
import Mathlib.Tactic.Common

/-!
# Arrays of pointers, scanned and shifted in place

A window of packets is kept in an array of pointers, `NULL` marking a free slot.  Two loops recur
over such arrays: the scan `while (p(t[i])) i++` that measures a leading run, and the shift
`for (i = s; i < s + n; i++) t[i - s] = t[i]` that moves the rest of the array to the front.

`scanWhile` and `shiftDown` are these loops, index by index, and `scanWhile_eq_some_iff` and
`shiftDown_apply` are what they compute.  The shift is worth its closed form: the slots from `n` on
keep their old contents, so whether anything is left over there is decided by the trip count alone.
`overwrite` is the array after a loop that sets consecutive cells, and `freeCount` the number that
a counter of free slots has to keep up with.
-/

namespace TrtpNetwork

variable {α : Type*}

/-- The cells found from an array pointer on; `none` is `NULL`. -/
abbrev Slots (α : Type*) := ℕ → Option α

/-! ## Scanning -/

/-- `while (p(t[i])) i++`, with at most `fuel` cells to inspect.  `none` when the scan would leave
the array. -/
def scanWhile (p : Option α → Bool) (t : Slots α) : ℕ → ℕ → Option ℕ
  | 0, _ => none
  | fuel + 1, i => if p (t i) then scanWhile p t fuel (i + 1) else some i

/-- The scan stops at the first cell that fails the test. -/
theorem scanWhile_eq_some_iff {p : Option α → Bool} {t : Slots α} {fuel i j : ℕ} :
    scanWhile p t fuel i = some j ↔
      i ≤ j ∧ j < i + fuel ∧ p (t j) = false ∧ ∀ k, i ≤ k → k < j → p (t k) = true := by
  induction fuel generalizing i with
  | zero =>
    simp only [scanWhile, reduceCtorEq, false_iff]
    omega
  | succ fuel ih =>
    rw [scanWhile]
    cases hp : p (t i) with
    | true =>
      rw [if_pos rfl, ih]
      constructor
      · rintro ⟨h1, h2, h3, h4⟩
        refine ⟨by omega, by omega, h3, fun k hk hkj => ?_⟩
        rcases Nat.eq_or_lt_of_le hk with rfl | hlt
        · exact hp
        · exact h4 k hlt hkj
      · rintro ⟨h1, h2, h3, h4⟩
        have hne : i ≠ j := by
          rintro rfl
          rw [hp] at h3
          exact absurd h3 (by simp)
        exact ⟨by omega, by omega, h3, fun k hk hkj => h4 k (by omega) hkj⟩
    | false =>
      rw [if_neg (by simp), Option.some_inj]
      constructor
      · rintro rfl
        exact ⟨Nat.le_refl _, by omega, hp, fun k hk hkj => absurd hkj (by omega)⟩
      · rintro ⟨h1, -, -, h4⟩
        by_contra hne
        rw [h4 i (Nat.le_refl _) (by omega)] at hp
        exact absurd hp (by simp)

/-- A scan from the front stops exactly behind the leading run. -/
theorem scanWhile_zero_eq_some_iff {p : Option α → Bool} {t : Slots α} {fuel j : ℕ} :
    scanWhile p t fuel 0 = some j ↔
      j < fuel ∧ p (t j) = false ∧ ∀ k < j, p (t k) = true := by
  rw [scanWhile_eq_some_iff]
  simp

/-- A scan that meets a cell which fails the test stops there at the latest. -/
theorem exists_scanWhile {p : Option α → Bool} {t : Slots α} {fuel j : ℕ} (hj : j < fuel)
    (hp : p (t j) = false) : ∃ i ≤ j, scanWhile p t fuel 0 = some i := by
  have hex : ∃ k, p (t k) = false := ⟨j, hp⟩
  have hle : Nat.find hex ≤ j := Nat.find_min' hex hp
  refine ⟨Nat.find hex, hle, scanWhile_zero_eq_some_iff.mpr
    ⟨by omega, Nat.find_spec hex, fun k hk => ?_⟩⟩
  have hmin := Nat.find_min hex hk
  rwa [Bool.not_eq_false] at hmin

/-! ## Shifting -/

/-- `for (i = s; i < s + n; i++) t[i - s] = t[i]`. -/
def shiftDown (t : Slots α) (s n : ℕ) : Slots α :=
  (List.range' s n).foldl (fun t i => Function.update t (i - s) (t i)) t

/-- **The shift in closed form.**  The first `n` slots take over the contents found `s` further on;
every other slot is left as it was. -/
theorem shiftDown_apply (t : Slots α) (s n k : ℕ) :
    shiftDown t s n k = if k < n then t (k + s) else t k := by
  induction n generalizing k with
  | zero => simp [shiftDown]
  | succ n ih =>
    have hstep : shiftDown t s (n + 1) =
        Function.update (shiftDown t s n) n (shiftDown t s n (s + n)) := by
      rw [shiftDown, List.range'_1_concat, List.foldl_append]
      simp [shiftDown]
    rw [hstep]
    by_cases hk : k = n
    · subst hk
      rw [Function.update_self, ih, if_neg (by omega), if_pos (by omega), Nat.add_comm]
    · rw [Function.update_of_ne hk, ih]
      split <;> split <;> first | rfl | omega

/-! ## Setting one cell -/

/-- What is found after a cell was freed was there before. -/
theorem eq_some_of_update_none {t : Slots α} {k i : ℕ} {a : α}
    (h : Function.update t k none i = some a) : t i = some a := by
  by_cases hik : i = k
  · rw [hik, Function.update_self] at h
    cases h
  · rwa [Function.update_of_ne hik] at h

/-- What is found after a cell was set was put there, or was in another cell before. -/
theorem eq_some_of_update_some {t : Slots α} {k i : ℕ} {a b : α}
    (h : Function.update t k (some b) i = some a) : i = k ∧ b = a ∨ i ≠ k ∧ t i = some a := by
  by_cases hik : i = k
  · rw [hik, Function.update_self] at h
    exact Or.inl ⟨hik, Option.some.inj h⟩
  · rw [Function.update_of_ne hik] at h
    exact Or.inr ⟨hik, h⟩

/-! ## Filling -/

/-- The array with the cells `a, …, a + n - 1` set, cell `i` to `v i`. -/
def overwrite (t : Slots α) (a n : ℕ) (v : ℕ → α) : Slots α :=
  fun i => if a ≤ i ∧ i < a + n then some (v i) else t i

@[simp] theorem overwrite_zero (t : Slots α) (a : ℕ) (v : ℕ → α) : overwrite t a 0 v = t := by
  funext i
  rw [overwrite, if_neg (by omega)]

theorem overwrite_of_mem (t : Slots α) {a n i : ℕ} (v : ℕ → α) (h : a ≤ i) (h' : i < a + n) :
    overwrite t a n v i = some (v i) :=
  if_pos ⟨h, h'⟩

theorem overwrite_of_lt (t : Slots α) {a i : ℕ} (n : ℕ) (v : ℕ → α) (h : i < a) :
    overwrite t a n v i = t i :=
  if_neg (by omega)

/-- Setting the next cell. -/
theorem update_overwrite (t : Slots α) (a n : ℕ) (v : ℕ → α) :
    Function.update (overwrite t a n v) (a + n) (some (v (a + n))) = overwrite t a (n + 1) v := by
  funext i
  by_cases hi : i = a + n
  · subst hi
    rw [Function.update_self, overwrite_of_mem t v (by omega) (by omega)]
  · rw [Function.update_of_ne hi]
    unfold overwrite
    split <;> split <;> first | rfl | omega

/-! ## Counting the free slots -/

/-- The number of `NULL` cells among the first `n`. -/
def freeCount (t : Slots α) (n : ℕ) : ℕ := (List.range n).countP fun k => (t k).isNone

@[simp] theorem freeCount_zero (t : Slots α) : freeCount t 0 = 0 := rfl

theorem freeCount_succ (t : Slots α) (n : ℕ) :
    freeCount t (n + 1) = freeCount t n + if t n = none then 1 else 0 := by
  rw [freeCount, List.range_succ, List.countP_append, List.countP_singleton]
  simp [freeCount]

theorem freeCount_le (t : Slots α) (n : ℕ) : freeCount t n ≤ n := by
  have h := List.countP_le_length (l := List.range n) (p := fun k => (t k).isNone)
  rwa [List.length_range] at h

/-- **Occupying a free slot** costs one. -/
theorem freeCount_update {t : Slots α} {n k : ℕ} (a : α) (hk : k < n) (hfree : t k = none) :
    freeCount (Function.update t k (some a)) n + 1 = freeCount t n := by
  induction n with
  | zero => exact absurd hk (Nat.not_lt_zero k)
  | succ n ih =>
    rw [freeCount_succ, freeCount_succ]
    by_cases hkn : k = n
    · subst hkn
      have hbelow : freeCount (Function.update t k (some a)) k = freeCount t k := by
        refine List.countP_congr fun j hj => ?_
        rw [Function.update_of_ne (Nat.ne_of_lt (List.mem_range.mp hj))]
      rw [hbelow, Function.update_self, if_neg (Option.some_ne_none a), if_pos hfree]
    · rw [Function.update_of_ne (Ne.symm hkn), ← ih (by omega)]
      omega

/-! ## What an array holds -/

/-- The pointers among the first `n` cells, in order. -/
def occupants (t : Slots α) (n : ℕ) : List α := (List.range n).filterMap t

/-- **Taking the leading run off and shifting the rest** to the front loses nothing and duplicates
nothing. -/
theorem occupants_shift {t t' : Slots α} {n s : ℕ} {v : ℕ → α} (hs : s ≤ n)
    (hrun : ∀ k < s, t k = some (v k))
    (hshift : ∀ k < n, t' k = if k + s < n then t (k + s) else none) :
    occupants t n = (List.range s).map v ++ occupants t' n := by
  obtain ⟨m, rfl⟩ := Nat.exists_eq_add_of_le hs
  have hfront : (List.range s).filterMap t = (List.range s).map v := by
    rw [← List.filterMap_eq_map]
    exact List.filterMap_congr fun k hk => hrun k (List.mem_range.mp hk)
  have hrest : (List.range m).filterMap t' = (List.range m).filterMap fun k => t (s + k) := by
    refine List.filterMap_congr fun k hk => ?_
    have hkm := List.mem_range.mp hk
    rw [hshift k (by omega), if_pos (by omega), Nat.add_comm k s]
  have htail : ((List.range s).map (m + ·)).filterMap t' = [] := by
    refine List.filterMap_eq_nil_iff.mpr fun k hk => ?_
    obtain ⟨j, hj, rfl⟩ := List.mem_map.mp hk
    have hjs := List.mem_range.mp hj
    rw [hshift _ (by omega), if_neg (by omega)]
  rw [occupants, List.range_add, List.filterMap_append, hfront, List.filterMap_map, occupants,
    Nat.add_comm s m, List.range_add, List.filterMap_append, htail, List.append_nil, hrest]
  rfl

end TrtpNetwork
