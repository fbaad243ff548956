import TrtpNetwork.Library.SlotArray

/-!
# Arrays of pointers and the blocks behind them

A table of pointers is often thought of as a table of what they point to.  That is right as long as
every pointer in it is to a block that is allocated (`PointsTo`), and it stays right when a block is
released only if no other cell holds the same pointer (`Distinct`).

The blocks are numbered in the order in which they are allocated, `heap` has the contents of those
that have not been released, and `next` is the number of the next one.  There is one lemma for each
thing a program does with such a table: it takes a block out and releases it, puts a new one in, and
moves the cells to the front.

When blocks are released that other cells point to as well, the table still shows the contents where
it can be read at all (`ShowsLive`), since the number of a released block is not given out again.
-/

namespace TrtpNetwork

variable {α : Type*}

/-- The cells of `t` point to the contents `v`. -/
structure PointsTo (t : Slots ℕ) (heap : ℕ → Option α) (next : ℕ) (v : Slots α) : Prop where
  shows : ∀ k, v k = (t k).bind heap
  live : ∀ k block, t k = some block → heap block ≠ none
  made : ∀ block, heap block ≠ none → block < next

/-- No two cells hold the same pointer. -/
def Distinct (t : Slots ℕ) : Prop := ∀ j k block, t j = some block → t k = some block → j = k

variable {t t' : Slots ℕ} {heap : ℕ → Option α} {next k block : ℕ} {v v' : Slots α} {a : α}

theorem PointsTo.eq_none_iff (h : PointsTo t heap next v) (k : ℕ) : v k = none ↔ t k = none := by
  rw [h.shows]
  cases hk : t k with
  | none => simp
  | some block => simpa using h.live k block hk

theorem PointsTo.shows_some (h : PointsTo t heap next v) (hk : t k = some block) :
    v k = heap block := by
  rw [h.shows, hk, Option.bind_some]

/-! ## Scanning -/

/-- A scan depends on the cells only through the test. -/
theorem scanWhile_congr {β : Type*} {p : Option α → Bool} {p' : Option β → Bool} {v : Slots α}
    {w : Slots β} (h : ∀ k, p (v k) = p' (w k)) (fuel i : ℕ) :
    scanWhile p v fuel i = scanWhile p' w fuel i := by
  induction fuel generalizing i with
  | zero => rfl
  | succ fuel ih => rw [scanWhile, scanWhile, h i, ih]

/-- The leading run of cells that are not `NULL`. -/
theorem scanWhile_isSome_congr {β : Type*} {v : Slots α} {w : Slots β}
    (h : ∀ k, v k = none ↔ w k = none) (fuel i : ℕ) :
    scanWhile Option.isSome v fuel i = scanWhile Option.isSome w fuel i := by
  refine scanWhile_congr (fun k => ?_) fuel i
  rw [Bool.eq_iff_iff, Option.isSome_iff_ne_none, Option.isSome_iff_ne_none]
  exact not_congr (h k)

theorem PointsTo.scanWhile_isSome (h : PointsTo t heap next v) (fuel i : ℕ) :
    scanWhile Option.isSome t fuel i = scanWhile Option.isSome v fuel i :=
  scanWhile_isSome_congr (fun k => (h.eq_none_iff k).symm) fuel i

/-! ## Releasing and storing -/

/-- **A block is taken out of the table and released.** -/
theorem PointsTo.release (h : PointsTo t heap next v) (hdistinct : Distinct t)
    (hk : t k = some block) :
    PointsTo (Function.update t k none) (Function.update heap block none) next
      (Function.update v k none) := by
  have hother : ∀ j b, Function.update t k none j = some b →
      j ≠ k ∧ t j = some b ∧ b ≠ block := by
    intro j b hj
    have hjk : j ≠ k := by
      rintro rfl
      rw [Function.update_self] at hj
      cases hj
    rw [Function.update_of_ne hjk] at hj
    refine ⟨hjk, hj, ?_⟩
    rintro rfl
    exact hjk (hdistinct j k b hj hk)
  refine ⟨fun j => ?_, fun j b hj => ?_, fun b hb => ?_⟩
  · cases hj : Function.update t k none j with
    | none =>
      by_cases hjk : j = k
      · rw [hjk, Function.update_self]
        rfl
      · rw [Function.update_of_ne hjk] at hj ⊢
        rw [(h.eq_none_iff j).mpr hj]
        rfl
    | some b =>
      obtain ⟨hjk, htj, hne⟩ := hother j b hj
      rw [Function.update_of_ne hjk, h.shows_some htj, Option.bind_some,
        Function.update_of_ne hne]
  · obtain ⟨-, htj, hne⟩ := hother j b hj
    rw [Function.update_of_ne hne]
    exact h.live j b htj
  · refine h.made b fun hnone => hb ?_
    by_cases hbb : b = block
    · rw [hbb, Function.update_self]
    · rw [Function.update_of_ne hbb, hnone]

/-- Fewer pointers are distinct if more were. -/
theorem Distinct.mono (h : Distinct t) (hsub : ∀ k block, t' k = some block → t k = some block) :
    Distinct t' :=
  fun i j block hi hj => h i j block (hsub i block hi) (hsub j block hj)

/-- **A new block is put into the table.** -/
theorem PointsTo.store (h : PointsTo t heap next v) (k : ℕ) (a : α) :
    PointsTo (Function.update t k (some next)) (Function.update heap next (some a)) (next + 1)
      (Function.update v k (some a)) := by
  have hold : ∀ {j b : ℕ}, t j = some b → b ≠ next := by
    rintro j b hj rfl
    exact Nat.lt_irrefl b (h.made b (h.live j b hj))
  refine ⟨fun j => ?_, fun j b hj => ?_, fun b hb => ?_⟩
  · by_cases hjk : j = k
    · rw [hjk, Function.update_self, Function.update_self, Option.bind_some, Function.update_self]
    · rw [Function.update_of_ne hjk, Function.update_of_ne hjk, h.shows]
      cases hj : t j with
      | none => rfl
      | some b => rw [Option.bind_some, Option.bind_some, Function.update_of_ne (hold hj)]
  · rcases eq_some_of_update_some hj with ⟨-, rfl⟩ | ⟨-, hj⟩
    · rw [Function.update_self]
      exact Option.some_ne_none a
    · rw [Function.update_of_ne (hold hj)]
      exact h.live j b hj
  · by_cases hbn : b = next
    · omega
    · rw [Function.update_of_ne hbn] at hb
      exact Nat.lt_succ_of_lt (h.made b hb)

theorem PointsTo.distinct_store (h : PointsTo t heap next v) (hdistinct : Distinct t) (k : ℕ) :
    Distinct (Function.update t k (some next)) := by
  have hold : ∀ {j b : ℕ}, t j = some b → b ≠ next := by
    rintro j b hj rfl
    exact Nat.lt_irrefl b (h.made b (h.live j b hj))
  intro i j b hi hj
  rcases eq_some_of_update_some hi with ⟨hik, hb⟩ | ⟨-, hi'⟩ <;>
    rcases eq_some_of_update_some hj with ⟨hjk, hb'⟩ | ⟨-, hj'⟩
  · exact hik.trans hjk.symm
  · exact absurd hb.symm (hold hj')
  · exact absurd hb'.symm (hold hi')
  · exact hdistinct i j b hi' hj'

/-! ## Emptying the front and moving the rest -/

/-- The array with its first `n` cells emptied. -/
def clearFront (t : Slots α) (n : ℕ) : Slots α := fun k => if k < n then none else t k

@[simp] theorem clearFront_zero (t : Slots α) : clearFront t 0 = t := by
  funext k
  rw [clearFront, if_neg (Nat.not_lt_zero k)]

theorem clearFront_of_lt {w : Slots α} {n k : ℕ} (hk : k < n) : clearFront w n k = none :=
  if_pos hk

theorem clearFront_of_none {w : Slots α} {k : ℕ} (hk : w k = none) (n : ℕ) :
    clearFront w n k = none := by
  rw [clearFront, hk, ite_self]

theorem eq_some_of_clearFront {w : Slots α} {n k : ℕ} {a : α} (h : clearFront w n k = some a) :
    w k = some a := by
  rw [clearFront] at h
  split at h
  · cases h
  · exact h

/-- Emptying the next cell. -/
theorem update_clearFront (w : Slots α) (n : ℕ) :
    Function.update (clearFront w n) n none = clearFront w (n + 1) := by
  funext k
  by_cases hk : k = n
  · rw [hk, Function.update_self, clearFront_of_lt (Nat.lt_succ_self n)]
  · rw [Function.update_of_ne hk]
    exact if_congr (by omega) rfl rfl

theorem Distinct.clearFront (h : Distinct t) (n : ℕ) : Distinct (clearFront t n) :=
  h.mono fun _ _ => eq_some_of_clearFront

/-- **A shift** copies pointers and what they show alike. -/
theorem PointsTo.shiftDown (h : PointsTo t heap next v) (s n : ℕ) :
    PointsTo (shiftDown t s n) heap next (shiftDown v s n) := by
  refine ⟨fun k => ?_, fun k block hk => ?_, h.made⟩
  · rw [shiftDown_apply, shiftDown_apply]
    split <;> exact h.shows _
  · rw [shiftDown_apply] at hk
    split at hk <;> exact h.live _ block hk

/-- **A shift that leaves nothing behind** in the cells it came from leaves no pointer in two
cells. -/
theorem Distinct.shiftDown (h : Distinct t) {s n : ℕ} (hend : ∀ k, n ≤ k → t k = none)
    (htail : ∀ k, n - s ≤ k → k < n → t k = none) : Distinct (shiftDown t s (n - s)) := by
  have hmoved : ∀ k, TrtpNetwork.shiftDown t s (n - s) k = t (k + s) := by
    intro k
    rw [shiftDown_apply]
    split
    · rfl
    · rw [hend (k + s) (by omega)]
      by_cases hk : k < n
      · exact htail k (by omega) hk
      · exact hend k (by omega)
  intro i j block hi hj
  rw [hmoved] at hi hj
  have := h _ _ block hi hj
  omega

/-! ## Pointers that may be dangling -/

/-- The cells of `t` point to blocks with the contents `v`, of which some may have been released. -/
structure ShowsLive (t : Slots ℕ) (heap : ℕ → Option α) (next : ℕ) (v : Slots α) : Prop where
  eq_none_iff : ∀ k, v k = none ↔ t k = none
  shows : ∀ k block a, t k = some block → heap block = some a → v k = some a
  made : ∀ k block, t k = some block → block < next

theorem ShowsLive.scanWhile_isSome (h : ShowsLive t heap next v) (fuel i : ℕ) :
    scanWhile Option.isSome t fuel i = scanWhile Option.isSome v fuel i :=
  scanWhile_isSome_congr (fun k => (h.eq_none_iff k).symm) fuel i

/-- A block is released, whoever points to it. -/
theorem ShowsLive.release (h : ShowsLive t heap next v) (block : ℕ) :
    ShowsLive t (Function.update heap block none) next v := by
  refine ⟨h.eq_none_iff, fun k b a hk ha => ?_, h.made⟩
  by_cases hb : b = block
  · rw [hb, Function.update_self] at ha
    cases ha
  · rw [Function.update_of_ne hb] at ha
    exact h.shows k b a hk ha

/-- A cell is emptied. -/
theorem ShowsLive.empty (h : ShowsLive t heap next v) (k : ℕ) :
    ShowsLive (Function.update t k none) heap next (Function.update v k none) := by
  refine ⟨fun j => ?_, fun j b a hj => ?_, fun j b hj => h.made j b (eq_some_of_update_none hj)⟩
  · by_cases hjk : j = k
    · rw [hjk, Function.update_self, Function.update_self]
      exact iff_of_true rfl rfl
    · rw [Function.update_of_ne hjk, Function.update_of_ne hjk]
      exact h.eq_none_iff j
  · by_cases hjk : j = k
    · rw [hjk, Function.update_self] at hj
      cases hj
    · rw [Function.update_of_ne hjk] at hj ⊢
      exact h.shows j b a hj

/-- A new block is put into the table: no cell had its number before. -/
theorem ShowsLive.store (h : ShowsLive t heap next v) (k : ℕ) (a : α) :
    ShowsLive (Function.update t k (some next)) (Function.update heap next (some a)) (next + 1)
      (Function.update v k (some a)) := by
  refine ⟨fun j => ?_, fun j b a' hj ha' => ?_, fun j b hj => ?_⟩
  · by_cases hjk : j = k
    · rw [hjk, Function.update_self, Function.update_self]
      exact iff_of_false (Option.some_ne_none a) (Option.some_ne_none next)
    · rw [Function.update_of_ne hjk, Function.update_of_ne hjk]
      exact h.eq_none_iff j
  · rcases eq_some_of_update_some hj with ⟨rfl, rfl⟩ | ⟨hjk, hj⟩
    · rwa [Function.update_self] at ha' ⊢
    · have hold := h.made j b hj
      rw [Function.update_of_ne (by omega)] at ha'
      rw [Function.update_of_ne hjk]
      exact h.shows j b a' hj ha'
  · rcases eq_some_of_update_some hj with ⟨-, rfl⟩ | ⟨-, hj⟩
    · exact Nat.lt_succ_self _
    · exact Nat.lt_succ_of_lt (h.made j b hj)

/-- A shift copies pointers, dangling ones too. -/
theorem ShowsLive.shiftDown (h : ShowsLive t heap next v) (s n : ℕ) :
    ShowsLive (shiftDown t s n) heap next (shiftDown v s n) := by
  refine ⟨fun k => ?_, fun k b a hk => ?_, fun k b hk => ?_⟩
  · rw [shiftDown_apply, shiftDown_apply]
    split <;> exact h.eq_none_iff _
  · by_cases hmoved : k < n
    · rw [shiftDown_apply, if_pos hmoved] at hk ⊢
      exact h.shows _ b a hk
    · rw [shiftDown_apply, if_neg hmoved] at hk ⊢
      exact h.shows _ b a hk
  · rw [shiftDown_apply] at hk
    split at hk <;> exact h.made _ b hk

end TrtpNetwork
