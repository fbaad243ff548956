import Mathlib.Algebra.Group.Nat.Defs
import Mathlib.Data.List.Basic
import Mathlib.Tactic.Common

/-!
# Memory as seen through a byte pointer

A C function that receives a `char *` sees the bytes from that address on: there is no end marker,
and a read past the object the pointer came from finds whatever lies there.  `Memory` is exactly
this view.  `memcpy` and `bytesAt` are the two accesses, and the lemmas say what a read finds after
a write.

The second half is the layout of unsigned integers: `leBytes` is the order in which a little-endian
host stores an integer, `beBytes` is network order, and the two directions are inverse to each
other up to the width.
-/

namespace TrtpNetwork

/-- The bytes found from an address on. -/
abbrev Memory := ℕ → UInt8

/-- `memcpy(m + off, src, |src|)`. -/
def memcpy (m : Memory) (off : ℕ) (src : List UInt8) : Memory :=
  fun i => if off ≤ i then (src[i - off]?).getD (m i) else m i

/-- The `n` bytes at `m + off`. -/
def bytesAt (m : Memory) (off n : ℕ) : List UInt8 :=
  (List.range n).map fun i => m (off + i)

@[simp] theorem length_bytesAt (m : Memory) (off n : ℕ) : (bytesAt m off n).length = n := by
  simp [bytesAt]

theorem getElem_bytesAt (m : Memory) (off n i : ℕ) (h : i < (bytesAt m off n).length) :
    (bytesAt m off n)[i] = m (off + i) := by
  simp [bytesAt]

/-- A read depends on the bytes it covers only. -/
theorem bytesAt_congr {m m' : Memory} {off n : ℕ}
    (h : ∀ i, off ≤ i → i < off + n → m i = m' i) : bytesAt m off n = bytesAt m' off n := by
  apply List.map_congr_left
  intro i hi
  exact h _ (by omega) (by have := List.mem_range.mp hi; omega)

/-- Two reads agree exactly when the bytes they cover do. -/
theorem bytesAt_eq_iff {m m' : Memory} {off n : ℕ} :
    bytesAt m off n = bytesAt m' off n ↔ ∀ i, off ≤ i → i < off + n → m i = m' i := by
  refine ⟨fun h i hlo hhi => ?_, bytesAt_congr⟩
  have hget := congrArg (fun l => l[i - off]?) h
  simp only [bytesAt, List.getElem?_map] at hget
  rw [List.getElem?_eq_getElem (by rw [List.length_range]; omega)] at hget
  simpa [Nat.add_sub_cancel' hlo] using hget

/-- A read of an offset pointer is a read further on. -/
theorem bytesAt_shift (m : Memory) (a off n : ℕ) :
    bytesAt (fun i => m (a + i)) off n = bytesAt m (a + off) n := by
  simp [bytesAt, Nat.add_assoc]

/-- A read of `n` bytes from offset `off` on stays in an array of `size` bytes. -/
def access (size off n : ℕ) : Option Unit := if off + n ≤ size then some () else none

theorem access_of_le {size off n : ℕ} (h : off + n ≤ size) : access size off n = some () := if_pos h

theorem access_of_lt {size off n : ℕ} (h : size < off + n) : access size off n = none :=
  if_neg (by omega)

/-- Two adjacent reads make one. -/
theorem bytesAt_add (m : Memory) (off n k : ℕ) :
    bytesAt m off (n + k) = bytesAt m off n ++ bytesAt m (off + n) k := by
  simp [bytesAt, List.range_add, Nat.add_assoc, Function.comp_def]

/-! ## Reads after writes -/

theorem memcpy_of_lt {m : Memory} {off i : ℕ} {src : List UInt8} (h : i < off) :
    memcpy m off src i = m i := by
  rw [memcpy, if_neg (by omega)]

theorem memcpy_of_ge {m : Memory} {off i : ℕ} {src : List UInt8} (h : off + src.length ≤ i) :
    memcpy m off src i = m i := by
  rw [memcpy, if_pos (by omega), List.getElem?_eq_none (by omega), Option.getD_none]

theorem memcpy_of_mem {m : Memory} {off i : ℕ} {src : List UInt8} (hlo : off ≤ i)
    (hhi : i - off < src.length) : memcpy m off src i = src[i - off] := by
  rw [memcpy, if_pos hlo, List.getElem?_eq_getElem hhi, Option.getD_some]

/-- What is found at a place after a write depends on what was there. -/
theorem memcpy_apply_congr {m m' : Memory} {i : ℕ} (h : m i = m' i) (off : ℕ) (src : List UInt8) :
    memcpy m off src i = memcpy m' off src i := by
  rw [memcpy, memcpy, h]

/-- A read in front of a write. -/
theorem bytesAt_memcpy_of_le {m : Memory} {off off' n : ℕ} (h : off' + n ≤ off)
    (src : List UInt8) : bytesAt (memcpy m off src) off' n = bytesAt m off' n :=
  bytesAt_congr fun _ _ hi => memcpy_of_lt (by omega)

/-- A read behind a write. -/
theorem bytesAt_memcpy_of_ge {m : Memory} {off off' n : ℕ} {src : List UInt8}
    (h : off + src.length ≤ off') : bytesAt (memcpy m off src) off' n = bytesAt m off' n :=
  bytesAt_congr fun _ hi _ => memcpy_of_ge (by omega)

/-- What was written is read back. -/
theorem bytesAt_memcpy (m : Memory) (off : ℕ) (src : List UInt8) :
    bytesAt (memcpy m off src) off src.length = src := by
  apply List.ext_getElem (length_bytesAt ..)
  intro i h₁ h₂
  rw [getElem_bytesAt, memcpy_of_mem (by omega) (by omega)]
  simp

/-- Two adjacent writes make one. -/
theorem memcpy_memcpy (m : Memory) (off : ℕ) (src src' : List UInt8) :
    memcpy (memcpy m off src) (off + src.length) src' = memcpy m off (src ++ src') := by
  funext i
  rcases Nat.lt_or_ge i off with h | h
  · rw [memcpy_of_lt (by omega), memcpy_of_lt h, memcpy_of_lt h]
  rcases Nat.lt_or_ge i (off + src.length) with h1 | h1
  · rw [memcpy_of_lt h1, memcpy_of_mem h (by omega),
      memcpy_of_mem h (by rw [List.length_append]; omega), List.getElem_append_left]
  rcases Nat.lt_or_ge i (off + src.length + src'.length) with h2 | h2
  · rw [memcpy_of_mem h1 (by omega), memcpy_of_mem h (by rw [List.length_append]; omega),
      List.getElem_append_right (by omega)]
    congr 1
    omega
  · rw [memcpy_of_ge h2, memcpy_of_ge h1,
      memcpy_of_ge (by rw [List.length_append]; omega)]

/-- A buffer whose first bytes are `src`, read there. -/
theorem bytesAt_of_prefix {m : Memory} {src : List UInt8} {off n : ℕ}
    (h : ∀ (i : ℕ) (hi : i < src.length), m i = src[i]) (hn : off + n ≤ src.length) :
    bytesAt m off n = (src.drop off).take n := by
  apply List.ext_getElem
  · rw [length_bytesAt, List.length_take, List.length_drop]
    omega
  · intro i h₁ h₂
    rw [length_bytesAt] at h₁
    rw [getElem_bytesAt, h _ (by omega)]
    simp

/-! ## Integers in memory -/

/-- The `k` low bytes of `n`, lowest first: how a little-endian host stores an integer of `k`
bytes. -/
def leBytes : ℕ → ℕ → List UInt8
  | 0, _ => []
  | k + 1, n => UInt8.ofNat (n % 256) :: leBytes k (n / 256)

/-- The integer stored by `leBytes`. -/
def ofLeBytes : List UInt8 → ℕ
  | [] => 0
  | b :: bs => b.toNat + 256 * ofLeBytes bs

/-- Network byte order: what `htons` and `htonl` arrange before the value is copied out. -/
def beBytes (k n : ℕ) : List UInt8 := (leBytes k n).reverse

/-- The value `ntohs` and `ntohl` give for bytes in network order. -/
def ofBeBytes (bs : List UInt8) : ℕ := ofLeBytes bs.reverse

@[simp] theorem length_leBytes (k n : ℕ) : (leBytes k n).length = k := by
  induction k generalizing n with
  | zero => rfl
  | succ k ih => rw [leBytes, List.length_cons, ih]

@[simp] theorem length_beBytes (k n : ℕ) : (beBytes k n).length = k := by
  rw [beBytes, List.length_reverse, length_leBytes]

theorem ofLeBytes_leBytes (k n : ℕ) : ofLeBytes (leBytes k n) = n % 256 ^ k := by
  induction k generalizing n with
  | zero => simp [leBytes, ofLeBytes, Nat.mod_one]
  | succ k ih =>
    have hb : (UInt8.ofNat (n % 256)).toNat = n % 256 := by simp
    rw [leBytes, ofLeBytes, ih, hb, Nat.pow_succ', Nat.mod_mul]

theorem leBytes_ofLeBytes (bs : List UInt8) : leBytes bs.length (ofLeBytes bs) = bs := by
  induction bs with
  | nil => rfl
  | cons b bs ih =>
    have hb : b.toNat < 256 := b.toNat_lt
    have hmod : (b.toNat + 256 * ofLeBytes bs) % 256 = b.toNat := by omega
    have hdiv : (b.toNat + 256 * ofLeBytes bs) / 256 = ofLeBytes bs := by omega
    rw [ofLeBytes, List.length_cons, leBytes, hmod, hdiv, ih, UInt8.ofNat_toNat]

theorem ofLeBytes_lt (bs : List UInt8) : ofLeBytes bs < 256 ^ bs.length := by
  induction bs with
  | nil => simp [ofLeBytes]
  | cons b bs ih =>
    have hb : b.toNat < 256 := b.toNat_lt
    rw [ofLeBytes, List.length_cons, Nat.pow_succ']
    omega

theorem ofBeBytes_beBytes {k n : ℕ} (h : n < 256 ^ k) : ofBeBytes (beBytes k n) = n := by
  rw [ofBeBytes, beBytes, List.reverse_reverse, ofLeBytes_leBytes, Nat.mod_eq_of_lt h]

theorem beBytes_ofBeBytes (bs : List UInt8) : beBytes bs.length (ofBeBytes bs) = bs := by
  have h := leBytes_ofLeBytes bs.reverse
  rw [List.length_reverse] at h
  rw [beBytes, ofBeBytes, h, List.reverse_reverse]

theorem ofBeBytes_lt (bs : List UInt8) : ofBeBytes bs < 256 ^ bs.length := by
  have h := ofLeBytes_lt bs.reverse
  rwa [List.length_reverse] at h

theorem ofLeBytes_bytesAt_lt (m : Memory) (off n : ℕ) : ofLeBytes (bytesAt m off n) < 256 ^ n := by
  have h := ofLeBytes_lt (bytesAt m off n)
  rwa [length_bytesAt] at h

theorem ofBeBytes_bytesAt_lt (m : Memory) (off n : ℕ) : ofBeBytes (bytesAt m off n) < 256 ^ n := by
  have h := ofBeBytes_lt (bytesAt m off n)
  rwa [length_bytesAt] at h

end TrtpNetwork
