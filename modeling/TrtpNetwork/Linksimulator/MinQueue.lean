import TrtpNetwork.Library.HeapOrder
import Mathlib.Order.Defs.LinearOrder

/-!
# The priority queue: `min_queue.c`

The link simulator keeps its delayed packets in a binary heap with a comparison function that the
client passes in.  The heap starts at index 0, and yet the children of `x` are `2 * x` and
`2 * x + 1`: the root is its own left child and has one child, at index 1.  `has_child` makes up for
it, since index 0 is also its answer for "none" (`hasChild_zero`, `hasChild_pos`).

A queue is modelled with the block its elements are in.  What the block holds behind the elements is
whatever `malloc`, `realloc` and earlier elements left there, and `minqPush_spec` and `minqPop_spec`
have the elements as a multiset, in which it does not occur.

The comparison is only assumed to be the order of some key (`Compares`).  Two elements may have
equal keys, and the queue does not keep these in the order they came in.
-/

namespace TrtpNetwork

variable {α β : Type*}

/-- `SLOTS_PER_MALLOC`. -/
def slotsPerMalloc : ℕ := 20

/-- `PARENT`. -/
def heapParent (x : ℕ) : ℕ := x / 2

/-- `LCHILD`. -/
def lchild (x : ℕ) : ℕ := x * 2

/-- `struct minqueue`, with the contents of the block `e`. -/
structure MinQueue (α : Type*) where
  cmp : α → α → Bool
  size : ℕ
  alloc : ℕ
  e : ℕ → α

/-- `minq_new`, for the results of its two calls of `malloc`. -/
def minqNew (cmp : α → α → Bool) (mallocQueue : Bool) (mallocSlots : Option (ℕ → α)) :
    Option (MinQueue α) :=
  if mallocQueue then
    mallocSlots.map fun e => { cmp := cmp, size := 0, alloc := slotsPerMalloc, e := e }
  else none

/-- `minq_empty`. -/
def minqEmpty (q : MinQueue α) : Bool := q.size == 0

/-- `minq_size`. -/
def minqSize (q : MinQueue α) : ℕ := q.size

/-- `minq_peek`; `none` is `NULL`. -/
def minqPeek (q : MinQueue α) : Option α := if minqEmpty q then none else some (q.e 0)

/-! ## Inserting -/

/-- The heapify-up loop of `minq_push` and the insertion behind it, for an insertion point `i` that
is at most the number of iterations allowed.  Each iteration at least halves `i`. -/
def heapifyUp (cmp : α → α → Bool) (v : α) : ℕ → (ℕ → α) → ℕ → (ℕ → α)
  | 0, e, i => Function.update e i v
  | fuel + 1, e, i =>
    if i ≠ 0 ∧ cmp (e (heapParent i)) v then
      heapifyUp cmp v fuel (Function.update e i (e (heapParent i))) (heapParent i)
    else Function.update e i v

/-- The queue with room for one element more, for the result of `realloc`: `NULL`, or a block that
begins with the old slots. -/
def reserve (q : MinQueue α) (realloc : Option (ℕ → α)) : Option (MinQueue α) :=
  if q.size = q.alloc then
    realloc.map fun block => { q with
      alloc := q.size + slotsPerMalloc
      e := fun i => if i < q.alloc then q.e i else block i }
  else some q

/-- `minq_push`, with its return value. -/
def minqPush (q : MinQueue α) (v : α) (realloc : Option (ℕ → α)) : ℤ × MinQueue α :=
  match reserve q realloc with
  | none => (-1, q)
  | some q => (0, { q with size := q.size + 1, e := heapifyUp q.cmp v q.size q.e q.size })

/-! ## Removing -/

/-- `has_child`. -/
def hasChild (q : MinQueue α) (i : ℕ) : ℕ :=
  let left := lchild i
  if left ≥ q.size then 0
  else
    let right := left + 1
    if right < q.size ∧ q.cmp (q.e left) (q.e right) then right else left

/-- The heapify-down loop of `minq_pop`, for a `current` within the allowed number of iterations
from the end of the queue.  Each iteration takes `current` further back. -/
def heapifyDown : ℕ → MinQueue α → ℕ → MinQueue α
  | 0, q, _ => q
  | fuel + 1, q, current =>
    let minChild := hasChild q current
    if minChild ≠ 0 ∧ q.cmp (q.e current) (q.e minChild) then
      heapifyDown fuel { q with
        e := Function.update (Function.update q.e current (q.e minChild)) minChild (q.e current) }
        minChild
    else q

/-- `minq_pop`. -/
def minqPop (q : MinQueue α) : MinQueue α :=
  if minqEmpty q then q
  else
    let q := { q with size := q.size - 1, e := Function.update q.e 0 (q.e (q.size - 1)) }
    heapifyDown q.size q 0

/-! ## The tree -/

theorem heapParent_lt {j : ℕ} (h : 0 < j) : heapParent j < j := by
  unfold heapParent
  omega

/-- What is not 0 is a child, and in the queue. -/
theorem hasChild_pos {q : MinQueue α} {i : ℕ} (h : hasChild q i ≠ 0) :
    heapParent (hasChild q i) = i ∧ i < hasChild q i ∧ hasChild q i < q.size := by
  unfold hasChild lchild heapParent at *
  dsimp only at *
  split at h
  · omega
  · rename_i hleft
    rw [if_neg hleft]
    split at h
    · rename_i hright
      rw [if_pos hright]
      omega
    · rename_i hright
      rw [if_neg hright]
      omega

/-- The comparison function is that of a key. -/
def Compares [LT β] (cmp : α → α → Bool) (key : α → β) : Prop :=
  ∀ a b, cmp a b = true ↔ key b < key a

section

variable [LinearOrder β] {key : α → β} {q : MinQueue α} {i : ℕ}

theorem Compares.le_of_not {cmp : α → α → Bool} (h : Compares cmp key) {a b : α}
    (hab : ¬ cmp a b = true) : key a ≤ key b :=
  not_lt.mp fun hlt => hab ((h a b).mpr hlt)

/-- A child that is found is the least one. -/
theorem hasChild_least (hcmp : Compares q.cmp key) (h : hasChild q i ≠ 0) {j : ℕ} (hpos : 0 < j)
    (hj : j < q.size) (hchild : heapParent j = i) : key (q.e (hasChild q i)) ≤ key (q.e j) := by
  have hcase : j = lchild i ∨ j = lchild i + 1 := by
    unfold heapParent lchild at *
    omega
  unfold hasChild at h ⊢
  dsimp only at h ⊢
  split at h
  · exact absurd rfl h
  · rename_i hleft
    rw [if_neg hleft]
    by_cases hright : lchild i + 1 < q.size ∧ q.cmp (q.e (lchild i)) (q.e (lchild i + 1)) = true
    · rw [if_pos hright]
      rcases hcase with rfl | rfl
      · exact le_of_lt ((hcmp _ _).mp hright.2)
      · exact le_refl _
    · rw [if_neg hright]
      rcases hcase with rfl | rfl
      · exact le_refl _
      · exact hcmp.le_of_not fun hc => hright ⟨hj, hc⟩

/-- Where no child is found, none has a smaller key.  For the root this says that its only child has
not, and for any other node that it has no child. -/
theorem hasChild_zero (hcmp : Compares q.cmp key) (h : hasChild q i = 0) {j : ℕ} (hpos : 0 < j)
    (hj : j < q.size) (hchild : heapParent j = i) : key (q.e i) ≤ key (q.e j) := by
  unfold hasChild lchild at h
  unfold heapParent at hchild
  dsimp only at h
  rw [if_neg (by omega)] at h
  split at h
  · omega
  · rename_i hright
    obtain rfl : i = 0 := by omega
    obtain rfl : j = 1 := by omega
    exact hcmp.le_of_not fun hc => hright ⟨by omega, hc⟩

/-! ## The loops -/

/-- **Heapify-up** restores the order and leaves the new element among the old ones. -/
theorem heapifyUp_spec {cmp : α → α → Bool} (hcmp : Compares cmp key) (v : α) {fuel n : ℕ}
    {e : ℕ → α} (hfuel : i ≤ fuel) (hi : i < n)
    (h : Rising key heapParent (Function.update e i v) n i) :
    HeapOrdered key heapParent (heapifyUp cmp v fuel e i) n ∧
      cells (heapifyUp cmp v fuel e i) n = cells (Function.update e i v) n := by
  induction fuel generalizing e i with
  | zero =>
    rw [heapifyUp]
    exact ⟨h.done fun hpos => by omega, rfl⟩
  | succ fuel ih =>
    rw [heapifyUp]
    split
    · rename_i hgo
      have hpos : 0 < i := Nat.pos_of_ne_zero hgo.1
      have hp := heapParent_lt hpos
      have hlt : key v < key (e (heapParent i)) := (hcmp _ _).mp hgo.2
      have hle : key (Function.update e i v i) ≤ key (Function.update e i v (heapParent i)) := by
        rw [Function.update_self, Function.update_of_ne (by omega)]
        exact hlt.le
      have hswap := update_update_eq_swap e (i := i) (j := heapParent i) (by omega) v
      have hup := h.swap (fun _ => heapParent_lt) hpos hi hle
      rw [← hswap] at hup
      obtain ⟨hord, hcells⟩ := ih (by omega) (by omega) hup
      refine ⟨hord, hcells.trans ?_⟩
      rw [hswap]
      exact cells_swap _ hi (by omega)
    · rename_i hstop
      refine ⟨h.done fun hpos => ?_, rfl⟩
      have hp := heapParent_lt hpos
      rw [Function.update_self, Function.update_of_ne (by omega)]
      exact hcmp.le_of_not fun hc => hstop ⟨by omega, hc⟩

/-- The exchange of two slots. -/
theorem swap_eq_update (e : ℕ → α) {i j : ℕ} (hij : i ≠ j) :
    Function.update (Function.update e i (e j)) j (e i) = e ∘ Equiv.swap i j := by
  rw [update_update_eq_swap e hij (e i), Function.update_eq_self]

/-- **Heapify-down** restores the order and keeps the elements. -/
theorem heapifyDown_spec {fuel : ℕ} {q : MinQueue α} {i : ℕ} (hcmp : Compares q.cmp key)
    (hfuel : q.size ≤ i + fuel) (h : Sinking key heapParent q.e q.size i) :
    ∃ e, heapifyDown fuel q i = { q with e := e } ∧ HeapOrdered key heapParent e q.size ∧
      cells e q.size = cells q.e q.size := by
  induction fuel generalizing q i with
  | zero =>
    refine ⟨q.e, rfl, h.done fun j hpos hj hchild => ?_, rfl⟩
    have := heapParent_lt hpos
    omega
  | succ fuel ih =>
    rw [heapifyDown]
    split
    · rename_i hgo
      obtain ⟨hchild, hlt, hsize⟩ := hasChild_pos hgo.1
      have hkey : key (q.e (hasChild q i)) < key (q.e i) := (hcmp _ _).mp hgo.2
      have hdown := h.swap (fun _ => heapParent_lt) (by omega) hsize hchild hkey.le
        fun j hpos hj hj' => hasChild_least hcmp hgo.1 hpos hj hj'
      rw [swap_eq_update q.e (by omega)]
      obtain ⟨e, heq, hord, hcells⟩ :=
        ih (q := { q with e := q.e ∘ Equiv.swap i (hasChild q i) }) hcmp
          (show q.size ≤ hasChild q i + fuel by omega) hdown
      exact ⟨e, heq, hord, hcells.trans (cells_swap q.e (hlt.trans hsize) hsize)⟩
    · rename_i hstop
      refine ⟨q.e, rfl, h.done fun j hpos hj hchild => ?_, rfl⟩
      by_cases hnone : hasChild q i = 0
      · exact hasChild_zero hcmp hnone hpos hj hchild
      · exact (hcmp.le_of_not fun hc => hstop ⟨hnone, hc⟩).trans
          (hasChild_least hcmp hnone hpos hj hchild)

/-! ## The operations -/

/-- The elements of the queue. -/
def MinQueue.contents (q : MinQueue α) : Multiset α := cells q.e q.size

/-- What the operations keep: the order, and room for the elements. -/
structure MinQueue.Valid (key : α → β) (q : MinQueue α) : Prop where
  compares : Compares q.cmp key
  ordered : HeapOrdered key heapParent q.e q.size
  capacity : q.size ≤ q.alloc

theorem MinQueue.valid_new {cmp : α → α → Bool} (hcmp : Compares cmp key) {mallocQueue : Bool}
    {mallocSlots : Option (ℕ → α)} (h : minqNew cmp mallocQueue mallocSlots = some q) :
    q.Valid key ∧ q.contents = 0 ∧ q.alloc = slotsPerMalloc := by
  unfold minqNew at h
  split at h
  · obtain ⟨e, -, rfl⟩ := Option.map_eq_some_iff.mp h
    exact ⟨⟨hcmp, fun i _ hi => absurd hi (Nat.not_lt_zero i), Nat.zero_le _⟩, rfl, rfl⟩
  · cases h

theorem MinQueue.card_contents (q : MinQueue α) : q.contents.card = q.size := card_cells ..

/-- Making room moves no element. -/
theorem reserve_cases {q q' : MinQueue α} {realloc : Option (ℕ → α)}
    (hcapacity : q.size ≤ q.alloc) (h : reserve q realloc = some q') :
    q'.cmp = q.cmp ∧ q'.size = q.size ∧ (∀ i < q.size, q'.e i = q.e i) ∧ q.size < q'.alloc ∧
      q'.alloc = if q.size = q.alloc then q.alloc + slotsPerMalloc else q.alloc := by
  unfold reserve at h
  split at h
  · rename_i hfull
    obtain ⟨block, -, rfl⟩ := Option.map_eq_some_iff.mp h
    refine ⟨rfl, rfl, fun i hi => if_pos (by omega), ?_, ?_⟩
    · show q.size < q.size + slotsPerMalloc
      unfold slotsPerMalloc
      omega
    · rw [if_pos hfull, hfull]
  · rename_i hroom
    obtain rfl := Option.some.inj h
    exact ⟨rfl, rfl, fun _ _ => rfl, by omega, by rw [if_neg hroom]⟩

/-- **`minq_push`** adds the element, or fails and leaves the queue as it was.  It fails only where
`realloc` had to be called, and did. -/
theorem minqPush_spec (h : q.Valid key) (v : α) (realloc : Option (ℕ → α)) :
    (q.size = q.alloc ∧ realloc = none ∧ minqPush q v realloc = (-1, q)) ∨
      ∃ q', minqPush q v realloc = (0, q') ∧ q'.Valid key ∧ q'.contents = v ::ₘ q.contents ∧
        q'.alloc = if q.size = q.alloc then q.alloc + slotsPerMalloc else q.alloc := by
  unfold minqPush
  cases hres : reserve q realloc with
  | none =>
    left
    unfold reserve at hres
    split at hres
    · rename_i hfull
      exact ⟨hfull, Option.map_eq_none_iff.mp hres, rfl⟩
    · cases hres
  | some r =>
    right
    obtain ⟨hcmp, hsize, he, hroom, halloc⟩ := reserve_cases h.capacity hres
    have hcmp' : Compares r.cmp key := by
      rw [hcmp]
      exact h.compares
    have hord : HeapOrdered key heapParent r.e r.size := by
      rw [hsize]
      exact h.ordered.congr (fun _ => heapParent_lt) he
    obtain ⟨hup, hcells⟩ := heapifyUp_spec hcmp' v (le_refl r.size) (Nat.lt_succ_self r.size)
      (hord.rising (fun _ => heapParent_lt) v)
    refine ⟨_, rfl, ⟨hcmp', hup, ?_⟩, ?_, halloc⟩
    · show r.size + 1 ≤ r.alloc
      omega
    · refine hcells.trans ?_
      rw [cells_succ, Function.update_self, hsize, MinQueue.contents]
      congr 1
      exact cells_congr fun i hi => by rw [Function.update_of_ne (by omega), he i hi]

/-- **`minq_peek`** shows an element with the least key. -/
theorem minqPeek_spec (h : q.Valid key) {a : α} (ha : minqPeek q = some a) :
    a ∈ q.contents ∧ ∀ b ∈ q.contents, key a ≤ key b := by
  unfold minqPeek minqEmpty at ha
  split at ha
  · cases ha
  · rename_i hne
    obtain rfl := Option.some.inj ha
    have hpos : 0 < q.size := Nat.pos_of_ne_zero fun h0 => hne (by rw [h0]; rfl)
    refine ⟨mem_cells.mpr ⟨0, hpos, rfl⟩, fun b hb => ?_⟩
    obtain ⟨i, hi, rfl⟩ := mem_cells.mp hb
    exact h.ordered.root_le (fun _ => heapParent_lt) hi

theorem minqPeek_eq_none_iff : minqPeek q = none ↔ q.contents = 0 := by
  rw [← Multiset.card_eq_zero, MinQueue.card_contents]
  unfold minqPeek minqEmpty
  split
  · rename_i h0
    simpa using h0
  · rename_i h0
    simpa using h0

/-- **`minq_pop`** removes the element that `minq_peek` shows, and no other. -/
theorem minqPop_spec (h : q.Valid key) {a : α} (ha : minqPeek q = some a) :
    (minqPop q).Valid key ∧ q.contents = a ::ₘ (minqPop q).contents ∧
      (minqPop q).alloc = q.alloc ∧ (minqPop q).size + 1 = q.size := by
  unfold minqPeek at ha
  split at ha
  · cases ha
  rename_i hne
  obtain rfl := Option.some.inj ha
  obtain ⟨n, hn⟩ : ∃ n, q.size = n + 1 :=
    Nat.exists_eq_succ_of_ne_zero fun h0 => hne (by unfold minqEmpty; rw [h0]; rfl)
  have hshort := h.ordered.mono (show n ≤ q.size by omega)
  obtain ⟨e, hpop, hord, hcells⟩ := @heapifyDown_spec _ _ _ key n
    { q with size := n, e := Function.update q.e 0 (q.e n) } 0 h.compares (by simp)
    (hshort.sinking (q.e n))
  have heq : minqPop q = { q with size := n, e := e } := by
    rw [minqPop, if_neg hne]
    simp only [hn, Nat.add_sub_cancel]
    exact hpop
  rw [heq]
  refine ⟨⟨h.compares, hord, ?_⟩, ?_, rfl, hn.symm⟩
  · have := h.capacity
    show n ≤ q.alloc
    omega
  · show cells q.e q.size = q.e 0 ::ₘ cells e n
    rw [hcells]
    dsimp only
    rw [hn]
    exact cells_remove q.e (Nat.zero_le n)

end

end TrtpNetwork
