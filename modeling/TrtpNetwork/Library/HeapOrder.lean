import Mathlib.Algebra.Order.Group.Nat
import Mathlib.Data.Multiset.Range
import Mathlib.Data.Multiset.MapFold
import Mathlib.Logic.Equiv.Basic
import Mathlib.Logic.Function.Basic

/-!
# Arrays in heap order

A heap keeps a tree in an array, and a node is found from its child by arithmetic on the index.
The only thing the order needs of that arithmetic is that a parent stands in front of its children,
so the tree is given here by a function `parent` with `parent i < i` for every `i` but the root 0,
and nothing is said about how many children a node has.

An insertion lets an element rise and a removal lets one sink.  Each is a sequence of exchanges of a
node with its parent, and in between the order holds but for one node: `Rising` and `Sinking` say
what holds, `Rising.swap` and `Sinking.swap` that an exchange passes it on, and `Rising.done` and
`Sinking.done` that the order is restored where the exchanges stop.  That no element is lost is one
lemma for both, `cells_swap`.
-/

namespace TrtpNetwork

variable {α β : Type*}

/-! ## The elements of an array -/

/-- The elements in the first `n` cells. -/
def cells (e : ℕ → α) (n : ℕ) : Multiset α := (Multiset.range n).map e

theorem cells_succ (e : ℕ → α) (n : ℕ) : cells e (n + 1) = e n ::ₘ cells e n := by
  rw [cells, Multiset.range_succ, Multiset.map_cons, cells]

@[simp] theorem card_cells (e : ℕ → α) (n : ℕ) : (cells e n).card = n := by
  rw [cells, Multiset.card_map, Multiset.card_range]

theorem mem_cells {e : ℕ → α} {n : ℕ} {a : α} : a ∈ cells e n ↔ ∃ i < n, e i = a := by
  rw [cells, Multiset.mem_map]
  simp only [Multiset.mem_range]

theorem cells_congr {e e' : ℕ → α} {n : ℕ} (h : ∀ i < n, e i = e' i) : cells e n = cells e' n :=
  Multiset.map_congr rfl fun i hi => h i (Multiset.mem_range.mp hi)

/-- **Exchanging two cells loses nothing.** -/
theorem cells_swap (e : ℕ → α) {n i j : ℕ} (hi : i < n) (hj : j < n) :
    cells (e ∘ Equiv.swap i j) n = cells e n := by
  have hrange : (Multiset.range n).map (Equiv.swap i j) = Multiset.range n := by
    refine Multiset.Nodup.ext ?_ (Multiset.nodup_range n) |>.mpr fun k => ?_
    · exact (Multiset.nodup_range n).map (Equiv.swap i j).injective
    · simp only [Multiset.mem_map, Multiset.mem_range]
      constructor
      · rintro ⟨l, hl, rfl⟩
        rw [Equiv.swap_apply_def]
        split
        · exact hj
        · split
          · exact hi
          · exact hl
      · intro hk
        refine ⟨Equiv.swap i j k, ?_, Equiv.swap_apply_self i j k⟩
        rw [Equiv.swap_apply_def]
        split
        · exact hj
        · split
          · exact hi
          · exact hk
  rw [cells, cells, ← Multiset.map_map, hrange]

/-- Taking one element out by putting the last one in its place. -/
theorem cells_remove (e : ℕ → α) {n i : ℕ} (hi : i ≤ n) :
    cells e (n + 1) = e i ::ₘ cells (Function.update e i (e n)) n := by
  have hlast : (e ∘ Equiv.swap i n) n = e i := by simp
  rw [← cells_swap e (show i < n + 1 by omega) (Nat.lt_succ_self n), cells_succ, hlast]
  congr 1
  refine cells_congr fun k hk => ?_
  rw [Function.comp_apply]
  by_cases hki : k = i
  · rw [hki, Equiv.swap_apply_left, Function.update_self]
  · rw [Equiv.swap_apply_of_ne_of_ne hki (by omega), Function.update_of_ne hki]

/-- Filling a cell by moving a hole: the element of another cell goes into it, and the new element
into the other. -/
theorem update_update_eq_swap (e : ℕ → α) {i j : ℕ} (hij : i ≠ j) (v : α) :
    Function.update (Function.update e i (e j)) j v = Function.update e i v ∘ Equiv.swap i j := by
  funext k
  rw [Function.comp_apply, Equiv.swap_apply_def]
  by_cases hkj : k = j
  · subst hkj
    rw [Function.update_self, if_neg hij.symm, if_pos rfl, Function.update_self]
  · rw [Function.update_of_ne hkj]
    by_cases hki : k = i
    · subst hki
      rw [Function.update_self, if_pos rfl, Function.update_of_ne hij.symm]
    · rw [if_neg hki, if_neg hkj, Function.update_of_ne hki, Function.update_of_ne hki]

/-! ## The order -/

section

variable [Preorder β] (key : α → β) (parent : ℕ → ℕ)

/-- No element stands below one with a greater key. -/
def HeapOrdered (e : ℕ → α) (n : ℕ) : Prop :=
  ∀ i, 0 < i → i < n → key (e (parent i)) ≤ key (e i)

/-- The order holds but for node `i` and its parent, and would hold without node `i`. -/
structure Rising (e : ℕ → α) (n i : ℕ) : Prop where
  off : ∀ j, 0 < j → j < n → j ≠ i → key (e (parent j)) ≤ key (e j)
  across : 0 < i → ∀ j, 0 < j → j < n → parent j = i → key (e (parent i)) ≤ key (e j)

/-- The order holds but for node `i` and its children, and would hold without node `i`. -/
structure Sinking (e : ℕ → α) (n i : ℕ) : Prop where
  off : ∀ j, 0 < j → j < n → parent j ≠ i → key (e (parent j)) ≤ key (e j)
  across : 0 < i → ∀ j, 0 < j → j < n → parent j = i → key (e (parent i)) ≤ key (e j)

variable {key parent} {e : ℕ → α} {n i c : ℕ}

/-- **The root comes first.** -/
theorem HeapOrdered.root_le (h : HeapOrdered key parent e n)
    (hparent : ∀ j, 0 < j → parent j < j) (hi : i < n) : key (e 0) ≤ key (e i) := by
  induction i using Nat.strong_induction_on with
  | _ i ih =>
    rcases Nat.eq_zero_or_pos i with rfl | hpos
    · exact le_refl _
    · have hlt := hparent i hpos
      exact (ih (parent i) hlt (by omega)).trans (h i hpos hi)

/-- A shorter heap. -/
theorem HeapOrdered.mono (h : HeapOrdered key parent e n) {m : ℕ} (hm : m ≤ n) :
    HeapOrdered key parent e m :=
  fun i hpos hi => h i hpos (by omega)

theorem HeapOrdered.congr {e' : ℕ → α} (h : HeapOrdered key parent e n)
    (hparent : ∀ j, 0 < j → parent j < j) (he : ∀ j < n, e' j = e j) :
    HeapOrdered key parent e' n := by
  intro j hpos hj
  have hlt := hparent j hpos
  rw [he j hj, he (parent j) (by omega)]
  exact h j hpos hj

/-! ## Rising -/

/-- An element put behind the last one begins to rise. -/
theorem HeapOrdered.rising (h : HeapOrdered key parent e n)
    (hparent : ∀ j, 0 < j → parent j < j) (v : α) :
    Rising key parent (Function.update e n v) (n + 1) n where
  off := by
    intro j hpos hj hjn
    have hlt := hparent j hpos
    rw [Function.update_of_ne (by omega), Function.update_of_ne hjn]
    exact h j hpos (by omega)
  across := by
    intro _ j hpos hj hjn
    have hlt := hparent j hpos
    omega

/-- **One step up**: a node exchanged with its parent. -/
theorem Rising.swap (h : Rising key parent e n i) (hparent : ∀ j, 0 < j → parent j < j)
    (hpos : 0 < i) (hi : i < n) (hlt : key (e i) ≤ key (e (parent i))) :
    Rising key parent (e ∘ Equiv.swap i (parent i)) n (parent i) := by
  have hp := hparent i hpos
  have hati : (e ∘ Equiv.swap i (parent i)) i = e (parent i) := by simp
  have hatp : (e ∘ Equiv.swap i (parent i)) (parent i) = e i := by simp
  have hoff : ∀ j, j ≠ i → j ≠ parent i → (e ∘ Equiv.swap i (parent i)) j = e j := by
    intro j hji hjp
    rw [Function.comp_apply, Equiv.swap_apply_of_ne_of_ne hji hjp]
  constructor
  · intro j hj0 hjn hjp
    by_cases hji : j = i
    · subst hji
      rw [hatp, hati]
      exact hlt
    · rw [hoff j hji hjp]
      by_cases hpj : parent j = i
      · -- the child of the node that went up now has the old parent above it
        rw [hpj, hati]
        exact h.across hpos j hj0 hjn hpj
      · by_cases hpp : parent j = parent i
        · rw [hpp, hatp]
          have hsibling := h.off j hj0 hjn hji
          rw [hpp] at hsibling
          exact hlt.trans hsibling
        · rw [hoff _ hpj hpp]
          exact h.off j hj0 hjn hji
  · intro hp0 j hj0 hjn hpj
    have hpp := hparent (parent i) hp0
    have habove : key (e (parent (parent i))) ≤ key (e (parent i)) :=
      h.off (parent i) hp0 (by omega) (by omega)
    have hjlt := hparent j hj0
    rw [hoff (parent (parent i)) (by omega) (by omega)]
    by_cases hji : j = i
    · subst hji
      rw [hati]
      exact habove
    · rw [hoff j hji (by omega)]
      have hsibling := h.off j hj0 hjn hji
      rw [hpj] at hsibling
      exact habove.trans hsibling

/-- The element has risen far enough. -/
theorem Rising.done (h : Rising key parent e n i)
    (hstop : 0 < i → key (e (parent i)) ≤ key (e i)) : HeapOrdered key parent e n := by
  intro j hpos hj
  by_cases hji : j = i
  · subst hji
    exact hstop hpos
  · exact h.off j hpos hj hji

/-! ## Sinking -/

/-- An element put in the place of the root begins to sink. -/
theorem HeapOrdered.sinking (h : HeapOrdered key parent e n) (v : α) :
    Sinking key parent (Function.update e 0 v) n 0 where
  off := by
    intro j hpos hj hne
    rw [Function.update_of_ne hne, Function.update_of_ne (by omega)]
    exact h j hpos hj
  across := fun hpos => absurd hpos (by omega)

/-- **One step down**: a node exchanged with the least of its children. -/
theorem Sinking.swap (h : Sinking key parent e n i) (hparent : ∀ j, 0 < j → parent j < j)
    (hpos : 0 < c) (hc : c < n) (hchild : parent c = i) (hlt : key (e c) ≤ key (e i))
    (hleast : ∀ j, 0 < j → j < n → parent j = i → key (e c) ≤ key (e j)) :
    Sinking key parent (e ∘ Equiv.swap i c) n c := by
  have hic : i < c := by
    have := hparent c hpos
    omega
  have hati : (e ∘ Equiv.swap i c) i = e c := by simp
  have hatc : (e ∘ Equiv.swap i c) c = e i := by simp
  have hoff : ∀ j, j ≠ i → j ≠ c → (e ∘ Equiv.swap i c) j = e j := by
    intro j hji hjc
    rw [Function.comp_apply, Equiv.swap_apply_of_ne_of_ne hji hjc]
  constructor
  · intro j hj0 hjn hjc
    have hjlt := hparent j hj0
    by_cases hji : j = i
    · -- the child that went up stands below the old parent of the node
      subst hji
      rw [hati, hoff (parent j) (by omega) (by omega)]
      exact h.across hj0 c hpos hc hchild
    · by_cases hjc' : j = c
      · subst hjc'
        rw [hchild, hati, hatc]
        exact hlt
      · rw [hoff j hji hjc']
        by_cases hpj : parent j = i
        · rw [hpj, hati]
          exact hleast j hj0 hjn hpj
        · rw [hoff _ hpj hjc]
          exact h.off j hj0 hjn hpj
  · intro _ j hj0 hjn hpj
    have hjlt := hparent j hj0
    rw [hchild, hati, hoff j (by omega) (by omega)]
    have hbelow := h.off j hj0 hjn (by omega)
    rwa [hpj] at hbelow

/-- The element has sunk far enough. -/
theorem Sinking.done (h : Sinking key parent e n i)
    (hstop : ∀ j, 0 < j → j < n → parent j = i → key (e i) ≤ key (e j)) :
    HeapOrdered key parent e n := by
  intro j hpos hj
  by_cases hpj : parent j = i
  · rw [hpj]
    exact hstop j hpos hj hpj
  · exact h.off j hpos hj hpj

end

end TrtpNetwork
