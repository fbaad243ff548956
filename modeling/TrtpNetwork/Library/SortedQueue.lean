import Mathlib.Data.List.Sort
import Mathlib.Data.Multiset.AddSub

/-!
# A priority queue, as a sorted list of keys

What a priority queue is for does not depend on how it stores its elements: the keys it holds, in
ascending order, and a capacity, beyond which an insertion has to make room first and may fail to.
Elements with equal keys are not told apart here, so this is a function of the operations alone, and
an implementation that breaks ties in its own way can still be held against it.
-/

namespace TrtpNetwork

variable {β : Type*} [LinearOrder β]

/-- The keys of a priority queue, and how many it has room for. -/
structure SortedQueue (β : Type*) [LinearOrder β] where
  keys : List β
  sorted : keys.Pairwise (· ≤ ·)
  capacity : ℕ

namespace SortedQueue

/-- The queue without elements. -/
def empty (β : Type*) [LinearOrder β] (capacity : ℕ) : SortedQueue β where
  keys := []
  sorted := List.Pairwise.nil
  capacity := capacity

/-- An insertion.  A full queue grows by `grow` if there is room to, and else stays as it is. -/
def insert (s : SortedQueue β) (grow : ℕ) (k : β) (room : Bool) : SortedQueue β :=
  if s.keys.length < s.capacity then
    { s with
      keys := s.keys.orderedInsert (· ≤ ·) k
      sorted := s.sorted.orderedInsert k s.keys }
  else if room then
    { keys := s.keys.orderedInsert (· ≤ ·) k
      sorted := s.sorted.orderedInsert k s.keys
      capacity := s.capacity + grow }
  else s

/-- The removal of the least key. -/
def removeMin (s : SortedQueue β) : SortedQueue β :=
  { s with keys := s.keys.tail, sorted := s.sorted.tail }

/-- **The least key heads the list.** -/
theorem keys_eq_cons (s : SortedQueue β) {k : β} {m : Multiset β}
    (h : (s.keys : Multiset β) = k ::ₘ m) (hleast : ∀ b ∈ m, k ≤ b) :
    s.keys.head? = some k ∧ (s.removeMin.keys : Multiset β) = m := by
  cases hkeys : s.keys with
  | nil =>
    rw [hkeys] at h
    exact absurd h.symm (Multiset.cons_ne_zero)
  | cons a l =>
    have hsorted := s.sorted
    rw [hkeys] at h hsorted
    have hk : k ∈ a :: l := by
      rw [← Multiset.mem_coe, h]
      exact Multiset.mem_cons_self k m
    have ha : a ∈ k ::ₘ m := by
      rw [← h]
      exact Multiset.mem_coe.mpr List.mem_cons_self
    have hak : a ≤ k := by
      rcases List.mem_cons.mp hk with rfl | hmem
      · exact le_refl _
      · exact List.rel_of_pairwise_cons hsorted hmem
    have hka : k ≤ a := by
      rcases Multiset.mem_cons.mp ha with rfl | hmem
      · exact le_refl _
      · exact hleast a hmem
    obtain rfl : a = k := le_antisymm hak hka
    refine ⟨rfl, ?_⟩
    show (s.keys.tail : Multiset β) = m
    rw [hkeys, List.tail_cons]
    exact (Multiset.cons_inj_right a).mp h

end SortedQueue

/-- **What is taken out in order is the front.**  Of elements with different keys, listed in
ascending order, some are taken out in ascending order and none of them behind one that stays: then
they are the first ones of the list. -/
theorem exists_append_of_front {α : Type*} {key : α → β} {ws ps : List α} {m : Multiset α}
    (hws : ws.Pairwise fun a b => key a < key b) (h : (ws : Multiset α) = (ps : Multiset α) + m)
    (hps : ps.Pairwise fun a b => key a ≤ key b) (hfront : ∀ p ∈ ps, ∀ q ∈ m, key p ≤ key q) :
    ∃ rest, ws = ps ++ rest ∧ (rest : Multiset α) = m := by
  induction ps generalizing ws with
  | nil => exact ⟨ws, rfl, by rw [h, Multiset.coe_nil, Multiset.zero_add]⟩
  | cons p ps ih =>
    obtain ⟨hp, hps'⟩ := List.pairwise_cons.mp hps
    have hmem : p ∈ ws := by
      rw [← Multiset.mem_coe, h]
      exact Multiset.mem_add.mpr (Or.inl (Multiset.mem_coe.mpr List.mem_cons_self))
    have hle : ∀ q ∈ ws, key p ≤ key q := by
      intro q hq
      rw [← Multiset.mem_coe, h, Multiset.mem_add, Multiset.mem_coe, List.mem_cons] at hq
      rcases hq with (rfl | hq) | hq
      · exact le_refl _
      · exact hp q hq
      · exact hfront p List.mem_cons_self q hq
    cases ws with
    | nil => exact absurd hmem List.not_mem_nil
    | cons a ws =>
      obtain ⟨ha, hws'⟩ := List.pairwise_cons.mp hws
      obtain rfl : p = a := by
        rcases List.mem_cons.mp hmem with heq | hlater
        · exact heq
        · exact absurd (ha p hlater) (not_lt.mpr (hle a List.mem_cons_self))
      have hrest : (ws : Multiset α) = (ps : Multiset α) + m := by
        rw [← Multiset.cons_coe, ← Multiset.cons_coe, Multiset.cons_add] at h
        exact (Multiset.cons_inj_right p).mp h
      obtain ⟨rest, rfl, hm⟩ :=
        ih hws' hrest hps' fun q hq => hfront q (List.mem_cons_of_mem p hq)
      exact ⟨rest, rfl, hm⟩

end TrtpNetwork
